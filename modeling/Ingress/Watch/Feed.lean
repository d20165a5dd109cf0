import Ingress.Remote.Collection
import Ingress.Watch.Event
import Ingress.Watch.Line

/-!
# The feed of watch events

The feed lists the routes, page by page, and reports them as one event. Then it watches from the
version of the list on: every notice about a route is an event and brings its own version, and a
bookmark brings a version alone. When a watch ends, the next one begins at the last version. What
goes wrong is reported as a fault, after which the feed lists anew, asks again or goes on,
depending on what the fault leaves it with.

The feed is a machine (`WatchState`) that sends requests and takes what comes back. `Feed` runs it
on given replies until it has to wait.
-/

namespace Ingress

/-- Where the feed stands. -/
inductive WatchState where
  /-- It asks for a page of the list, after those that it has. -/
  | listing (continueToken : Option String) (routes : List Route)
  /-- It asks for a watch from a version on. -/
  | listed (version : String)
  /-- It reads a watch that has reached a version. -/
  | watching (version : String)

/-- What the feed reports. -/
inductive Report where
  /-- An event. -/
  | event (event : WatchEvent)
  /-- Something went wrong. -/
  | fault

/-- A request of the feed. -/
inductive FeedRequest where
  /-- A page of the list. -/
  | list (continueToken : Option String)
  /-- A watch from a version on. -/
  | watch (version : String)
  deriving DecidableEq, Repr

namespace WatchState

/-- Where the feed begins, and where it starts over. -/
def initial : WatchState := .listing none []

/-- What the feed asks for next; nothing while it reads a watch. -/
def request? : WatchState → Option FeedRequest
  | .listing continueToken _ => some (.list continueToken)
  | .listed version => some (.watch version)
  | .watching _ => none

/-- A text that is there and not empty. -/
def given (text : Option String) : Option String :=
  text.filter (· ≠ "")

/-- Take a page of the list. -/
def takePage (routes : List Route) (page : Remote.ObjectList Route) : Option Report × WatchState :=
  let routes := routes ++ page.items
  match given page.metadata.continueToken, given page.metadata.resourceVersion with
  | some token, _ => (none, .listing (some token) routes)
  | none, some version => (some (.event (.restarted routes)), .listed version)
  | none, none => (some .fault, initial)

/-- Take a notice about a route, which has to bring its version. -/
def takeRoute (route : Route) (event : Route → WatchEvent) : Option Report × WatchState :=
  match given route.metadata.resourceVersion with
  | some version => (some (.event (event route)), .watching version)
  | none => (some .fault, initial)

/-- The code of an error that says that a version is too old. -/
def goneCode : UInt16 := 410

/-- Take a line of a watch that has reached a version. -/
def takeLine (version : String) : WatchLine → Option Report × WatchState
  | .notice (.applied route) => takeRoute route .applied
  | .notice (.deleted route) => takeRoute route .deleted
  | .notice (.bookmark reached) => (none, .watching reached)
  | .notice (.error status) =>
    (some .fault, if status.code = goneCode then initial else .watching version)
  | .unreadable => (some .fault, .watching version)
  | .incomplete => (none, .watching version)

end WatchState

/-- A reply that the feed may get. -/
inductive FeedReply where
  /-- A reply that comes as a whole. -/
  | whole (reply : Remote.Reply)
  /-- A reply that comes line by line, and after which, unless it ends, other lines may come. -/
  | stream (lines : List String) (ends : Bool) (late : List String)

/-- What is left of a reply that comes line by line. -/
structure OpenStream where
  /-- The lines that are there. -/
  lines : List String
  /-- Whether the stream ends after them. -/
  ends : Bool
  /-- The lines that come later. -/
  late : List String := []

/-- The feed with the replies that it gets. -/
structure Feed where
  /-- Where it stands. -/
  state : WatchState := .initial
  /-- The replies that it has not got yet. -/
  replies : List FeedReply
  /-- What is left of the watch that it reads. -/
  stream : OpenStream := { lines := [], ends := true }
  /-- Whether it waits for a reply that never comes. -/
  hangs : Bool := false
  /-- What it has asked for. -/
  requests : List FeedRequest := []

namespace Feed

/-- A list out of a whole reply. -/
def pageOf (reply : Remote.Reply) : Except RequestError (Remote.ObjectList Route) :=
  reply.content (Remote.decode (Remote.ObjectList.shape Route.shape))

/-- A reply that comes line by line, taken as a whole. -/
def wholeOf (lines : List String) : Remote.Reply where
  status := 200
  body := String.join (lines.map (· ++ "\n"))

/-- A whole reply, taken line by line. -/
def streamOf (reply : Remote.Reply) : OpenStream where
  lines := streamLines reply.body
  ends := true

/-- Lines as they come: what was sent as one may be several. -/
def asLines (sent : List String) : List String :=
  sent.flatMap fun text => streamLines (text ++ "\n")

/-- Get a page of the list, after the routes of earlier pages. -/
def getPage (f : Feed) (routes : List Route) (reply : Remote.Reply) : Option Report × Feed :=
  match pageOf reply with
  | .ok page =>
    let (report, state) := WatchState.takePage routes page
    (report, { f with state })
  | .error _ => (some .fault, { f with state := .initial })

/-- Get a reply to the request that the feed has sent. -/
def getReply (f : Feed) (reply : FeedReply) : Option Report × Feed :=
  match f.state, reply with
  | .listing _ routes, .whole reply => f.getPage routes reply
  | .listing _ routes, .stream lines true _ => f.getPage routes (wholeOf lines)
  | .listing .., .stream _ false _ => (none, { f with hangs := true })
  | .listed version, .whole reply =>
    (none, { f with state := .watching version, stream := streamOf reply })
  | .listed version, .stream lines ends late =>
    (none, {
      f with
      state := .watching version
      stream := { lines := asLines lines, ends, late } })
  | .watching _, _ => (none, f)

/-- Do the next thing and report it if it is worth it; nothing while the feed has to wait. -/
def step? (f : Feed) : Option (Option Report × Feed) :=
  match f.state with
  | .watching version =>
    match f.stream.lines with
    | line :: rest =>
      let (report, state) := WatchState.takeLine version (.ofText line)
      some (report, { f with state, stream := { f.stream with lines := rest } })
    | [] => if f.stream.ends then some (none, { f with state := .listed version }) else none
  | state =>
    if f.hangs then none
    else
      let f := { f with requests := f.requests ++ state.request?.toList }
      match f.replies with
      | [] => some (none, { f with hangs := true })
      | reply :: rest => some (getReply { f with replies := rest } reply)

/-- How many steps a reply can be good for: one for each line, one to get it, one to end it. -/
def FeedReply.weight : FeedReply → Nat
  | .whole reply => (streamLines reply.body).length + 2
  | .stream lines .. => (asLines lines).length + 2

/-- How many steps the feed can take. -/
def weight (f : Feed) : Nat :=
  f.stream.lines.length + (f.replies.map FeedReply.weight).foldr (· + ·) 0 + 2

/-- So many steps at most, of which none is taken after the first event if `once` is set. -/
def steps (once : Bool) : Nat → Feed → List Report × Feed
  | 0, f => ([], f)
  | n + 1, f =>
    match f.step? with
    | none => ([], f)
    | some (none, f) => steps once n f
    | some (some report, f) =>
      match once, report with
      | true, .event _ => ([report], f)
      | _, _ =>
        let (reports, f) := steps once n f
        (report :: reports, f)

/-- Go on until the feed has to wait. -/
def run (f : Feed) : List Report × Feed :=
  f.steps false f.weight

/-- Let the lines come that come later. -/
def release (f : Feed) : Feed :=
  { f with stream := { f.stream with lines := f.stream.lines ++ asLines f.stream.late, late := [] } }

/-- Go on until the feed has to wait or has an event. -/
def runToEvent (f : Feed) : List Report × Feed :=
  f.steps true f.weight

end Feed

end Ingress
