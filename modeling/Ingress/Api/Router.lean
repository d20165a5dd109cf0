import Ingress.Api.MediaType
import Ingress.Api.Response
import Ingress.Api.SyncRequest
import Ingress.Snapshot
import Ingress.Synthesis.Synthesizer

/-!
# The endpoints

Three paths answer: one says that the controller is there, one lists the routes of the latest
snapshot by hostname, and one shows the objects that the controller would write for them if its
template labels were the ones posted. Without a snapshot the last two cannot be answered; the body
of a post is looked at before that.
-/

namespace Ingress.Api

/-- What requests are answered from. -/
structure State (K : Type) where
  /-- The snapshots. -/
  snapshots : SnapshotRepo
  /-- How objects are made. -/
  synthesizer : Synthesizer K

/-- A route in the listing by hostname. -/
structure RouteEntry where
  /-- The name. -/
  name : String
  /-- The namespace, nothing where there is none. -/
  ns : String
  /-- The URL. -/
  url : String
  /-- The names of the services of its destinations. -/
  destinations : List String
  deriving DecidableEq

namespace RouteEntry

/-- The entry of a route. -/
def ofRoute (route : Route) : RouteEntry where
  name := route.metadata.displayName
  ns := route.metadata.nsText
  url := route.fullUrl
  destinations := route.destinations.map Destination.serviceName

/-- The written form. -/
def toJson (entry : RouteEntry) : Json :=
  .object [
    ("name", .string entry.name),
    ("namespace", .string entry.ns),
    ("url", .string entry.url),
    ("destinations", .ofList .string entry.destinations)]

end RouteEntry

/-- Routes by hostname, in ascending order of hostnames. -/
abbrev Listing := Std.ExtTreeMap String (List RouteEntry)

namespace Listing

/-- The listing with one more route. -/
def add (listing : Listing) (route : Route) : Listing :=
  listing.insert route.fqdn (listing.getD route.fqdn [] ++ [.ofRoute route])

/-- The listing of routes, each hostname's in the order given. -/
def ofRoutes (routes : List Route) : Listing :=
  routes.foldl add ∅

/-- The written form. -/
def toJson (listing : Listing) : Json :=
  .object (listing.toList.map fun (fqdn, entries) => (fqdn, .ofList RouteEntry.toJson entries))

end Listing

/-- An answer with what the log says about it. -/
abbrev Reply := Response × Log

variable [Resource K]

/-- Answer from the latest snapshot. -/
def fromSnapshot (s : State K) (answer : List Route → Reply) : Reply :=
  match s.snapshots.get with
  | some snapshot => answer snapshot.routes
  | none => (ApiError.uninitialized.response, ApiError.uninitialized.log)

/-- Answer that the controller is there. -/
def answerHealth : Reply := (.ok (.text "ok"), [])

/-- Answer which routes there are. -/
def answerRoutes (s : State K) : Reply :=
  fromSnapshot s fun routes => (.ok (.json (Listing.ofRoutes routes).toJson), [])

/-- Answer which objects the routes ask for, with template labels. -/
def answerSync (s : State K) (labels : Labels) : Reply :=
  fromSnapshot s fun routes =>
    let synthesizer := s.synthesizer.withLabels labels
    (.ok (.json (.object [("children", .array (synthesizer.children routes))])),
      synthesizer.childrenLog routes)

/-- How many bytes a body may take. -/
def maxBodyBytes : Nat := 2097152

/-- Answer a post of labels. -/
def answerPost (s : State K) (r : Request) : Reply :=
  if !(r.contentType.bind fun t => MediaType.ofText? t.toList).any MediaType.isJson then
    (.unsupportedMediaType, [])
  else if maxBodyBytes < r.body.utf8ByteSize then (.tooLarge, [])
  else
    match syncLabels r.body with
    | .error .notJson => (.badRequest, [])
    | .error .wrongShape => (.unprocessable, [])
    | .ok labels => answerSync s labels

/-- The answer to a reading request; of the answer to `HEAD` only the body is left out. -/
def answerGet (r : Request) (reply : Reply) : Reply :=
  if r.method = "GET" || r.method = "HEAD" then reply
  else (.methodNotAllowed ["GET", "HEAD"], [])

/-- The answer to a request. -/
def answer (s : State K) (r : Request) : Reply :=
  match r.path with
  | "/healthz" => answerGet r answerHealth
  | "/routes" => answerGet r (answerRoutes s)
  | "/sync" =>
    if r.method = "POST" then answerPost s r else (.methodNotAllowed ["POST"], [])
  | _ => (.notFound, [])

/-- A body as it is sent: nothing in answer to `HEAD`. -/
def Body.sentFor (r : Request) (body : Body) : Body :=
  if r.method = "HEAD" then .text "" else body

end Ingress.Api
