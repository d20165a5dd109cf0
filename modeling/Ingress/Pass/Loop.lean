import Ingress.Pass.Summary
import Ingress.Pass.Trigger
import Ingress.Text.Duration

/-!
# The pass loop

The loop runs a pass at its start, whenever a resync interval has gone by, and for every token in
its trigger channel, until it is asked to stop or its channel is exhausted. What it can do next
is a `Turn`; which of several possible turns comes first is fixed here as the order of
`Turn.all`, but every turn has its own meaning (`LoopState.take`), so that any order can be
spoken about.

Time is counted in milliseconds. A tick that is noticed late is not made up for: the next one
comes a full interval after that moment.
-/

namespace Ingress

/-- The ticks of the resync interval. -/
structure Ticker where
  /-- The interval, in milliseconds. -/
  period : Nat
  /-- When the next tick is due. -/
  next : Nat
  deriving DecidableEq, Repr

namespace Ticker

/-- How late a tick may be noticed and still count as on time. -/
def tolerance : Nat := 5

/-- Whether a tick is due. -/
def isDue (t : Ticker) (now : Nat) : Bool := t.next ≤ now

/-- Take the tick that is due. -/
def advance (t : Ticker) (now : Nat) : Ticker :=
  { t with next := (if t.next + tolerance < now then now else t.next) + t.period }

end Ticker

/-- Where the loop stands. -/
inductive LoopPhase where
  /-- It has not been started. -/
  | unstarted
  /-- It waits for its next turn. -/
  | running (ticker : Ticker)
  /-- It has stopped for good. -/
  | stopped
  deriving DecidableEq, Repr

/-- What the loop can do next. -/
inductive Turn where
  /-- Obey the request to stop. -/
  | shutdown
  /-- Take a tick and run a pass. -/
  | resync
  /-- Take a token and run a pass. -/
  | trigger
  /-- Notice that there will be no more tokens, and stop. -/
  | exhausted
  deriving DecidableEq, Repr

namespace Turn

/-- Every turn, the more urgent first. -/
def all : List Turn := [.shutdown, .resync, .trigger, .exhausted]

/-- Whether a turn runs a pass. The other turns stop the loop. -/
def runsPass : Turn → Bool
  | .resync | .trigger => true
  | .shutdown | .exhausted => false

/-- What the log says about a turn. -/
def log : Turn → Log
  | .shutdown => [⟨.info, "Stopping route reconciliation loop"⟩]
  | .resync => [⟨.debug, "Periodic resync"⟩]
  | .trigger => []
  | .exhausted => [⟨.info, "Reconciliation trigger channel closed"⟩]

end Turn

/-- All that decides when passes run. -/
structure LoopState where
  /-- The time. -/
  now : Nat := 0
  /-- Where the loop stands. -/
  phase : LoopPhase := .unstarted
  /-- The tokens that ask for passes. -/
  channel : TriggerChannel := {}
  /-- Whether the loop has been asked to stop, or cannot be asked any more. -/
  shutdown : Bool := false
  deriving DecidableEq, Repr

namespace LoopState

/-- Whether a turn is possible. -/
def isReady (s : LoopState) (turn : Turn) : Bool :=
  match s.phase with
  | .unstarted | .stopped => false
  | .running ticker =>
    match turn with
    | .shutdown => s.shutdown
    | .resync => ticker.isDue s.now
    | .trigger => s.channel.receive?.isSome
    | .exhausted => s.channel.isExhausted

/-- The turn that comes next, if one is possible. -/
def nextTurn? (s : LoopState) : Option Turn :=
  Turn.all.find? s.isReady

/-- Stop for good. -/
def stop (s : LoopState) : LoopState :=
  { s with phase := .stopped, channel := s.channel.closeReceiver }

/-- What a turn changes. A turn that is not possible changes nothing. -/
def take (s : LoopState) (turn : Turn) : LoopState :=
  match s.phase with
  | .unstarted | .stopped => s
  | .running ticker =>
    match turn with
    | .shutdown | .exhausted => s.stop
    | .resync => { s with phase := .running (ticker.advance s.now) }
    | .trigger =>
      match s.channel.receive? with
      | some channel => { s with channel }
      | none => s

/-- Start the loop, if it has not been started. Its first tick is due at once. Without an
interval there can be no ticks, and the loop is over. -/
def start (period : Nat) (s : LoopState) : LoopState :=
  if s.phase ≠ .unstarted then s
  else if period = 0 then s.stop
  else { s with phase := .running { period, next := s.now } }

/-- How many turns are possible at most before time has to go on. -/
def turnBound (s : LoopState) : Nat :=
  match s.phase with
  | .running ticker => s.channel.pending + (s.now + 1 - ticker.next) + 1
  | .unstarted | .stopped => 0

end LoopState

/-- What the log says when a loop starts. -/
def loopStartLine (period : Nat) : LogLine where
  level := .info
  message := "Starting route reconciliation loop, resyncing every " ++ Text.durationText period

/-- What the log says after a pass. -/
def passLine : Except StoreError Summary → LogLine
  | .ok summary => summary.logLine
  | .error error =>
    ⟨.error, "Unable to list routes, skipping reconciliation pass: " ++ error.message⟩

/-- The loop with everything that its passes read and write. -/
structure PassLoop (σ : Type) where
  /-- All that decides when passes run. -/
  state : LoopState := {}
  /-- What passes read and write. -/
  world : σ

namespace PassLoop

/-- A pass on everything that it reads and writes. -/
abbrev Pass (σ : Type) := σ → (Except StoreError Summary × Log) × σ

/-- Take a turn and, if the turn asks for it, run a pass. -/
def turn (pass : Pass σ) (l : PassLoop σ) (turn : Turn) : Log × PassLoop σ :=
  let state := l.state.take turn
  if turn.runsPass then
    let ((result, said), world) := pass l.world
    (turn.log ++ said ++ [passLine result], { state, world })
  else (turn.log, { l with state })

/-- Take so many turns at most. -/
def turns (pass : Pass σ) : Nat → PassLoop σ → Log × PassLoop σ
  | 0, l => ([], l)
  | n + 1, l =>
    match l.state.nextTurn? with
    | none => ([], l)
    | some next =>
      let (said, l) := l.turn pass next
      let (more, l) := turns pass n l
      (said ++ more, l)

/-- Take turns until none is possible. -/
def settle (pass : Pass σ) (l : PassLoop σ) : Log × PassLoop σ :=
  turns pass l.state.turnBound l

/-- Start the loop. -/
def start (pass : Pass σ) (period : Nat) (l : PassLoop σ) : Log × PassLoop σ :=
  if l.state.phase ≠ .unstarted then ([], l)
  else
    let (said, l) := settle pass { l with state := l.state.start period }
    (loopStartLine period :: said, l)

/-- Let time leap. -/
def leap (pass : Pass σ) (milliseconds : Nat) (l : PassLoop σ) : Log × PassLoop σ :=
  settle pass { l with state := { l.state with now := l.state.now + milliseconds } }

/-- How long nothing happens by itself, at most a given time. -/
def quietFor (l : PassLoop σ) (milliseconds : Nat) : Nat :=
  match l.state.phase with
  | .running ticker => min milliseconds (ticker.next - l.state.now)
  | .unstarted | .stopped => milliseconds

/-- Let time go by from tick to tick. Every leap but the last is at least a millisecond long, so
one round for each millisecond and one more are enough. -/
def elapse (pass : Pass σ) : Nat → Nat → PassLoop σ → Log × PassLoop σ
  | 0, _, l => ([], l)
  | rounds + 1, milliseconds, l =>
    let first := l.quietFor milliseconds
    let (said, l) := l.leap pass first
    if first = milliseconds then (said, l)
    else
      let (more, l) := elapse pass rounds (milliseconds - first) l
      (said ++ more, l)

/-- Let time go by, so that every tick is noticed on time. -/
def sleep (pass : Pass σ) (milliseconds : Nat) (l : PassLoop σ) : Log × PassLoop σ :=
  elapse pass (milliseconds + 1) milliseconds l

/-- Ask the loop to stop, or let nobody be able to ask it: it stops. -/
def requestStop (pass : Pass σ) (l : PassLoop σ) : Log × PassLoop σ :=
  settle pass { l with state := { l.state with shutdown := true } }

/-- Let nobody ask for passes any more. -/
def closeTriggers (pass : Pass σ) (l : PassLoop σ) : Log × PassLoop σ :=
  settle pass { l with state := { l.state with channel := l.state.channel.closeSender } }

/-- Report changed routes one after the other; what became of each is answered. -/
def report : List Route → PassLoop σ → (List (Except TriggerError Unit) × Log) × PassLoop σ
  | [], l => (([], []), l)
  | route :: rest, l =>
    let ((result, said), channel) := route.requestPass l.state.channel
    let ((results, more), l) := report rest { l with state := { l.state with channel } }
    ((result :: results, said ++ more), l)

/-- Report changed routes, and let the loop go on. Once nobody can ask for passes, there is
nothing to report to. -/
def changed (pass : Pass σ) (routes : List Route) (l : PassLoop σ) :
    (List (Except TriggerError Unit) × Log) × PassLoop σ :=
  if !l.state.channel.senderOpen then (([], []), l)
  else
    let ((results, said), l) := report routes l
    let (more, l) := l.settle pass
    ((results, said ++ more), l)

end PassLoop

end Ingress
