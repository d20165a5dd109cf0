import Ingress.Pass.Loop
import Ingress.Pass.Reconcile
import Ingress.Watch.Event

/-!
# The pass loop in small steps

A turn of the pass loop takes its time: after it has been taken, its pass asks for the routes, and
with the answer the pass goes to work. Between any two of these steps routes may change, and each
change asks for a pass. A `LoopRun` tells the steps apart, so that every order of events can be
spoken about; each step is the program's own. Where nothing happens in between, the steps of a
turn are the turn of the pass loop (`LoopRun.run?_steps`).
-/

namespace Ingress

namespace Reconciler

variable {m : Type → Type} [Monad m] {K : Type} [Managed K] [DecidableEq K]

/-- The pass after it has asked for the routes. -/
def proceed (r : Reconciler m K) :
    Except StoreError (List Route) → m (Except StoreError Summary × Log)
  | .error e => return (.error e, [])
  | .ok listed => do
    let p ← r.reconcileListed listed
    return (.ok p.summary, p.log)

/-- A pass begins by asking for the routes. -/
theorem reconcile_eq_bind_proceed (r : Reconciler m K) :
    r.reconcile = r.routes >>= r.proceed := by
  unfold reconcile
  congr 1

end Reconciler

/-- What the pass loop is about. -/
inductive Stage where
  /-- It waits for its next turn. -/
  | waiting
  /-- It has taken a turn, and its pass is about to ask for the routes. -/
  | due (turn : Turn)
  /-- Its pass has got an answer and is at work. -/
  | working (answer : Except StoreError (List Route))

/-- How many passes are begun and not finished. -/
def Stage.begun : Stage → Nat
  | .waiting => 0
  | .due _ | .working _ => 1

/-- The pass loop among those who ask for passes. -/
structure LoopRun (σ : Type) where
  /-- All that decides when passes run. -/
  state : LoopState := {}
  /-- What the loop is about. -/
  stage : Stage := .waiting
  /-- What passes read and write. -/
  world : σ
  /-- What became of the passes that are finished, and what they said. -/
  passes : List (Except StoreError Summary × Log) := []
  /-- What the updates of routes came to. -/
  answers : List (Except String Unit) := []

/-- What may happen next. -/
inductive LoopEvent (σ : Type) where
  /-- The loop is started with a resync interval. -/
  | begin (period : Nat)
  /-- Time goes by. -/
  | wait (milliseconds : Nat)
  /-- The loop is asked to stop. -/
  | askStop
  /-- Nobody will ask for passes any more. -/
  | closeTriggers
  /-- Somebody else changes what passes read. -/
  | outside (change : σ → σ)
  /-- A route has changed, and its update asks for a pass. -/
  | update (route : Route)
  /-- The loop takes a turn. -/
  | turn (taken : Turn)
  /-- A pass asks for the routes. -/
  | list
  /-- A pass does what is left of it. -/
  | finish

namespace LoopEvent

variable {σ : Type}

/-- Whether the loop itself does it. -/
def ofLoop : LoopEvent σ → Bool
  | .turn _ | .list | .finish => true
  | .begin _ | .wait _ | .askStop | .closeTriggers | .outside _ | .update _ => false

/-- The turn that is taken. -/
def turn? : LoopEvent σ → Option Turn
  | .turn taken => some taken
  | _ => none

/-- The route that has changed. -/
def route? : LoopEvent σ → Option Route
  | .update route => some route
  | _ => none

end LoopEvent

/-- The steps of a turn. -/
def Turn.steps (σ : Type) (t : Turn) : List (LoopEvent σ) :=
  if t.runsPass then [.turn t, .list, .finish] else [.turn t]

namespace LoopRun

variable {σ K : Type} [Managed K] [DecidableEq K] (r : Reconciler (StateM σ) K)

/-- What an event changes; nothing is said of an event that is not possible. -/
def step? (l : LoopRun σ) : LoopEvent σ → Option (LoopRun σ)
  | .begin period => some { l with state := l.state.start period }
  | .wait milliseconds =>
    some { l with state := { l.state with now := l.state.now + milliseconds } }
  | .askStop => some { l with state := { l.state with shutdown := true } }
  | .closeTriggers =>
    some { l with state := { l.state with channel := l.state.channel.closeSender } }
  | .outside change => some { l with world := change l.world }
  | .update route =>
    if l.state.channel.senderOpen then
      let asked := requestPassUpdate route l.state.channel
      some { l with
        state := { l.state with channel := asked.2 }
        answers := l.answers ++ [asked.1.1] }
    else none
  | .turn turn =>
    match l.stage with
    | .waiting =>
      if l.state.isReady turn then
        some { l with
          state := l.state.take turn
          stage := if turn.runsPass then .due turn else .waiting }
      else none
    | .due _ | .working _ => none
  | .list =>
    match l.stage with
    | .due _ =>
      let listed := r.routes l.world
      some { l with stage := .working listed.1, world := listed.2 }
    | .waiting | .working _ => none
  | .finish =>
    match l.stage with
    | .working answer =>
      let pass := r.proceed answer l.world
      some { l with stage := .waiting, world := pass.2, passes := l.passes ++ [pass.1] }
    | .waiting | .due _ => none

/-- What events change, one after the other. -/
def run? (l : LoopRun σ) (events : List (LoopEvent σ)) : Option (LoopRun σ) :=
  events.foldlM (step? r) l

variable {r} {l l' : LoopRun σ}

theorem run?_nil : l.run? r [] = some l := rfl

theorem run?_cons {event : LoopEvent σ} {rest : List (LoopEvent σ)} :
    l.run? r (event :: rest) = some l' ↔
      ∃ next, l.step? r event = some next ∧ next.run? r rest = some l' := by
  unfold run?
  rw [List.foldlM_cons]
  exact Option.bind_eq_some_iff

theorem run?_append {first second : List (LoopEvent σ)} :
    l.run? r (first ++ second) = some l' ↔
      ∃ mid, l.run? r first = some mid ∧ mid.run? r second = some l' := by
  unfold run?
  rw [List.foldlM_append]
  exact Option.bind_eq_some_iff

theorem run?_singleton {event : LoopEvent σ} :
    l.run? r [event] = some l' ↔ l.step? r event = some l' := by
  simp [run?_cons, run?_nil]

/-! ### What each event asks for and changes -/

theorem step?_update_eq_some_iff {route : Route} :
    l.step? r (.update route) = some l' ↔ l.state.channel.senderOpen = true ∧
      { l with
        state := { l.state with channel := (requestPassUpdate route l.state.channel).2 }
        answers := l.answers ++ [(requestPassUpdate route l.state.channel).1.1] } = l' := by
  unfold step?
  simp only [Option.ite_none_right_eq_some, Option.some.injEq]

theorem step?_turn_eq_some_iff {turn : Turn} :
    l.step? r (.turn turn) = some l' ↔ l.stage = .waiting ∧ l.state.isReady turn = true ∧
      { l with
        state := l.state.take turn
        stage := if turn.runsPass then .due turn else .waiting } = l' := by
  unfold step?
  cases hstage : l.stage <;> simp

theorem step?_list_eq_some_iff :
    l.step? r .list = some l' ↔ (∃ turn, l.stage = .due turn) ∧
      { l with stage := .working (r.routes l.world).1, world := (r.routes l.world).2 } = l' := by
  unfold step?
  cases hstage : l.stage <;> simp

theorem step?_finish_eq_some_iff :
    l.step? r .finish = some l' ↔ ∃ answer, l.stage = .working answer ∧
      { l with
        stage := .waiting
        world := (r.proceed answer l.world).2
        passes := l.passes ++ [(r.proceed answer l.world).1] } = l' := by
  unfold step?
  cases hstage : l.stage <;> simp

/-- The steps of a turn that is possible are possible, and if nothing happens in between they are
the turn of the pass loop. -/
theorem run?_steps {turn : Turn} (hstage : l.stage = .waiting)
    (hready : l.state.isReady turn = true) :
    ∃ l', l.run? r (turn.steps σ) = some l' ∧ l'.stage = .waiting ∧
      PassLoop.mk l'.state l'.world =
        ((PassLoop.mk l.state l.world).turn r.reconcile turn).2 := by
  unfold Turn.steps PassLoop.turn
  by_cases hpass : turn.runsPass = true
  · simp only [if_pos hpass, run?_cons, step?_turn_eq_some_iff, step?_list_eq_some_iff,
      step?_finish_eq_some_iff, run?_nil]
    refine ⟨_, ⟨_, ⟨hstage, hready, rfl⟩, _, ⟨⟨turn, rfl⟩, rfl⟩, _, ⟨_, rfl, rfl⟩, rfl⟩, rfl, ?_⟩
    rw [r.reconcile_eq_bind_proceed]
    rfl
  · simp only [if_neg hpass, run?_cons, step?_turn_eq_some_iff, run?_nil]
    exact ⟨_, ⟨_, ⟨hstage, hready, rfl⟩, rfl⟩, rfl, rfl⟩

end LoopRun

end Ingress
