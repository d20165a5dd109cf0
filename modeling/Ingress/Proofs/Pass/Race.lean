import Ingress.Proofs.Store.Script
import Ingress.Store.Faulty
import Mathlib.Data.List.Basic
import Mathlib.Data.List.Induction

/-!
# Writers that race each other

Any number of calls bring their objects about in one store in memory, which starts empty. Every
operation is atomic, and between two operations of a call anything may happen: operations of other
calls and deletions, in any order, which a schedule lays down. Every write leaves an entry in the
ledger of the race. Whatever the schedule, a call is over after four moves of its own
(`racers_run`).
-/

namespace Ingress

/-- A call that brings an object about, on its way. -/
structure Racer (K : Type) where
  /-- The object. -/
  desired : K
  /-- What the latest read of the call has found. -/
  seen : Option K := none
  /-- What is left of the call. -/
  rest : Script K (Except StoreError Outcome)

/-- What happens next in a race. -/
inductive Move where
  /-- A call makes its next operation. -/
  | call (index : Nat)
  /-- An object is taken away. -/
  | delete (key : ObjectKey)
  deriving DecidableEq

/-- A successful write of a call. -/
structure LedgerEntry (K : Type) where
  /-- The operation. -/
  verb : StoreVerb
  /-- What lay under the key before. -/
  found : Option K
  /-- What the latest read of the call had found. -/
  seen : Option K
  /-- What has been stored. -/
  stored : K

/-- The version that an entry has stamped. -/
def LedgerEntry.version {K : Type} [Resource K] (entry : LedgerEntry K) : Option String :=
  (Resource.metadata entry.stored).resourceVersion

/-- Calls on their way, the store they share and the writes so far. -/
structure Race (K : Type) where
  /-- The store. -/
  store : MemoryStore K := {}
  /-- The calls. -/
  racers : List (Racer K)
  /-- The successful writes, the first one first. -/
  ledger : List (LedgerEntry K) := []

namespace Race

variable {K : Type}

/-- What a call has read last once an operation has been answered. -/
def seenAfter (seen : Option K) : (operation : StoreOperation K) →
    Except StoreError operation.Answer → Option K
  | .get _ _, .ok found => found
  | _, _ => seen

section Steps

variable [Resource K]

/-- The entry that an operation leaves in the ledger. -/
def entries (s : MemoryStore K) (seen : Option K) : (operation : StoreOperation K) →
    Except StoreError operation.Answer → List (LedgerEntry K)
  | .create object, .ok stored =>
    [{ verb := .create, found := s.get? (Resource.key object), seen, stored }]
  | .replace object, .ok stored =>
    [{ verb := .replace, found := s.get? (Resource.key object), seen, stored }]
  | _, _ => []

/-- A call makes its next operation, if it is not done. -/
def turn (race : Race K) (index : Nat) (racer : Racer K) : Race K :=
  match racer.rest with
  | .done _ => race
  | .ask operation next =>
    let (answer, store) := MemoryStore.store.perform operation race.store
    { store
      racers := race.racers.set index
        { racer with seen := seenAfter racer.seen operation answer, rest := next answer }
      ledger := race.ledger ++ entries race.store racer.seen operation answer }

/-- What a move changes. The move of a call that is not there changes nothing. -/
def step (race : Race K) : Move → Race K
  | .delete key => { race with store := race.store.delete key }
  | .call index =>
    match race.racers[index]? with
    | some racer => race.turn index racer
    | none => race

end Steps

variable [Managed K] [DecidableEq K]

/-- Calls for desired objects before any of them has made an operation. -/
def start (desired : List K) : Race K where
  racers := desired.map fun object =>
    { desired := object, rest := createOrUpdate Script.store object }

/-- A race from an empty store. -/
def run (desired : List K) (schedule : List Move) : Race K :=
  schedule.foldl step (start desired)

end Race

/-! ### How every call ends -/

namespace Race

variable {K : Type} [Managed K]

/-- The move of a call leaves it with one operation less to make. -/
theorem racers_turn (race : Race K) {index : Nat} {racer : Racer K}
    (hracer : race.racers[index]? = some racer) :
    ∃ next, (race.turn index racer).racers = race.racers.set index next ∧
      next.desired = racer.desired ∧
      ∀ count, racer.rest.EndsWithin (count + 1) → next.rest.EndsWithin count := by
  unfold turn
  cases hrest : racer.rest with
  | done result =>
    refine ⟨racer, ?_, rfl, fun count _ => ?_⟩
    · obtain ⟨hlt, rfl⟩ := List.getElem?_eq_some_iff.mp hracer
      exact (List.set_getElem_self hlt).symm
    · rw [hrest]
      cases count <;> trivial
  | ask operation next => exact ⟨_, rfl, rfl, fun count hends => hends _⟩

/-- A move leaves every call its object, and the call that makes it one operation less. -/
theorem racers_step (race : Race K) (move : Move) {index : Nat} {racer : Racer K}
    (hracer : race.racers[index]? = some racer) :
    ∃ next, (race.step move).racers[index]? = some next ∧ next.desired = racer.desired ∧
      ∀ count, racer.rest.EndsWithin count →
        next.rest.EndsWithin (count - [move].count (.call index)) := by
  cases move with
  | delete key => exact ⟨racer, hracer, rfl, fun _ hends => hends⟩
  | call other =>
    by_cases hindex : other = index
    · subst hindex
      obtain ⟨next, hset, hdesired, hends⟩ := racers_turn race hracer
      refine ⟨next, ?_, hdesired, fun count h => ?_⟩
      · simp only [step, hracer]
        rw [hset]
        exact List.getElem?_set_self (List.getElem?_eq_some_iff.mp hracer).1
      · rw [List.count_singleton_self]
        exact hends _ (h.mono (by omega))
    · refine ⟨racer, ?_, rfl, fun count h => ?_⟩
      · unfold step
        dsimp only
        split
        · next first hfirst =>
          obtain ⟨next, hset, -⟩ := racers_turn race hfirst
          rw [hset, List.getElem?_set_ne hindex, hracer]
        · exact hracer
      · have hcount : [Move.call other].count (.call index) = 0 :=
          List.count_eq_zero.mpr fun h => hindex (Move.call.inj (List.mem_singleton.mp h)).symm
        rwa [hcount]

variable [DecidableEq K]

/-- At every point a call has its object and has used up as many operations as it made moves. -/
theorem racers_run (desired : List K) (schedule : List Move) {index : Nat} {object : K}
    (hobject : desired[index]? = some object) :
    ∃ racer, (run desired schedule).racers[index]? = some racer ∧ racer.desired = object ∧
      racer.rest.EndsWithin (4 - schedule.count (.call index)) := by
  induction schedule using List.reverseRecOn with
  | nil =>
    refine ⟨{ desired := object, rest := createOrUpdate Script.store object }, ?_, rfl,
      Script.endsWithin_createOrUpdate object⟩
    change (desired.map _)[index]? = _
    rw [List.getElem?_map, hobject]
    rfl
  | append_singleton before move ih =>
    obtain ⟨racer, hracer, hdesired, hends⟩ := ih
    obtain ⟨next, hnext, hsame, hless⟩ := racers_step _ move hracer
    refine ⟨next, ?_, hsame.trans hdesired, ?_⟩
    · unfold run
      rw [List.foldl_concat]
      exact hnext
    · rw [List.count_append, ← Nat.sub_sub]
      exact hless _ hends

end Race

end Ingress
