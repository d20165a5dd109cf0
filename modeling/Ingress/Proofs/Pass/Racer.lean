import Ingress.Proofs.Pass.Race
import Ingress.Proofs.Store.Settle

/-!
# The stages of a call in a race

A call that brings an object about reads it, creates it or replaces what it has read, and reads it
a second time after a creation that came too late. `Racer.OnTrack` lists these stages. A move takes
a call from one of them to another, and `Race.turned` says all that it can do to the race.
-/

namespace Ingress

namespace Script

variable {K : Type} [Managed K] [DecidableEq K]

/-- The script of updating a live object is over if it is as desired, and else replaces it. -/
theorem updateLive_store (desired live : K) :
    updateLive store desired live = .done (.ok .unchanged) ∨
      ∃ next, updateLive store desired live = .ask (.replace (Managed.conform live desired)) next ∧
        (∀ stored, next (.ok stored) = .done (.ok .updated)) ∧
        ∀ error, next (.error error) = .done (.error error) := by
  unfold updateLive
  dsimp only
  split
  · exact Or.inl rfl
  · exact Or.inr ⟨_, rfl, fun _ => rfl, fun _ => rfl⟩

/-- The script of updating an object whose creation was lost reads it. -/
theorem updateRaced_store (ns : String) (desired : K) :
    ∃ next, updateRaced store ns desired = .ask (.get ns (Resource.name desired)) next ∧
      (∀ live, next (.ok (some live)) = updateLive store desired live) ∧
      next (.ok none) = .done (.error (.conflict (ns ++ "/" ++ Resource.name desired))) :=
  ⟨_, rfl, fun _ => rfl, rfl⟩

/-- The script of bringing an object about reads it, and creates it where it is not there. -/
theorem createOrUpdateIn_store (ns : String) (desired : K) :
    ∃ next, createOrUpdateIn store ns desired = .ask (.get ns (Resource.name desired)) next ∧
      (∀ live, next (.ok (some live)) = updateLive store desired live) ∧
      ∃ after, next (.ok none) = .ask (.create desired) after ∧
        (∀ stored, after (.ok stored) = .done (.ok .created)) ∧
        ∀ subject, after (.error (.alreadyExists subject)) = updateRaced store ns desired :=
  ⟨_, rfl, fun _ => rfl, _, rfl, fun _ => rfl, fun _ => rfl⟩

end Script

/-- How a call may end: well, or in an error that the next pass can be expected not to meet. -/
def Racer.EndsWell (result : Except StoreError Outcome) : Prop :=
  (∃ outcome, result = .ok outcome) ∨
    ∃ subject, result = .error (.conflict subject) ∨ result = .error (.notFound subject)

section Stages

variable {K : Type} [Managed K] [DecidableEq K]

/-- The stages that a call goes through. -/
inductive Racer.OnTrack : Racer K → Prop
  /-- It reads its object for the first time. -/
  | reading {desired : K} {seen : Option K} {ns : String} (hns : Resource.ns desired = some ns) :
    OnTrack { desired, seen, rest := createOrUpdateIn Script.store ns desired }
  /-- It creates its object. -/
  | creating {desired : K} {seen : Option K} {ns : String}
    {next : Except StoreError K → Script K (Except StoreError Outcome)}
    (hns : Resource.ns desired = some ns)
    (hcreated : ∀ stored, next (.ok stored) = .done (.ok .created))
    (hraced : ∀ subject,
      next (.error (.alreadyExists subject)) = updateRaced Script.store ns desired) :
    OnTrack { desired, seen, rest := .ask (.create desired) next }
  /-- It reads its object after another writer has created it. -/
  | raced {desired : K} {seen : Option K} {ns : String} :
    OnTrack { desired, seen, rest := updateRaced Script.store ns desired }
  /-- It replaces the object that it has read last. -/
  | replacing {desired live : K}
    {next : Except StoreError K → Script K (Except StoreError Outcome)}
    (hreplaced : ∀ stored, next (.ok stored) = .done (.ok .updated))
    (hrefused : ∀ error, next (.error error) = .done (.error error)) :
    OnTrack {
      desired, seen := some live, rest := .ask (.replace (Managed.conform live desired)) next }
  /-- It is over. -/
  | finished {desired : K} {seen : Option K} {result : Except StoreError Outcome}
    (hresult : Resource.ns desired ≠ none → EndsWell result) :
    OnTrack { desired, seen, rest := .done result }

/-- A call that has read a live object goes on to update it. -/
theorem Racer.onTrack_updateLive (desired live : K) :
    Racer.OnTrack { desired, seen := some live, rest := updateLive Script.store desired live } := by
  rcases Script.updateLive_store desired live with hdone | ⟨next, hask, hreplaced, hrefused⟩
  · rw [hdone]
    exact .finished fun _ => Or.inl ⟨_, rfl⟩
  · rw [hask]
    exact .replacing hreplaced hrefused

/-- A call starts on its track. -/
theorem Racer.onTrack_start (desired : K) :
    Racer.OnTrack { desired, rest := createOrUpdate Script.store desired } := by
  unfold createOrUpdate
  split
  · next hns => exact .finished fun hsome => absurd hns hsome
  · next ns hns => exact .reading hns

/-- A call that is over has ended well, if its object has a namespace. -/
theorem Racer.OnTrack.endsWell {racer : Racer K} (htrack : racer.OnTrack)
    (hns : Resource.ns racer.desired ≠ none) {result : Except StoreError Outcome}
    (hrest : racer.rest = .done result) : EndsWell result := by
  cases htrack with
  | @reading desired seen ns _ =>
    obtain ⟨next, hask, -⟩ := Script.createOrUpdateIn_store ns desired
    rw [hask] at hrest
    cases hrest
  | creating => cases hrest
  | @raced desired seen ns =>
    obtain ⟨next, hask, -⟩ := Script.updateRaced_store ns desired
    rw [hask] at hrest
    cases hrest
  | replacing => cases hrest
  | finished hresult =>
    cases hrest
    exact hresult hns

end Stages

namespace Race

variable {K : Type} [Managed K] [DecidableEq K]

/-- An entry for an object under a key that was of the version that its call had read last. -/
def ReplacesSeen (race : Race K) (racer : Racer K) (key : ObjectKey) (entry : LedgerEntry K) :
    Prop :=
  ∃ found live, race.store.get? key = some found ∧ entry.found = some found ∧
    racer.seen = some live ∧ entry.seen = some live ∧
    (Resource.metadata found).resourceVersion = (Resource.metadata live).resourceVersion

/-- What the move of a call on its track can come to. -/
inductive Turned (race : Race K) (index : Nat) (racer : Racer K) : Race K → Prop
  /-- Nothing, as the call is over. -/
  | idle {result : Except StoreError Outcome} (hrest : racer.rest = .done result) :
    Turned race index racer race
  /-- The call has read, or was refused. -/
  | kept {next : Racer K} (hnext : next.OnTrack)
    (hseen : ∀ live, next.seen = some live →
      racer.seen = some live ∨ ∃ key, race.store.get? key = some live) :
    Turned race index racer { race with racers := race.racers.set index next }
  /-- The call has written. -/
  | wrote {next : Racer K} (hnext : next.OnTrack) (hseen : next.seen = racer.seen)
    {key : ObjectKey} {object : K} {entry : LedgerEntry K}
    (hstored : entry.stored = race.store.stamped object)
    (hentry : entry.verb = .replace → ReplacesSeen race racer key entry) :
    Turned race index racer
      { store := race.store.write key object
        racers := race.racers.set index next
        ledger := race.ledger ++ [entry] }

section Answers

variable {race : Race K} {racer : Racer K} {operation : StoreOperation K}
  {next : Except StoreError operation.Answer → Script K (Except StoreError Outcome)}
  (hrest : racer.rest = .ask operation next) (index : Nat)
  {answer : Except StoreError operation.Answer}

include hrest

/-- The move of a call whose operation leaves the store as it is. -/
theorem turned_of_kept (hanswer : MemoryStore.store.perform operation race.store =
      (answer, race.store))
    (hentries : entries race.store racer.seen operation answer = [])
    (htrack : Racer.OnTrack
      { racer with seen := seenAfter racer.seen operation answer, rest := next answer })
    (hseen : ∀ live, seenAfter racer.seen operation answer = some live →
      racer.seen = some live ∨ ∃ key, race.store.get? key = some live) :
    Turned race index racer (race.turn index racer) := by
  unfold turn
  rw [hrest]
  simp only [hanswer, hentries, List.append_nil]
  exact .kept htrack hseen

/-- The move of a call whose operation writes. -/
theorem turned_of_wrote {key : ObjectKey} {object : K} {entry : LedgerEntry K}
    (hanswer : MemoryStore.store.perform operation race.store =
      (answer, race.store.write key object))
    (hentries : entries race.store racer.seen operation answer = [entry])
    (htrack : Racer.OnTrack
      { racer with seen := seenAfter racer.seen operation answer, rest := next answer })
    (hseen : seenAfter racer.seen operation answer = racer.seen)
    (hstored : entry.stored = race.store.stamped object)
    (hentry : entry.verb = .replace → ReplacesSeen race racer key entry) :
    Turned race index racer (race.turn index racer) := by
  unfold turn
  rw [hrest]
  simp only [hanswer, hentries]
  exact .wrote htrack hseen hstored hentry

end Answers

/-- The move of a call that reads an object. -/
theorem turned_get {race : Race K} {racer : Racer K} {ns name : String}
    {next : Except StoreError (Option K) → Script K (Except StoreError Outcome)}
    (hrest : racer.rest = .ask (.get ns name) next) (index : Nat)
    (htrack : ∀ found, Racer.OnTrack { racer with seen := found, rest := next (.ok found) }) :
    Turned race index racer (race.turn index racer) :=
  turned_of_kept hrest index rfl rfl (htrack _) fun _ hlive => Or.inr ⟨_, hlive⟩

/-- The move of a call that creates its object. -/
theorem turned_create {race : Race K} {racer : Racer K} {ns : String}
    {next : Except StoreError K → Script K (Except StoreError Outcome)}
    (hrest : racer.rest = .ask (.create racer.desired) next)
    (hns : Resource.ns racer.desired = some ns)
    (hcreated : ∀ stored, next (.ok stored) = .done (.ok .created))
    (hraced : ∀ subject,
      next (.error (.alreadyExists subject)) = updateRaced Script.store ns racer.desired)
    (index : Nat) : Turned race index racer (race.turn index racer) := by
  cases hlive : race.store.get? (Resource.key racer.desired) with
  | none =>
    refine turned_of_wrote hrest index (MemoryStore.create_of_get?_eq_none hns hlive) rfl ?_
      rfl rfl fun h => nomatch h
    rw [hcreated]
    exact .finished fun _ => Or.inl ⟨_, rfl⟩
  | some live =>
    have hanswer : race.store.create racer.desired =
        (.error (.alreadyExists (Resource.key racer.desired).name), race.store) := by
      unfold MemoryStore.create
      rw [hns]
      simp only [hlive]
    refine turned_of_kept hrest index hanswer rfl ?_ fun _ h => Or.inl h
    rw [hraced]
    exact .raced

variable [ManagedView K] [LawfulManaged K]

/-- The move of a call that replaces the object it has read last. -/
theorem turned_replace {race : Race K} {racer : Racer K} {live : K}
    {next : Except StoreError K → Script K (Except StoreError Outcome)}
    (hrest : racer.rest = .ask (.replace (Managed.conform live racer.desired)) next)
    (hseen : racer.seen = some live)
    (hreplaced : ∀ stored, next (.ok stored) = .done (.ok .updated))
    (hrefused : ∀ error, next (.error error) = .done (.error error)) (index : Nat) :
    Turned race index racer (race.turn index racer) := by
  have hversion : (Resource.metadata (Managed.conform live racer.desired)).resourceVersion =
      (Resource.metadata live).resourceVersion := by
    rw [LawfulManaged.metadata_conform]
    rfl
  rcases MemoryStore.replace_cases race.store (Managed.conform live racer.desired) with
    ⟨error, hanswer, herror⟩ | ⟨found, hfound, heq, hanswer⟩
  · refine turned_of_kept hrest index hanswer rfl ?_ fun _ h => Or.inl h
    rw [hrefused]
    exact .finished fun _ => Or.inr (herror.imp fun _ => Or.imp (congrArg _) (congrArg _))
  · refine turned_of_wrote hrest index hanswer rfl ?_ rfl rfl
      fun _ => ⟨found, live, hfound, hfound, hseen, hseen, heq.trans hversion⟩
    rw [hreplaced]
    exact .finished fun _ => Or.inl ⟨_, rfl⟩

/-- The move of a call on its track. -/
theorem turned (race : Race K) (index : Nat) {racer : Racer K} (htrack : racer.OnTrack) :
    Turned race index racer (race.turn index racer) := by
  cases htrack with
  | @reading desired seen ns hns =>
    obtain ⟨next, hask, hfound, after, hmissing, hcreated, hraced⟩ :=
      Script.createOrUpdateIn_store ns desired
    refine turned_get hask index fun found => ?_
    cases found with
    | none =>
      rw [hmissing]
      exact .creating hns hcreated hraced
    | some live =>
      rw [hfound]
      exact Racer.onTrack_updateLive desired live
  | creating hns hcreated hraced => exact turned_create rfl hns hcreated hraced index
  | @raced desired seen ns =>
    obtain ⟨next, hask, hfound, hmissing⟩ := Script.updateRaced_store ns desired
    refine turned_get hask index fun found => ?_
    cases found with
    | none =>
      rw [hmissing]
      exact .finished fun _ => Or.inr ⟨_, Or.inl rfl⟩
    | some live =>
      rw [hfound]
      exact Racer.onTrack_updateLive desired live
  | replacing hreplaced hrefused => exact turned_replace rfl rfl hreplaced hrefused index
  | finished hresult => exact .idle rfl

end Race

end Ingress
