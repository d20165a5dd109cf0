import Ingress.Proofs.Store.Script

/-!
# What a store was asked

Beside its state a store can keep a record of the operations that were made on it, each with its
answer. A script makes the same operations on the store with and without the record, comes to the
same result and leaves the same state, and what is recorded is a run of the script: its operations
in their order, each chosen by the answers to those before (`Script.perform_recorded`). So what
holds of all runs of a script holds whatever the store answers.
-/

namespace Ingress

/-- An operation on a store with its answer. -/
structure AnsweredOperation (K : Type) where
  /-- The operation. -/
  operation : StoreOperation K
  /-- The answer. -/
  answer : Except StoreError operation.Answer

namespace Store

variable {σ K : Type} (store : Store (StateM σ) K)

/-- Make an operation and put it on record. -/
def record (operation : StoreOperation K) :
    StateM (σ × List (AnsweredOperation K)) (Except StoreError operation.Answer) :=
  fun (state, calls) =>
    let (answer, state) := store.perform operation state
    (answer, state, calls ++ [⟨operation, answer⟩])

/-- The same store with a record of its operations. -/
def recorded : Store (StateM (σ × List (AnsweredOperation K))) K where
  get ns name := store.record (.get ns name)
  create object := store.record (.create object)
  replace object := store.record (.replace object)
  delete ns name := store.record (.delete ns name)
  list scope selector := store.record (.list scope selector)

/-- Every operation of the store with a record is put on it. -/
theorem perform_recorded (operation : StoreOperation K) :
    store.recorded.perform operation = store.record operation := by
  cases operation <;> rfl

end Store

namespace Script

variable {K α : Type}

/-- A script comes to a result with these operations where they are answered so. -/
inductive Runs : Script K α → List (AnsweredOperation K) → α → Prop where
  /-- A script that is done makes no operation. -/
  | done (result : α) : Runs (.done result) [] result
  /-- What follows an operation goes by its answer. -/
  | ask {operation : StoreOperation K} {next : Except StoreError operation.Answer → Script K α}
    {calls : List (AnsweredOperation K)} {result : α}
    (answer : Except StoreError operation.Answer) (rest : (next answer).Runs calls result) :
    Runs (.ask operation next) (⟨operation, answer⟩ :: calls) result

/-- On a store with a record a script does what it does on the store, and its run is put on
record. -/
theorem perform_recorded {σ : Type} (store : Store (StateM σ) K) (script : Script K α) (state : σ)
    (before : List (AnsweredOperation K)) :
    ∃ calls, script.perform store.recorded (state, before) =
        ((script.perform store state).1, (script.perform store state).2, before ++ calls) ∧
      script.Runs calls (script.perform store state).1 := by
  induction script generalizing state before with
  | done result => exact ⟨[], by rw [List.append_nil]; rfl, .done result⟩
  | ask operation next ih =>
    obtain ⟨calls, hperform, hruns⟩ := ih (store.perform operation state).1
      (store.perform operation state).2
      (before ++ [⟨operation, (store.perform operation state).1⟩])
    refine ⟨⟨operation, (store.perform operation state).1⟩ :: calls, ?_, .ask _ hruns⟩
    calc (Script.ask operation next).perform store.recorded (state, before)
        = (store.record operation >>= fun answer => (next answer).perform store.recorded)
            (state, before) := by
          rw [← store.perform_recorded]
          rfl
      _ = _ := hperform
      _ = _ := by
        rw [List.append_assoc]
        rfl

end Script

end Ingress
