import Ingress.Pass.Apply

/-!
# Programs of store operations as data

A program that is written against any store can be run on a store that leaves its operations to be
made later. What comes out is a `Script`: it is done, or it says which operation is next and how it
goes on with each answer. Others may come between two operations of a script, and its answers can
be chosen one by one. Performed on a store without a break, the script of bringing an object about
is bringing it about (`perform_createOrUpdate`), and whatever is answered it makes no more than
four operations (`endsWithin_createOrUpdate`).
-/

namespace Ingress

/-- An operation on a store, with what it is about. -/
inductive StoreOperation (K : Type) where
  /-- Read an object. -/
  | get (ns name : String)
  /-- Add an object. -/
  | create (object : K)
  /-- Put an object in the place of the one it was read from. -/
  | replace (object : K)
  /-- Take an object away. -/
  | delete (ns name : String)
  /-- Read the objects of a namespace, or of all, that a selector picks. -/
  | list (scope : Option String) (selector : String)

/-- What an operation answers where it succeeds. -/
@[reducible] def StoreOperation.Answer {K : Type} : StoreOperation K → Type
  | .get _ _ => Option K
  | .create _ | .replace _ => K
  | .delete _ _ => Unit
  | .list _ _ => List K

/-- Make an operation on a store. -/
def Store.perform {m : Type → Type} {K : Type} (store : Store m K) :
    (operation : StoreOperation K) → m (Except StoreError operation.Answer)
  | .get ns name => store.get ns name
  | .create object => store.create object
  | .replace object => store.replace object
  | .delete ns name => store.delete ns name
  | .list scope selector => store.list scope selector

/-- A program of store operations. -/
inductive Script (K α : Type) where
  /-- It has come to a result. -/
  | done (result : α)
  /-- It makes an operation and goes on with the answer. -/
  | ask (operation : StoreOperation K) (next : Except StoreError operation.Answer → Script K α)

namespace Script

variable {K α β : Type}

/-- Go on with the result of a script. -/
def andThen : Script K α → (α → Script K β) → Script K β
  | .done result, rest => rest result
  | .ask operation next, rest => .ask operation fun answer => (next answer).andThen rest

instance : Monad (Script K) where
  pure := .done
  bind := andThen

/-- The store that leaves its operations to be made later. -/
def store : Store (Script K) K where
  get ns name := .ask (.get ns name) .done
  create object := .ask (.create object) .done
  replace object := .ask (.replace object) .done
  delete ns name := .ask (.delete ns name) .done
  list scope selector := .ask (.list scope selector) .done

/-- Make the operations of a script on a store, one after another. -/
def perform {m : Type → Type} [Monad m] (store : Store m K) : Script K α → m α
  | .done result => pure result
  | .ask operation next => do perform store (next (← store.perform operation))

/-- Whether a script is done after so many operations, whatever is answered. -/
def EndsWithin : Nat → Script K α → Prop
  | _, .done _ => True
  | 0, .ask _ _ => False
  | count + 1, .ask _ next => ∀ answer, EndsWithin count (next answer)

/-- A script that has no operations left is done. -/
theorem EndsWithin.exists_done {script : Script K α} (h : script.EndsWithin 0) :
    ∃ result, script = .done result := by
  cases script with
  | done result => exact ⟨result, rfl⟩
  | ask _ _ => exact h.elim

/-- A script that ends within so many operations ends within more. -/
theorem EndsWithin.mono {script : Script K α} {count more : Nat} (h : script.EndsWithin count)
    (hle : count ≤ more) : script.EndsWithin more := by
  induction script generalizing count more with
  | done _ => cases more <;> trivial
  | ask operation next ih =>
    cases count with
    | zero => exact h.elim
    | succ count =>
      cases more with
      | zero => omega
      | succ more => exact fun answer => ih answer (h answer) (by omega)

section CreateOrUpdate

variable [Managed K] [DecidableEq K]

/-- Updating a live object takes one operation at most. -/
theorem endsWithin_updateLive (desired live : K) : (updateLive store desired live).EndsWithin 1 := by
  unfold updateLive
  dsimp only
  split
  · trivial
  · intro answer
    cases answer <;> trivial

/-- Updating an object whose creation was lost to another writer takes two operations at most. -/
theorem endsWithin_updateRaced (ns : String) (desired : K) :
    (updateRaced store ns desired).EndsWithin 2 := by
  intro answer
  match answer with
  | .ok (some live) => exact endsWithin_updateLive desired live
  | .ok none => trivial
  | .error _ => trivial

/-- Bringing an object about takes four operations at most. -/
theorem endsWithin_createOrUpdate (desired : K) :
    (createOrUpdate store desired).EndsWithin 4 := by
  unfold createOrUpdate
  split
  · trivial
  · next ns _ =>
    intro answer
    match answer with
    | .ok (some live) =>
      have hone := (endsWithin_updateLive desired live).mono (show 1 ≤ 3 by omega)
      exact hone
    | .error _ => trivial
    | .ok none =>
      intro answer
      match answer with
      | .ok _ => trivial
      | .error (.alreadyExists _) => exact endsWithin_updateRaced ns desired
      | .error (.conflict _) => trivial
      | .error (.notFound _) => trivial
      | .error (.missingNamespace _) => trivial
      | .error (.request _) => trivial

end CreateOrUpdate

section Perform

variable {m : Type → Type} [Monad m] [LawfulMonad m] (real : Store m K)

/-- To perform a program that goes on with the result of another is to perform both in turn. -/
theorem perform_bind (script : Script K α) (rest : α → Script K β) :
    (script >>= rest).perform real = script.perform real >>= fun a => (rest a).perform real := by
  induction script with
  | done result => exact (pure_bind result fun a => (rest a).perform real).symm
  | ask operation next ih =>
    change (real.perform operation >>= fun answer => ((next answer) >>= rest).perform real) =
      (real.perform operation >>= fun answer => (next answer).perform real) >>= _
    rw [bind_assoc]
    exact bind_congr ih

/-- To perform a single operation is to make it. -/
theorem perform_ask_done (operation : StoreOperation K) :
    (Script.ask operation .done).perform real = real.perform operation :=
  bind_pure _

variable [Managed K] [DecidableEq K]

/-- The script of updating a live object updates it. -/
theorem perform_updateLive (desired live : K) :
    (updateLive store desired live).perform real = updateLive real desired live := by
  unfold updateLive
  dsimp only
  split
  · rfl
  · rw [perform_bind]
    refine (congrArg (· >>= _) (perform_ask_done real _)).trans (bind_congr fun answer => ?_)
    cases answer <;> rfl

/-- The script of updating an object whose creation was lost updates it. -/
theorem perform_updateRaced (ns : String) (desired : K) :
    (updateRaced store ns desired).perform real = updateRaced real ns desired := by
  unfold updateRaced
  rw [perform_bind]
  refine (congrArg (· >>= _) (perform_ask_done real _)).trans (bind_congr fun answer => ?_)
  match answer with
  | .ok (some live) => exact perform_updateLive real desired live
  | .ok none => rfl
  | .error _ => rfl

/-- Performed on any store, the script of bringing an object about brings it about. -/
theorem perform_createOrUpdate (desired : K) :
    (createOrUpdate store desired).perform real = createOrUpdate real desired := by
  unfold createOrUpdate
  split
  · rfl
  · next ns _ =>
    unfold createOrUpdateIn
    rw [perform_bind]
    refine (congrArg (· >>= _) (perform_ask_done real _)).trans (bind_congr fun answer => ?_)
    match answer with
    | .ok (some live) => exact perform_updateLive real desired live
    | .error _ => rfl
    | .ok none =>
      change (store.create desired >>= _).perform real = real.create desired >>= _
      rw [perform_bind]
      refine (congrArg (· >>= _) (perform_ask_done real _)).trans (bind_congr fun answer => ?_)
      match answer with
      | .ok _ => rfl
      | .error (.alreadyExists _) => exact perform_updateRaced real ns desired
      | .error (.conflict _) => rfl
      | .error (.notFound _) => rfl
      | .error (.missingNamespace _) => rfl
      | .error (.request _) => rfl

end Perform

end Script

end Ingress
