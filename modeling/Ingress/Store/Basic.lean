import Ingress.Resource.Basic
import Ingress.Store.Error

/-!
# Stores

A store gives access to the live objects of one kind. What runs its operations is left open:
`m` may read and write objects in memory, answer from a script, ask a cluster, or record what
is asked. A selector picks objects by their labels.
-/

namespace Ingress

/-- Access to the live objects of one kind. -/
structure Store (m : Type → Type) (K : Type) where
  /-- The object of a namespace with a name, if it is there. -/
  get : String → String → m (Except StoreError (Option K))
  /-- Add an object; what is stored is answered. -/
  create : K → m (Except StoreError K)
  /-- Put an object in the place of the one it was read from; what is stored is answered. -/
  replace : K → m (Except StoreError K)
  /-- Take an object away. That it is gone already is no failure. -/
  delete : String → String → m (Except StoreError Unit)
  /-- The objects of a namespace, or of all, that a selector picks. -/
  list : Option String → String → m (Except StoreError (List K))

/-- The same store where its state is a part of a larger one. -/
def Store.focus (part : σ → τ) (withPart : σ → τ → σ) (store : Store (StateM τ) K) :
    Store (StateM σ) K where
  get ns name := lift (store.get ns name)
  create object := lift (store.create object)
  replace object := lift (store.replace object)
  delete ns name := lift (store.delete ns name)
  list ns selector := lift (store.list ns selector)
where
  /-- Run an operation on the part. -/
  lift {α : Type} (operation : StateM τ α) : StateM σ α := fun whole =>
    let (answer, part) := operation (part whole)
    (answer, withPart whole part)

end Ingress
