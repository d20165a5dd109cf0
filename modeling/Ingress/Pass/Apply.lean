import Ingress.Pass.Managed
import Ingress.Store.Basic

/-!
# Bringing one object in line

`createOrUpdate` creates a desired object that is absent, and replaces a live one that differs
in what this program owns. A creation that another writer won is taken as an object that is
there. It is written against any store, and makes at most four calls.
-/

namespace Ingress

/-- What became of a desired object. -/
inductive Outcome where
  /-- It was created. -/
  | created
  /-- The live object was replaced. -/
  | updated
  /-- The live object was as desired. -/
  | unchanged
  deriving DecidableEq, Repr

/-- The word for an outcome. -/
def Outcome.text : Outcome → String
  | .created => "created"
  | .updated => "updated"
  | .unchanged => "unchanged"

variable {m : Type → Type} [Monad m] [Managed K] [DecidableEq K]

/-- Replace a live object unless it is as desired. -/
def updateLive (store : Store m K) (desired live : K) : m (Except StoreError Outcome) := do
  let updated := Managed.conform live desired
  if updated = live then return .ok .unchanged
  match ← store.replace updated with
  | .ok _ => return .ok .updated
  | .error e => return .error e

/-- Bring a desired object of a namespace about after its creation was refused because
another writer created it first. -/
def updateRaced (store : Store m K) (ns : String) (desired : K) :
    m (Except StoreError Outcome) := do
  match ← store.get ns (Resource.name desired) with
  | .ok (some live) => updateLive store desired live
  | .ok none => return .error (.conflict (ns ++ "/" ++ Resource.name desired))
  | .error e => return .error e

/-- Create a desired object of a namespace, or update the live one. -/
def createOrUpdateIn (store : Store m K) (ns : String) (desired : K) :
    m (Except StoreError Outcome) := do
  match ← store.get ns (Resource.name desired) with
  | .ok (some live) => updateLive store desired live
  | .ok none =>
    match ← store.create desired with
    | .ok _ => return .ok .created
    | .error (.alreadyExists _) => updateRaced store ns desired
    | .error e => return .error e
  | .error e => return .error e

/-- Bring a desired object about. One without a namespace is refused before any call. -/
def createOrUpdate (store : Store m K) (desired : K) : m (Except StoreError Outcome) :=
  match Resource.ns desired with
  | none => return .error (.missingNamespace (Resource.name desired))
  | some ns => createOrUpdateIn store ns desired

end Ingress
