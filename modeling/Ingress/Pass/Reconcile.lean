import Ingress.Pass.Summary
import Ingress.Snapshot
import Ingress.Synthesis.Synthesizer

/-!
# The reconciliation pass

A pass brings the live objects in line with the routes. It lists the routes, leaves out those
that are being deleted, applies every ingress object that is synthesized, and deletes the
managed ingress objects that are no longer desired, except those of hostnames that failed;
then it does the same for services, where nothing is excepted, and publishes the routes it
worked on. A failed operation stops no other. Only when the routes cannot be listed is nothing
done at all.

The pass is written against any stores (`Reconciler`), and what it says in the log is a part of
its answer.
-/

namespace Ingress

/-- What a pass needs: how objects are synthesized, where routes come from, where objects live,
who reads the snapshots, and the namespace that pruning is confined to. -/
structure Reconciler (m : Type → Type) (K : Type) where
  /-- How objects are synthesized. -/
  synthesizer : Synthesizer K
  /-- List the routes. -/
  routes : m (Except StoreError (List Route))
  /-- The live ingress objects. -/
  ingresses : Store m K
  /-- The live services. -/
  services : Store m Service
  /-- Publish the routes of a pass. -/
  publish : List Route → m Unit
  /-- The namespace that pruning is confined to. -/
  scope : Option String

/-- What a pass has done and said so far. -/
structure Progress where
  /-- What it has done. -/
  summary : Summary := {}
  /-- What it has said. -/
  log : Log := []

/-- Say something. -/
def Progress.say (p : Progress) (level : LogLevel) (message : String) : Progress :=
  { p with log := p.log ++ [⟨level, message⟩] }

/-- Note a failure. -/
def Progress.fail (p : Progress) (failure : ApplyFailure) : Progress :=
  { p with summary := p.summary.fail failure }

/-- An object in the words of the log. -/
def describe (kind : String) (key : ObjectKey) : String :=
  kind ++ " " ++ key.ns ++ "/" ++ key.name

namespace Progress

/-- Note what became of a desired object. -/
def applied (p : Progress) (kind : String) (key : ObjectKey) :
    Except StoreError Outcome → Progress
  | .ok outcome =>
    let p := p.say (if outcome = .unchanged then .debug else .info)
      (describe kind key ++ " has been " ++ outcome.text)
    { p with summary := p.summary.record outcome }
  | .error error =>
    (p.say (if error.retryable then .warn else .error)
      ("Unable to apply " ++ describe kind key ++ ": " ++ error.message)).fail
      { kind, ns := key.ns, name := key.name, error }

/-- Note what became of an object that was to go. -/
def pruned (p : Progress) (kind : String) (key : ObjectKey) : Except StoreError Unit → Progress
  | .ok () =>
    let p := p.say .info (describe kind key ++ " has been deleted")
    { p with summary := { p.summary with deleted := p.summary.deleted + 1 } }
  | .error error =>
    (p.say .error ("Unable to delete " ++ describe kind key ++ ": " ++ error.message)).fail
      { kind, ns := key.ns, name := key.name, error }

/-- Note that the objects of a kind could not be listed. -/
def unlisted (p : Progress) (kind : String) (scope : Option String) (error : StoreError) :
    Progress :=
  (p.say .error ("Unable to list managed " ++ kind ++ " objects: " ++ error.message)).fail
    { kind, ns := scope.getD "", name := "", error }

end Progress

section Steps

variable {m : Type → Type} [Monad m] [Managed K] [DecidableEq K]

/-- Apply one desired object. -/
def applyObject (store : Store m K) (p : Progress) (desired : K) : m Progress := do
  let result ← createOrUpdate store desired
  return p.applied (Resource.kind K) (Resource.key desired) result

/-- Apply desired objects in order. -/
def applyAll (store : Store m K) (p : Progress) (desired : List K) : m Progress :=
  desired.foldlM (applyObject store) p

/-- Delete one live object. -/
def pruneObject (store : Store m K) (p : Progress) (live : K) : m Progress := do
  let key := Resource.key live
  let result ← store.delete key.ns key.name
  return p.pruned (Resource.kind K) key result

/-- Delete the managed objects that are neither desired nor to be kept. -/
def prune (store : Store m K) (scope : Option String) (desired : List ObjectKey)
    (keep : K → Bool) (p : Progress) : m Progress := do
  match ← store.list scope managedSelector with
  | .error error => return p.unlisted (Resource.kind K) scope error
  | .ok live =>
    (live.filter fun object => !(desired.contains (Resource.key object) || keep object)).foldlM
      (pruneObject store) p

/-- Whether an ingress object serves one of the hostnames that failed. -/
def servesFailed (failed : List String) (object : K) : Bool :=
  (Resource.annotation? object fqdnKey).any failed.contains

end Steps

namespace Reconciler

variable {m : Type → Type} [Monad m] [Managed K] [DecidableEq K]

/-- Bring the ingress objects in line. -/
def reconcileIngresses (r : Reconciler m K) (synthesis : Synthesis K) (p : Progress) :
    m Progress := do
  let p ← applyAll r.ingresses p synthesis.objects
  prune r.ingresses r.scope (synthesis.objects.map Resource.key)
    (servesFailed synthesis.failedFqdns) p

/-- Say which destinations of a route are skipped, and apply the services of the others. -/
def applyServices (r : Reconciler m K) (p : Progress) (route : Route) : m Progress :=
  applyAll r.services { p with log := p.log ++ route.serviceLog }
    (route.services r.synthesizer.labels)

/-- Bring the services in line. -/
def reconcileServices (r : Reconciler m K) (routes : List Route) (p : Progress) :
    m Progress := do
  let p ← routes.foldlM r.applyServices p
  prune r.services r.scope ((r.synthesizer.services routes).map Resource.key) (fun _ => false) p

/-- The routes that a pass works on: those that are not being deleted. -/
def kept (listed : List Route) : List Route :=
  listed.filter fun route => !route.terminating

/-- The pass after the routes have been listed. -/
def reconcileListed (r : Reconciler m K) (listed : List Route) : m Progress := do
  let routes := kept listed
  let synthesis := r.synthesizer.synthesize routes
  let start : Progress := {
    log := ⟨.debug, "Reconciling " ++ toString routes.length ++ " routes"⟩ ::
      synthesis.errors.map fun e => ⟨.warn, e.message⟩ }
  let p ← r.reconcileIngresses synthesis start
  let p ← r.reconcileServices routes p
  r.publish routes
  return { p with summary := { p.summary with groupErrors := synthesis.errors } }

/-- One pass: what it did, or why routes could not be listed, with what it said. -/
def reconcile (r : Reconciler m K) : m (Except StoreError Summary × Log) := do
  match ← r.routes with
  | .error e => return (.error e, [])
  | .ok listed =>
    let p ← r.reconcileListed listed
    return (.ok p.summary, p.log)

end Reconciler

end Ingress
