import Ingress.Pass.Reconcile
import Ingress.Store.Faulty

/-!
# A cluster in memory

The routes, the two stores and the snapshots that passes work on, as one state. Listing the
routes can be made to fail, once for every failure that is queued.
-/

namespace Ingress

/-- The routes of a cluster and the failures that the next listings meet. -/
structure RouteListing where
  /-- The routes. -/
  routes : List Route := []
  /-- The failures, the next one first. -/
  failures : List StoreError := []

/-- List the routes, or meet the next failure. -/
def RouteListing.list : StateM RouteListing (Except StoreError (List Route)) := fun listing =>
  match listing.failures with
  | [] => (.ok listing.routes, listing)
  | error :: rest => (.error error, { listing with failures := rest })

/-- Everything that passes read and write. -/
structure Cluster (K : Type) where
  /-- The routes. -/
  listing : RouteListing := {}
  /-- The ingress objects. -/
  ingresses : FaultyStore K := {}
  /-- The services. -/
  services : FaultyStore Service := {}
  /-- The snapshots. -/
  snapshots : SnapshotRepo := {}

namespace Cluster

variable [Managed K] [DecidableEq K]

/-- A reconciler that works on a cluster. -/
def reconciler (synthesizer : Synthesizer K) (scope : Option String) :
    Reconciler (StateM (Cluster K)) K where
  synthesizer
  routes := fun c =>
    let (answer, listing) := RouteListing.list c.listing
    (answer, { c with listing })
  ingresses := FaultyStore.store.focus ingresses fun c ingresses => { c with ingresses }
  services := FaultyStore.store.focus services fun c services => { c with services }
  publish routes := fun c => ((), { c with snapshots := c.snapshots.put { routes } })
  scope

/-- Run one pass on a cluster. -/
def reconcile (synthesizer : Synthesizer K) (scope : Option String) (c : Cluster K) :
    (Except StoreError Summary × Log) × Cluster K :=
  (reconciler synthesizer scope).reconcile c

end Cluster

end Ingress
