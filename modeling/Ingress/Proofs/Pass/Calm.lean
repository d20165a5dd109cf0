import Ingress.Pass.Cluster
import Ingress.Proofs.Pass.Phase
import Ingress.Proofs.Pass.Reconcile
import Ingress.Proofs.Synthesis.Synthesizer

/-!
# A pass on a calm cluster

A cluster is calm when nothing is armed to fail. A pass on it answers a summary and leaves both
stores converged (`reconcile_of_calm`), and the cluster stays calm, so passes can follow each
other.
-/

namespace Ingress.Cluster

variable {K : Type} [Managed K]

/-- Nothing is armed to fail. -/
structure Calm (c : Cluster K) : Prop where
  /-- No listing of routes fails. -/
  listing : c.listing.failures = []
  /-- No operation on ingress objects fails. -/
  ingresses : c.ingresses.faults = []
  /-- No operation on services fails. -/
  services : c.services.faults = []

/-- Operations on ingress objects that have no faults armed are operations in memory. -/
theorem acts_ingresses (synthesizer : Synthesizer K) (scope : Option String) (c : Cluster K) :
    (reconciler synthesizer scope).ingresses.Acts
      (Simulates fun memory => { c with ingresses := { memory } }) MemoryStore.store where
  get _ _ _ := rfl
  create _ _ := rfl
  replace _ _ := rfl
  delete _ _ _ := rfl
  list _ _ _ := rfl

/-- Operations on services that have no faults armed are operations in memory. -/
theorem acts_services (synthesizer : Synthesizer K) (scope : Option String) (c : Cluster K) :
    (reconciler synthesizer scope).services.Acts
      (Simulates fun memory => { c with services := { memory } }) MemoryStore.store where
  get _ _ _ := rfl
  create _ _ := rfl
  replace _ _ := rfl
  delete _ _ _ := rfl
  list _ _ _ := rfl

/-- The routes that the next pass works on. -/
def routes (c : Cluster K) : List Route :=
  Reconciler.kept c.listing.routes

/-- The cluster after a pass in which nothing failed. -/
def passed [DecidableEq K] (synthesizer : Synthesizer K) (scope : Option String)
    (c : Cluster K) : Cluster K where
  listing := c.listing
  ingresses := {
    memory := c.ingresses.memory.converged scope (synthesizer.synthesize c.routes).objects
      (servesFailed (synthesizer.synthesize c.routes).failedFqdns) }
  services := {
    memory := c.services.memory.converged scope (synthesizer.services c.routes) fun _ => false }
  snapshots := c.snapshots.put { routes := c.routes }

variable {c : Cluster K} (synthesizer : Synthesizer K) (scope : Option String)

/-- Without faults the services are brought in line in memory. -/
theorem reconcileServices_apply (hfaults : c.services.faults = [])
    (hkeyed : c.services.memory.Keyed) (routes : List Route) (p : Progress) :
    (reconciler synthesizer scope).reconcileServices routes p c =
      ((servicePhase MemoryStore.store scope synthesizer.labels routes p c.services.memory).1,
        { c with
          services := {
            memory := c.services.memory.converged scope (synthesizer.services routes)
              fun _ => false } }) := by
  have hc : c = { c with services := { memory := c.services.memory } } := by
    rw [← hfaults]
  have hphase := servicePhase_simulates (acts_services synthesizer scope c) scope
    synthesizer.labels routes p c.services.memory
  rw [← hc, MemoryStore.servicePhase_store hkeyed] at hphase
  exact hphase

variable [DecidableEq K] [ManagedView K] [LawfulManaged K]

/-- Without faults the ingress objects are brought in line in memory. -/
theorem reconcileIngresses_apply (hfaults : c.ingresses.faults = [])
    (hkeyed : c.ingresses.memory.Keyed) (synthesis : Synthesis K) (p : Progress) :
    (reconciler synthesizer scope).reconcileIngresses synthesis p c =
      ((phase MemoryStore.store scope synthesis.objects (servesFailed synthesis.failedFqdns) p
          c.ingresses.memory).1,
        { c with
          ingresses := {
            memory := c.ingresses.memory.converged scope synthesis.objects
              (servesFailed synthesis.failedFqdns) } }) := by
  have hc : c = { c with ingresses := { memory := c.ingresses.memory } } := by
    rw [← hfaults]
  have hphase := phase_simulates (acts_ingresses synthesizer scope c) scope synthesis.objects
    (servesFailed synthesis.failedFqdns) p c.ingresses.memory
  rw [← hc, MemoryStore.phase_store hkeyed] at hphase
  exact hphase

/-- A pass on a calm cluster answers a summary and leaves both stores converged; where there was
nothing to do it counts no change. -/
theorem reconcile_of_calm
    (hcalm : c.Calm) (hingresses : c.ingresses.memory.Keyed)
    (hservices : c.services.memory.Keyed) :
    ∃ summary log, c.reconcile synthesizer scope =
        ((.ok summary, log), c.passed synthesizer scope) ∧
      summary.groupErrors = (synthesizer.synthesize c.routes).errors ∧
      (c.ingresses.memory.Stable scope (synthesizer.synthesize c.routes).objects
          (servesFailed (synthesizer.synthesize c.routes).failedFqdns) →
        c.services.memory.Stable scope (synthesizer.services c.routes) (fun _ => false) →
        summary.changes = (0, 0, 0)) := by
  obtain ⟨p, hp⟩ : ∃ p, p = (phase MemoryStore.store scope
      (synthesizer.synthesize c.routes).objects
      (servesFailed (synthesizer.synthesize c.routes).failedFqdns)
      (Reconciler.start synthesizer c.routes) c.ingresses.memory).1 := ⟨_, rfl⟩
  obtain ⟨q, hq⟩ : ∃ q, q = (servicePhase MemoryStore.store scope synthesizer.labels c.routes p
      c.services.memory).1 := ⟨_, rfl⟩
  have hroutes : (reconciler synthesizer scope).routes c = (.ok c.listing.routes, c) := by
    unfold reconciler RouteListing.list
    dsimp only
    rw [hcalm.listing]
  have hfirst := reconcileIngresses_apply synthesizer scope hcalm.ingresses hingresses
    (synthesizer.synthesize c.routes) (Reconciler.start synthesizer c.routes)
  -- The second phase starts where the first has ended, with the services still untouched.
  have hsecond := reconcileServices_apply synthesizer scope
    (c := { c with ingresses := { memory := (c.passed synthesizer scope).ingresses.memory } })
    hcalm.services hservices c.routes p
  rw [← hp] at hfirst
  rw [← hq] at hsecond
  have hpass : c.reconcile synthesizer scope =
      ((.ok { q.summary with groupErrors := (synthesizer.synthesize c.routes).errors }, q.log),
        c.passed synthesizer scope) :=
    Reconciler.reconcile_of_listed hroutes hfirst hsecond
  refine ⟨_, _, hpass, rfl, ?_⟩
  intro hstable hstable'
  calc q.summary.changes = p.summary.changes := hq ▸ hstable'.changes_servicePhase p
    _ = (0, 0, 0) := hp ▸ hstable.changes_phase _

end Ingress.Cluster
