import Ingress.Proofs.Pass.Outage
import Ingress.Proofs.Pass.Reconcile
import Ingress.Store.Faulty

/-!
# Runs of passes through outages

A site is what passes leave behind: two stores in memory and the snapshots. Every call of a pass
to a store is numbered, and a plan of outages decides by the number of the call and by what it
asks whether it fails; a call that fails changes nothing. Plans are arbitrary, so what holds for
every plan holds whichever operations fail. `Site.run` is a run of passes from empty stores,
each with a listing and a plan of its own.
-/

namespace Ingress

/-- A call to a store: the kind of its objects, the operation and the object asked for. -/
structure StoreCall where
  /-- The kind of the objects. -/
  kind : String
  /-- The operation. -/
  verb : StoreVerb
  /-- The key of the object; none where many are listed. -/
  key : Option ObjectKey

/-- Which calls of a pass fail, by their number from 0. -/
abbrev OutagePlan := Nat → StoreCall → Option StoreError

/-- What passes work on when nobody else writes. -/
structure Site (K : Type) where
  /-- The ingress objects. -/
  ingresses : MemoryStore K := {}
  /-- The services. -/
  services : MemoryStore Service := {}
  /-- The snapshots. -/
  snapshots : SnapshotRepo := {}
  /-- How many calls to stores the pass has made. -/
  calls : Nat := 0

/-- One pass: what the listing of routes answers, and which calls fail. -/
structure SitePass where
  /-- The routes, or why they cannot be listed. -/
  listing : Except StoreError (List Route)
  /-- The calls that fail. -/
  outages : OutagePlan

namespace Site

variable {K : Type}

/-- Make a call: it fails if the plan says so, and else it is the operation. -/
def attempt {α : Type} (plan : OutagePlan) (call : StoreCall)
    (operation : StateM (Site K) (Except StoreError α)) :
    StateM (Site K) (Except StoreError α) := fun site =>
  match plan site.calls call with
  | some error => (.error error, { site with calls := site.calls + 1 })
  | none => operation { site with calls := site.calls + 1 }

/-- A store with outages. -/
def interrupted {J : Type} [Resource J] (plan : OutagePlan) (store : Store (StateM (Site K)) J) :
    Store (StateM (Site K)) J where
  get ns name := attempt plan ⟨Resource.kind J, .get, some ⟨ns, name⟩⟩ (store.get ns name)
  create object :=
    attempt plan ⟨Resource.kind J, .create, some (Resource.key object)⟩ (store.create object)
  replace object :=
    attempt plan ⟨Resource.kind J, .replace, some (Resource.key object)⟩ (store.replace object)
  delete ns name :=
    attempt plan ⟨Resource.kind J, .delete, some ⟨ns, name⟩⟩ (store.delete ns name)
  list ns selector := attempt plan ⟨Resource.kind J, .list, none⟩ (store.list ns selector)

variable [Managed K] [DecidableEq K]

/-- The reconciler of a pass. -/
def reconciler (synthesizer : Synthesizer K) (scope : Option String) (pass : SitePass) :
    Reconciler (StateM (Site K)) K where
  synthesizer
  routes := fun site => (pass.listing, site)
  ingresses := interrupted pass.outages
    (MemoryStore.store.focus ingresses fun site ingresses => { site with ingresses })
  services := interrupted pass.outages
    (MemoryStore.store.focus services fun site services => { site with services })
  publish routes := fun site => ((), { site with snapshots := site.snapshots.put { routes } })
  scope

/-- One pass, its calls counted anew. -/
def reconcile (synthesizer : Synthesizer K) (scope : Option String) (site : Site K)
    (pass : SitePass) : (Except StoreError Summary × Log) × Site K :=
  (reconciler synthesizer scope pass).reconcile { site with calls := 0 }

/-- A run of passes, from empty stores. -/
def run (synthesizer : Synthesizer K) (scope : Option String) (passes : List SitePass) : Site K :=
  passes.foldl (fun site pass => (site.reconcile synthesizer scope pass).2) {}

end Site

/-- The routes that a pass works on, none where they cannot be listed. -/
def SitePass.routes (pass : SitePass) : List Route :=
  match pass.listing with
  | .ok listed => Reconciler.kept listed
  | .error _ => []

theorem SitePass.routes_of_ok {pass : SitePass} {listed : List Route}
    (h : pass.listing = .ok listed) : pass.routes = Reconciler.kept listed := by
  unfold routes
  rw [h]

namespace Site

section Outages

variable {K J τ : Type} {part : Site K → MemoryStore J} {rest : Site K → τ}

/-- A call does what the operation does or fails; the count of calls is nobody's concern. -/
theorem attempt_falters {α : Type} {plan : OutagePlan} {call : StoreCall}
    {operation : StateM (Site K) (Except StoreError α)}
    {model : StateM (MemoryStore J) (Except StoreError α)}
    (hpart : ∀ site calls, part { site with calls } = part site)
    (hrest : ∀ site calls, rest { site with calls } = rest site)
    (h : Falters part rest operation model) :
    Falters part rest (attempt plan call operation) model := by
  intro site
  unfold attempt
  split
  · exact FaltersAt.of_error (hpart site _) (hrest site _)
  · have hrun := h { site with calls := site.calls + 1 }
    rw [hpart] at hrun
    exact hrun.of_unchanged (hpart site _) (hrest site _)

/-- A store with outages falters where the store without them does what the model does. -/
theorem interrupted_acts [Managed J] {plan : OutagePlan} {store : Store (StateM (Site K)) J}
    {model : Store (StateM (MemoryStore J)) J}
    (hpart : ∀ site calls, part { site with calls } = part site)
    (hrest : ∀ site calls, rest { site with calls } = rest site)
    (h : store.Acts (Falters part rest) model) :
    (interrupted plan store).Acts (Falters part rest) model where
  get ns name := attempt_falters hpart hrest (h.get ns name)
  create object := attempt_falters hpart hrest (h.create object)
  replace object := attempt_falters hpart hrest (h.replace object)
  delete ns name := attempt_falters hpart hrest (h.delete ns name)
  list ns selector := attempt_falters hpart hrest (h.list ns selector)

/-- A store whose state is a part of a larger one does what it does on its own. -/
theorem focus_acts {σ μ : Type} {part : σ → μ} {withPart : σ → μ → σ} {rest : σ → τ}
    (store : Store (StateM μ) J) (hpart : ∀ s p, part (withPart s p) = p)
    (hrest : ∀ s p, rest (withPart s p) = rest s) :
    (store.focus part withPart).Acts (Falters part rest) store where
  get _ _ _ := ⟨Or.inl ⟨rfl, hpart _ _⟩, hrest _ _⟩
  create _ _ := ⟨Or.inl ⟨rfl, hpart _ _⟩, hrest _ _⟩
  replace _ _ := ⟨Or.inl ⟨rfl, hpart _ _⟩, hrest _ _⟩
  delete _ _ _ := ⟨Or.inl ⟨rfl, hpart _ _⟩, hrest _ _⟩
  list _ _ _ := ⟨Or.inl ⟨rfl, hpart _ _⟩, hrest _ _⟩

end Outages

section Passes

variable {K : Type} [Managed K] (synthesizer : Synthesizer K) (scope : Option String)
  {pass : SitePass}

/-- Operations on ingress objects touch no services and no snapshots. -/
theorem acts_ingresses : (reconciler synthesizer scope pass).ingresses.Acts
    (Falters ingresses fun site => (site.services, site.snapshots)) MemoryStore.store :=
  interrupted_acts (fun _ _ => rfl) (fun _ _ => rfl)
    (focus_acts _ (fun _ _ => rfl) fun _ _ => rfl)

/-- Operations on services touch no ingress objects and no snapshots. -/
theorem acts_services : (reconciler synthesizer scope pass).services.Acts
    (Falters services fun site => (site.ingresses, site.snapshots)) MemoryStore.store :=
  interrupted_acts (fun _ _ => rfl) (fun _ _ => rfl)
    (focus_acts _ (fun _ _ => rfl) fun _ _ => rfl)

/-- The listing of routes answers what the pass says. -/
theorem routes_reconciler {listing : Except StoreError (List Route)}
    (h : pass.listing = listing) (site : Site K) :
    (reconciler synthesizer scope pass).routes site = (listing, site) := by
  rw [← h]
  rfl

/-- Whatever fails, bringing services in line keeps the invariants of that phase, and touches no
ingress objects. -/
theorem reconcileServices_preserves {invariant : MemoryStore Service → Prop}
    (hinvariant : PhaseInvariant invariant scope (synthesizer.services pass.routes)
      fun _ => false)
    (site : Site K) (h : invariant site.services) (p : Progress) :
    invariant ((reconciler synthesizer scope pass).reconcileServices
        pass.routes p site).2.services ∧
      ((reconciler synthesizer scope pass).reconcileServices
        pass.routes p site).2.ingresses = site.ingresses := by
  obtain ⟨hkept, hrest⟩ := servicePhase_preserves (acts_services synthesizer scope) hinvariant h p
  exact ⟨hkept, congrArg Prod.fst hrest⟩

variable [DecidableEq K]

/-- One more pass goes on from where the run has come to. -/
theorem run_snoc (earlier : List SitePass) (pass : SitePass) :
    run synthesizer scope (earlier ++ [pass]) =
      ((run synthesizer scope earlier).reconcile synthesizer scope pass).2 :=
  List.foldl_concat ..

variable (site : Site K)

/-- A pass whose routes cannot be listed leaves the stores alone. -/
theorem reconcile_of_error {error : StoreError} (h : pass.listing = .error error) :
    site.reconcile synthesizer scope pass = ((.error error, []), { site with calls := 0 }) :=
  Reconciler.reconcile_of_unlisted (routes_reconciler synthesizer scope h _)

/-- A pass whose routes can be listed goes through its two phases and publishes. -/
theorem reconcile_of_ok {listed : List Route} (h : pass.listing = .ok listed) :
    ∃ (p q : Progress) (applied finished : Site K),
      (reconciler synthesizer scope pass).reconcileIngresses
        (synthesizer.synthesize pass.routes) (Reconciler.start synthesizer pass.routes)
        { site with calls := 0 } = (p, applied) ∧
      (reconciler synthesizer scope pass).reconcileServices pass.routes p applied =
        (q, finished) ∧
      site.reconcile synthesizer scope pass =
        ((.ok { q.summary with groupErrors := (synthesizer.synthesize pass.routes).errors },
          q.log), { finished with snapshots := finished.snapshots.put { routes := pass.routes } })
    := by
  rw [SitePass.routes_of_ok h]
  exact ⟨_, _, _, _, rfl, rfl,
    Reconciler.reconcile_of_listed (routes_reconciler synthesizer scope h _) rfl rfl⟩

/-- A pass that answers a summary names the hostnames that failed. -/
theorem groupErrors_of_reconcile {summary : Summary}
    (h : (site.reconcile synthesizer scope pass).1.1 = .ok summary) :
    summary.groupErrors = (synthesizer.synthesize pass.routes).errors := by
  cases hlisting : pass.listing with
  | error error =>
    rw [reconcile_of_error synthesizer scope site hlisting] at h
    cases h
  | ok listed =>
    obtain ⟨_, _, _, _, _, _, hpass⟩ := reconcile_of_ok synthesizer scope site hlisting
    rw [hpass] at h
    cases h
    rfl

variable [ManagedView K] [LawfulManaged K]

/-- Whatever fails, bringing ingress objects in line keeps the invariants of that phase, and
touches no services. -/
theorem reconcileIngresses_preserves {invariant : MemoryStore K → Prop}
    (hinvariant : PhaseInvariant invariant scope (synthesizer.synthesize pass.routes).objects
      (servesFailed (synthesizer.synthesize pass.routes).failedFqdns))
    (h : invariant site.ingresses) (p : Progress) :
    invariant ((reconciler synthesizer scope pass).reconcileIngresses
        (synthesizer.synthesize pass.routes) p site).2.ingresses ∧
      ((reconciler synthesizer scope pass).reconcileIngresses
        (synthesizer.synthesize pass.routes) p site).2.services = site.services := by
  obtain ⟨hkept, hrest⟩ := phase_preserves (acts_ingresses synthesizer scope) hinvariant h p
  exact ⟨hkept, congrArg Prod.fst hrest⟩

/-- Whatever fails, a pass keeps the invariants of its two phases. -/
theorem reconcile_preserves {onIngresses : MemoryStore K → Prop}
    {onServices : MemoryStore Service → Prop}
    (hingresses : PhaseInvariant onIngresses scope (synthesizer.synthesize pass.routes).objects
      (servesFailed (synthesizer.synthesize pass.routes).failedFqdns))
    (hservices : PhaseInvariant onServices scope (synthesizer.services pass.routes)
      fun _ => false)
    (h : onIngresses site.ingresses) (h' : onServices site.services) :
    onIngresses (site.reconcile synthesizer scope pass).2.ingresses ∧
      onServices (site.reconcile synthesizer scope pass).2.services := by
  cases hlisting : pass.listing with
  | error error =>
    rw [reconcile_of_error synthesizer scope site hlisting]
    exact ⟨h, h'⟩
  | ok listed =>
    obtain ⟨p, q, applied, finished, hfirst, hsecond, hpass⟩ :=
      reconcile_of_ok synthesizer scope site hlisting
    have happlied := reconcileIngresses_preserves synthesizer scope { site with calls := 0 }
      hingresses h (Reconciler.start synthesizer pass.routes)
    rw [hfirst] at happlied
    have hfinished := reconcileServices_preserves synthesizer scope hservices applied
      (happlied.2 ▸ h') p
    rw [hsecond] at hfinished
    rw [hpass]
    exact ⟨hfinished.2 ▸ happlied.1, hfinished.1⟩

end Passes

end Site

end Ingress
