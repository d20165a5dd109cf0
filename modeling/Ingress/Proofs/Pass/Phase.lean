import Ingress.Proofs.Pass.Simulation

/-!
# The two phases of a pass in memory

A pass treats each kind of objects in a phase: it brings the desired ones about and then
prunes. In memory, and with nobody else writing, a phase leaves the store that `converged`
describes. The main statements are `Keyed.get?_converged_of_mem` and
`Keyed.get?_converged_eq_some_iff`, which say what lies under a desired key and under any
other, and `Keyed.stable_converged` with `Stable.converged_eq_self`: a phase leaves a store that
the same phase has nothing to do in, and leaves such a store alone.
-/

namespace Ingress

section Programs

variable {m : Type → Type} [Monad m] {K : Type} [Managed K] [DecidableEq K]

/-- Bring desired objects about and prune the rest. -/
def phase (store : Store m K) (scope : Option String) (desired : List K) (keep : K → Bool)
    (p : Progress) : m Progress := do
  let p ← applyAll store p desired
  prune store scope (desired.map Resource.key) keep p

/-- Bring the services of routes about, route by route. -/
def applyRoutes (store : Store m Service) (labels : Labels) (p : Progress)
    (routes : List Route) : m Progress :=
  routes.foldlM (fun p route =>
    applyAll store { p with log := p.log ++ route.serviceLog } (route.services labels)) p

/-- Bring the services of routes about and prune the rest. -/
def servicePhase (store : Store m Service) (scope : Option String) (labels : Labels)
    (routes : List Route) (p : Progress) : m Progress := do
  let p ← applyRoutes store labels p routes
  prune store scope ((routes.flatMap (Route.services labels)).map Resource.key)
    (fun _ => false) p

end Programs

section Simulations

variable {σ μ K : Type} [Managed K] [DecidableEq K] {embed : μ → σ}

/-- A phase on a store that simulates. -/
theorem phase_simulates {store : Store (StateM σ) K} {model : Store (StateM μ) K}
    (h : store.Acts (Simulates embed) model) (scope : Option String) (desired : List K)
    (keep : K → Bool) (p : Progress) :
    Simulates embed (phase store scope desired keep p) (phase model scope desired keep p) :=
  (applyAll_simulates h p desired).bind fun p => prune_simulates h scope _ keep p

/-- The phase of services on a store that simulates. -/
theorem servicePhase_simulates {store : Store (StateM σ) Service}
    {model : Store (StateM μ) Service} (h : store.Acts (Simulates embed) model)
    (scope : Option String) (labels : Labels) (routes : List Route) (p : Progress) :
    Simulates embed (servicePhase store scope labels routes p)
      (servicePhase model scope labels routes p) :=
  (Simulates.foldlM (fun _ _ => applyAll_simulates h _ _) routes p).bind
    fun p => prune_simulates h scope _ _ p

end Simulations

/-- Whether an object serves a hostname that failed is said by its annotation. -/
theorem servesFailed_iff {K : Type} [Managed K] {failed : List String} {object : K} :
    servesFailed failed object = true ↔
      ∃ fqdn ∈ failed, Resource.annotation? object fqdnKey = some fqdn := by
  unfold servesFailed
  rw [Option.any_eq_true]
  simp only [List.contains_iff_mem]
  exact exists_congr fun fqdn => and_comm

/-- An object is spared by pruning if the hostname of a failure stands in its annotation. -/
theorem servesFailed_failedFqdns_iff {K : Type} [Managed K] {synthesis : Synthesis K}
    {object : K} :
    servesFailed synthesis.failedFqdns object = true ↔ ∃ failure ∈ synthesis.errors,
      Resource.annotation? object fqdnKey = some failure.fqdn := by
  rw [servesFailed_iff]
  unfold Synthesis.failedFqdns
  simp only [List.mem_map, exists_exists_and_eq_and]

/-- How many objects were created, updated and deleted. -/
def Summary.changes (s : Summary) : Nat × Nat × Nat :=
  (s.created, s.updated, s.deleted)

/-- Noting that an object was as desired, or that it failed, counts no change. -/
theorem Progress.changes_applied (p : Progress) (kind : String) (key : ObjectKey)
    {result : Except StoreError Outcome}
    (h : result = .ok .unchanged ∨ ∃ e, result = .error e) :
    (p.applied kind key result).summary.changes = p.summary.changes := by
  rcases h with rfl | ⟨e, rfl⟩ <;> rfl

namespace MemoryStore

variable {K : Type} [Managed K] [DecidableEq K]

/-- The store after a phase. -/
def converged (s : MemoryStore K) (scope : Option String) (desired : List K)
    (keep : K → Bool) : MemoryStore K :=
  (s.settleAll desired).pruned scope (desired.map Resource.key) keep

variable [ManagedView K] [LawfulManaged K]

/-- Applying an object brings it about and notes what became of it. -/
theorem applyObject_store {s : MemoryStore K} (h : s.Keyed) (p : Progress) (desired : K) :
    applyObject store p desired s =
      (p.applied (Resource.kind K) (Resource.key desired) (s.settle desired).1,
        (s.settle desired).2) := by
  rw [← createOrUpdate_store h]
  rfl

/-- Applying objects brings them about, one after another. -/
theorem applyAll_store {s : MemoryStore K} (h : s.Keyed) (p : Progress) (desired : List K) :
    (applyAll store p desired s).2 = s.settleAll desired := by
  induction desired generalizing s p with
  | nil => rfl
  | cons object rest ih =>
    unfold applyAll
    rw [List.foldlM_cons, bind_apply, applyObject_store h]
    exact ih (h.settle object) _

/-- Applying routes brings all their services about. -/
theorem applyRoutes_store {s : MemoryStore Service} (h : s.Keyed) (labels : Labels)
    (p : Progress) (routes : List Route) :
    (applyRoutes store labels p routes s).2 =
      s.settleAll (routes.flatMap (Route.services labels)) := by
  induction routes generalizing s p with
  | nil => rfl
  | cons route rest ih =>
    unfold applyRoutes
    rw [List.foldlM_cons, bind_apply, applyAll_store h, List.flatMap_cons, settleAll_append]
    exact ih (h.settleAll _) _

/-- A phase leaves the store converged. -/
theorem phase_store {s : MemoryStore K} (h : s.Keyed) (scope : Option String)
    (desired : List K) (keep : K → Bool) (p : Progress) :
    (phase store scope desired keep p s).2 = s.converged scope desired keep := by
  unfold phase
  rw [bind_apply, (prune_store _ _ _ _ _).1, applyAll_store h]
  rfl

/-- The phase of services leaves their store converged. -/
theorem servicePhase_store {s : MemoryStore Service} (h : s.Keyed) (scope : Option String)
    (labels : Labels) (routes : List Route) (p : Progress) :
    (servicePhase store scope labels routes p s).2 =
      s.converged scope (routes.flatMap (Route.services labels)) fun _ => false := by
  unfold servicePhase
  rw [bind_apply, (prune_store _ _ _ _ _).1, applyRoutes_store h]
  rfl

section Converged

variable {s : MemoryStore K} {scope : Option String} {desired : List K} {keep : K → Bool}

/-- A phase keeps objects under their own keys. -/
theorem Keyed.converged (h : s.Keyed) (scope : Option String) (desired : List K)
    (keep : K → Bool) : (s.converged scope desired keep).Keyed :=
  (h.settleAll desired).pruned scope _ keep

/-- Under a desired key lies what bringing about has put there. -/
theorem Keyed.get?_converged_of_mem (h : s.Keyed) {key : ObjectKey}
    (hkey : key ∈ desired.map Resource.key) :
    (s.converged scope desired keep).get? key = (s.settleAll desired).get? key :=
  (h.settleAll desired).get?_pruned_of_mem hkey

/-- Under any other key lies what was there before, unless it was stale. -/
theorem Keyed.get?_converged_eq_some_iff (h : s.Keyed) {key : ObjectKey} {object : K}
    (hkey : key ∉ desired.map Resource.key) :
    (s.converged scope desired keep).get? key = some object ↔ s.get? key = some object ∧
      (key.InScope scope → Resource.IsManaged object → keep object = true) := by
  unfold MemoryStore.converged
  rw [(h.settleAll desired).get?_pruned_eq_some_iff, get?_settleAll_of_notMem hkey]
  simp only [hkey, false_or]

/-- Under a key that is not desired, a phase takes away what is managed, in scope and not kept. -/
theorem Keyed.get?_converged_eq_none_iff (h : s.Keyed) {key : ObjectKey} {object : K}
    (hkey : key ∉ desired.map Resource.key) (hlive : s.get? key = some object) :
    (s.converged scope desired keep).get? key = none ↔
      key.InScope scope ∧ Resource.IsManaged object ∧ keep object = false := by
  rw [Option.eq_none_iff_forall_ne_some]
  simp only [ne_eq, h.get?_converged_eq_some_iff hkey, hlive, Option.some.injEq]
  constructor
  · intro hgone
    by_contra hcon
    refine hgone object ⟨rfl, fun hin hown => ?_⟩
    by_contra hkeep
    exact hcon ⟨hin, hown, by simpa using hkeep⟩
  · rintro ⟨hin, hown, hkeep⟩ other ⟨rfl, hkept⟩
    rw [hkept hin hown] at hkeep
    cases hkeep

/-- Pruning does not unsettle a desired object. -/
theorem Keyed.settled_converged_iff (h : s.Keyed) (scope : Option String) (keep : K → Bool)
    {object : K} (hobject : object ∈ desired) :
    (s.converged scope desired keep).Settled object ↔ (s.settleAll desired).Settled object := by
  unfold Settled
  rw [h.get?_converged_of_mem (List.mem_map_of_mem hobject)]

/-- Where desired objects have namespaces, an object that agrees with one of them lies under every
desired key after a phase. -/
theorem Keyed.exists_agrees_converged (h : s.Keyed) (scope : Option String) (keep : K → Bool)
    (hself : ∀ object ∈ desired, Managed.Agrees object object)
    (hns : ∀ object ∈ desired, NsInScope scope (Resource.ns object)) {key : ObjectKey}
    (hkey : key ∈ desired.map Resource.key) :
    ∃ object ∈ desired, Resource.key object = key ∧ ∃ live,
      (s.converged scope desired keep).get? key = some live ∧ Managed.Agrees live object := by
  obtain ⟨object, hobject, rfl, hsettled⟩ := exists_settled_settleAll (s := s) hself hkey
  rw [← h.settled_converged_iff scope keep hobject] at hsettled
  refine ⟨object, hobject, rfl, hsettled.resolve_left ?_⟩
  exact (hns object hobject).ne_none

/-- Where desired objects have distinct keys, all of them are settled after a phase. -/
theorem Keyed.settled_converged (h : s.Keyed) (scope : Option String) (keep : K → Bool)
    (hself : ∀ object ∈ desired, Managed.Agrees object object)
    (hnodup : (desired.map Resource.key).Nodup) :
    ∀ object ∈ desired, (s.converged scope desired keep).Settled object := by
  intro object hobject
  rw [h.settled_converged_iff scope keep hobject]
  exact settled_settleAll hself hnodup object hobject

end Converged

/-- A store that a phase has nothing to do in. -/
structure Stable (s : MemoryStore K) (scope : Option String) (desired : List K)
    (keep : K → Bool) : Prop where
  /-- Every object lies under its own key. -/
  keyed : s.Keyed
  /-- Bringing a desired object about changes nothing. -/
  settled : ∀ object ∈ desired, s.Settled object
  /-- No object is stale. -/
  fresh : ∀ key object, s.get? key = some object → key.InScope scope →
    Resource.IsManaged object → key ∈ desired.map Resource.key ∨ keep object = true

/-- Where desired objects have distinct keys, a phase leaves nothing to do. -/
theorem Keyed.stable_converged {s : MemoryStore K} {desired : List K} (h : s.Keyed)
    (scope : Option String) (keep : K → Bool)
    (hself : ∀ object ∈ desired, Managed.Agrees object object)
    (hnodup : (desired.map Resource.key).Nodup) :
    (s.converged scope desired keep).Stable scope desired keep where
  keyed := h.converged scope desired keep
  settled := h.settled_converged scope keep hself hnodup
  fresh _ _ hlive := ((h.settleAll desired).get?_pruned_eq_some_iff.mp hlive).2

namespace Stable

variable {s : MemoryStore K} {scope : Option String} {desired : List K} {keep : K → Bool}

omit [DecidableEq K] [LawfulManaged K] in
/-- What there is to do does not depend on the order of the desired objects. -/
theorem of_perm {desired' : List K} (h : s.Stable scope desired keep)
    (hperm : desired.Perm desired') : s.Stable scope desired' keep where
  keyed := h.keyed
  settled object hobject := h.settled object (hperm.mem_iff.mpr hobject)
  fresh key object hlive hscope hmanaged := by
    rw [← (hperm.map Resource.key).mem_iff]
    exact h.fresh key object hlive hscope hmanaged

/-- A phase leaves a stable store as it is. -/
theorem converged_eq_self (h : s.Stable scope desired keep) :
    s.converged scope desired keep = s := by
  unfold MemoryStore.converged
  rw [settleAll_eq_self h.settled]
  unfold MemoryStore.pruned
  rw [h.keyed.stale_eq_nil h.fresh]
  rfl

omit [DecidableEq K] [LawfulManaged K] in
/-- Pruning a stable store counts nothing. -/
theorem summary_prune (h : s.Stable scope desired keep) (p : Progress) :
    (prune store scope (desired.map Resource.key) keep p s).1.summary = p.summary := by
  rw [(prune_store s scope _ keep p).2, h.keyed.stale_eq_nil h.fresh]
  rfl

end Stable

/-- Applying settled objects counts no change. -/
theorem changes_applyAll {s : MemoryStore K} {desired : List K} (h : s.Keyed)
    (hsettled : ∀ object ∈ desired, s.Settled object) (p : Progress) :
    (applyAll store p desired s).1.summary.changes = p.summary.changes := by
  have hstep : ∀ object ∈ desired, ∀ (q : Progress) (t : MemoryStore K),
      t = s ∧ q.summary.changes = p.summary.changes →
      (applyObject store q object t).2 = s ∧
        (applyObject store q object t).1.summary.changes = p.summary.changes := by
    rintro object hobject q t ⟨ht, hq⟩
    rw [ht]
    obtain ⟨hstore, hresult⟩ := (hsettled object hobject).settle
    rw [applyObject_store h]
    exact ⟨hstore, (q.changes_applied _ _ hresult).trans hq⟩
  exact (foldlM_invariant
    (fun (q : Progress) t => t = s ∧ q.summary.changes = p.summary.changes) hstep ⟨rfl, rfl⟩).2

/-- Applying routes whose services are settled counts no change. -/
theorem changes_applyRoutes {s : MemoryStore Service} {labels : Labels} {routes : List Route}
    (h : s.Keyed)
    (hsettled : ∀ service ∈ routes.flatMap (Route.services labels), s.Settled service)
    (p : Progress) :
    (applyRoutes store labels p routes s).1.summary.changes = p.summary.changes := by
  have hstep : ∀ route ∈ routes, ∀ (q : Progress) (t : MemoryStore Service),
      t = s ∧ q.summary.changes = p.summary.changes →
      (applyAll store { q with log := q.log ++ route.serviceLog }
          (route.services labels) t).2 = s ∧
        (applyAll store { q with log := q.log ++ route.serviceLog }
          (route.services labels) t).1.summary.changes = p.summary.changes := by
    rintro route hroute q t ⟨ht, hq⟩
    rw [ht]
    have hservices : ∀ service ∈ route.services labels, s.Settled service :=
      fun service hservice => hsettled service (List.mem_flatMap.mpr ⟨route, hroute, hservice⟩)
    rw [applyAll_store h, changes_applyAll h hservices]
    exact ⟨settleAll_eq_self hservices, hq⟩
  exact (foldlM_invariant
    (fun (q : Progress) t => t = s ∧ q.summary.changes = p.summary.changes) hstep ⟨rfl, rfl⟩).2

/-- A phase on a stable store counts no change. -/
theorem Stable.changes_phase {s : MemoryStore K} {scope : Option String} {desired : List K}
    {keep : K → Bool} (h : s.Stable scope desired keep) (p : Progress) :
    (phase store scope desired keep p s).1.summary.changes = p.summary.changes := by
  unfold phase
  rw [bind_apply, applyAll_store h.keyed, settleAll_eq_self h.settled, h.summary_prune,
    changes_applyAll h.keyed h.settled]

/-- The phase of services on a stable store counts no change. -/
theorem Stable.changes_servicePhase {s : MemoryStore Service} {scope : Option String}
    {labels : Labels} {routes : List Route}
    (h : s.Stable scope (routes.flatMap (Route.services labels)) fun _ => false)
    (p : Progress) :
    (servicePhase store scope labels routes p s).1.summary.changes = p.summary.changes := by
  unfold servicePhase
  rw [bind_apply, applyRoutes_store h.keyed, settleAll_eq_self h.settled, h.summary_prune,
    changes_applyRoutes h.keyed h.settled]

end MemoryStore

end Ingress
