import Ingress.Proofs.Pass.Phase

/-!
# Passes on stores that fail now and then

An operation of a store `Falters` when it does what the operation in memory does or fails and
changes nothing. Whatever fails, and however often, bringing an object about then does what
`settle` does or nothing at all, so a phase keeps every property of the store that `settle` and
the deletion of stale objects keep: `PhaseInvariant` says which, and `phase_preserves` and
`servicePhase_preserves` carry it through a phase.
-/

namespace Ingress

section Operations

variable {σ μ τ α β : Type} {part : σ → μ} {rest : σ → τ}

/-- A run from a state that ended as the model's run did, or in an error that changed nothing.
Either way it changed nothing but `part`. -/
structure FaltersAt (part : σ → μ) (rest : σ → τ) (s : σ) (run : Except StoreError α × σ)
    (model : Except StoreError α × μ) : Prop where
  /-- It ended as the model's run, or in an error with the part as it was. -/
  outcome : run.1 = model.1 ∧ part run.2 = model.2 ∨
    (∃ error, run.1 = .error error) ∧ part run.2 = part s
  /-- Nothing else changed. -/
  rest_eq : rest run.2 = rest s

/-- An operation that does what the model does, or fails and changes nothing. -/
def Falters (part : σ → μ) (rest : σ → τ) (program : StateM σ (Except StoreError α))
    (model : StateM μ (Except StoreError α)) : Prop :=
  ∀ s, FaltersAt part rest s (program s) (model (part s))

/-- A run that ended in an error and changed nothing. -/
theorem FaltersAt.of_error {s t : σ} {error : StoreError} {model : Except StoreError α × μ}
    (hpart : part t = part s) (hrest : rest t = rest s) :
    FaltersAt part rest s (.error error, t) model :=
  ⟨Or.inr ⟨⟨error, rfl⟩, hpart⟩, hrest⟩

/-- What came before a run and changed nothing does not count. -/
theorem FaltersAt.of_unchanged {s t : σ} {run : Except StoreError α × σ}
    {model : Except StoreError α × μ} (h : FaltersAt part rest t run model)
    (hpart : part t = part s) (hrest : rest t = rest s) : FaltersAt part rest s run model :=
  ⟨hpart ▸ h.outcome, h.rest_eq.trans hrest⟩

/-- The state after a run is the model's or as it was. -/
theorem FaltersAt.part_eq {s : σ} {run : Except StoreError α × σ}
    {model : Except StoreError α × μ} (h : FaltersAt part rest s run model) :
    part run.2 = model.2 ∨ part run.2 = part s :=
  h.outcome.imp And.right And.right

end Operations

section Programs

variable {σ τ K : Type} [Managed K] {part : σ → MemoryStore K} {rest : σ → τ}
  {store : Store (StateM σ) K}

/-- Reading an object answers what is there or fails, and changes nothing. -/
theorem get_falters (h : store.Acts (Falters part rest) MemoryStore.store) (ns name : String)
    (s : σ) :
    ((store.get ns name s).1 = .ok ((part s).get? ⟨ns, name⟩) ∨
      ∃ error, (store.get ns name s).1 = .error error) ∧
    part (store.get ns name s).2 = part s ∧ rest (store.get ns name s).2 = rest s := by
  obtain ⟨houtcome, hrest⟩ := h.get ns name s
  rcases houtcome with ⟨hanswer, hpart⟩ | ⟨herror, hpart⟩
  · exact ⟨Or.inl hanswer, hpart, hrest⟩
  · exact ⟨Or.inr herror, hpart, hrest⟩

variable [DecidableEq K]

/-- After a creation that was refused although the key was free, nothing is there to update. -/
theorem updateRaced_falters (h : store.Acts (Falters part rest) MemoryStore.store) {s : σ}
    {desired : K} {ns : String} (hns : Resource.ns desired = some ns)
    (hfree : (part s).get? (Resource.key desired) = none)
    {model : Except StoreError Outcome × MemoryStore K} :
    FaltersAt part rest s (updateRaced store ns desired s) model := by
  rw [MemoryStore.key_eq_of_ns hns] at hfree
  obtain ⟨hanswer, hpart, hrest⟩ := get_falters h ns (Resource.name desired) s
  rw [hfree] at hanswer
  unfold updateRaced
  rw [bind_apply]
  rcases hanswer with hnone | ⟨error, herror⟩
  · rw [hnone]
    exact FaltersAt.of_error hpart hrest
  · rw [herror]
    exact FaltersAt.of_error hpart hrest

variable [ManagedView K] [LawfulManaged K]

/-- Updating a live object brings it in line or fails. -/
theorem updateLive_falters (h : store.Acts (Falters part rest) MemoryStore.store) {s : σ}
    (hkeyed : (part s).Keyed) {desired live : K} {ns : String}
    (hns : Resource.ns desired = some ns)
    (hlive : (part s).get? (Resource.key desired) = some live) :
    FaltersAt part rest s (updateLive store desired live s) ((part s).settle desired) := by
  rw [MemoryStore.settle_of_get?_eq_some hns hlive]
  unfold updateLive
  split
  · exact ⟨Or.inl ⟨rfl, rfl⟩, rfl⟩
  · obtain ⟨houtcome, hrest⟩ := h.replace (Managed.conform live desired) s
    have hmodel : MemoryStore.store.replace (Managed.conform live desired) (part s) = _ :=
      MemoryStore.replace_conform hkeyed hlive
    rw [hmodel] at houtcome
    rw [bind_apply]
    rcases houtcome with ⟨hanswer, hpart⟩ | ⟨⟨error, herror⟩, hpart⟩
    · rw [hanswer]
      exact ⟨Or.inl ⟨rfl, hpart⟩, hrest⟩
    · rw [herror]
      exact FaltersAt.of_error hpart hrest

/-- Bringing an object about does so or fails, and where it fails it changes nothing. -/
theorem createOrUpdate_falters (h : store.Acts (Falters part rest) MemoryStore.store) {s : σ}
    (hkeyed : (part s).Keyed) (desired : K) :
    FaltersAt part rest s (createOrUpdate store desired s) ((part s).settle desired) := by
  unfold createOrUpdate
  cases hns : Resource.ns desired with
  | none =>
    exact FaltersAt.of_error rfl rfl
  | some ns =>
    change FaltersAt part rest s (createOrUpdateIn store ns desired s) _
    obtain ⟨hanswer, hpart, hrest⟩ := get_falters h ns (Resource.name desired) s
    rw [← MemoryStore.key_eq_of_ns hns] at hanswer
    unfold createOrUpdateIn
    rw [bind_apply]
    rcases hanswer with hanswer | ⟨error, herror⟩
    · rw [hanswer]
      cases hlive : (part s).get? (Resource.key desired) with
      | some live =>
        have hupdate := updateLive_falters h (s := (store.get ns (Resource.name desired) s).2)
          (by rwa [hpart]) hns (by rwa [hpart])
        rw [hpart] at hupdate
        exact hupdate.of_unchanged hpart hrest
      | none =>
        rw [MemoryStore.settle_of_get?_eq_none hns hlive]
        obtain ⟨houtcome, hrest'⟩ := h.create desired (store.get ns (Resource.name desired) s).2
        have hmodel : MemoryStore.store.create desired (part s) = _ :=
          MemoryStore.create_of_get?_eq_none hns hlive
        rw [hpart, hmodel] at houtcome
        rw [hrest] at hrest'
        dsimp only
        rw [bind_apply]
        rcases houtcome with ⟨hcreated, hpart'⟩ | ⟨⟨error, herror⟩, hpart'⟩
        · rw [hcreated]
          exact ⟨Or.inl ⟨rfl, hpart'⟩, hrest'⟩
        · rw [herror]
          cases error with
          -- Nobody else writes, so such a refusal is an outage like any other.
          | alreadyExists subject =>
            exact (updateRaced_falters h hns (by rwa [hpart'])).of_unchanged hpart' hrest'
          | _ => exact FaltersAt.of_error hpart' hrest'
    · rw [herror]
      exact FaltersAt.of_error hpart hrest

end Programs

/-- A property of stores that a phase keeps, whichever of its operations fail. -/
structure PhaseInvariant {K : Type} [Managed K] [DecidableEq K]
    (invariant : MemoryStore K → Prop) (scope : Option String) (desired : List K)
    (keep : K → Bool) : Prop where
  /-- Every object lies under its own key. -/
  keyed (s : MemoryStore K) : invariant s → s.Keyed
  /-- Bringing a desired object about keeps it. -/
  settle : ∀ object ∈ desired, ∀ s, invariant s → invariant (s.settle object).2
  /-- The deletion of an object that was stale when they were listed keeps it. -/
  delete (listed : MemoryStore K) : invariant listed →
    ∀ object ∈ listed.stale scope (desired.map Resource.key) keep, ∀ s, invariant s →
      invariant (s.delete (Resource.key object))

/-- A phase keeps objects under their own keys. -/
theorem phaseInvariant_keyed {K : Type} [Managed K] [DecidableEq K] [ManagedView K]
    [LawfulManaged K] (scope : Option String) (desired : List K) (keep : K → Bool) :
    PhaseInvariant MemoryStore.Keyed scope desired keep where
  keyed _ h := h
  settle object _ _ h := h.settle object
  delete _ _ _ _ _ h := h.delete _

section Invariants

variable {σ τ K : Type} [Managed K] [DecidableEq K] {part : σ → MemoryStore K} {rest : σ → τ}
  {store : Store (StateM σ) K} {invariant : MemoryStore K → Prop} {scope : Option String}
  {desired : List K} {keep : K → Bool} {s : σ}

/-- Pruning keeps what a phase keeps. -/
theorem prune_preserves (h : store.Acts (Falters part rest) MemoryStore.store)
    (hinvariant : PhaseInvariant invariant scope desired keep) (hs : invariant (part s))
    (p : Progress) :
    invariant (part (prune store scope (desired.map Resource.key) keep p s).2) ∧
      rest (prune store scope (desired.map Resource.key) keep p s).2 = rest s := by
  obtain ⟨houtcome, hrest⟩ := h.list scope managedSelector s
  unfold prune
  rw [bind_apply]
  rcases houtcome with ⟨hanswer, hpart⟩ | ⟨⟨error, herror⟩, hpart⟩
  · rw [hanswer]
    refine foldlM_invariant (fun (_ : Progress) t => invariant (part t) ∧ rest t = rest s) ?_
      ⟨hpart ▸ hs, hrest⟩
    rintro object hobject q t ⟨ht, htrest⟩
    have hrun := h.delete (Resource.key object).ns (Resource.key object).name t
    refine ⟨?_, hrun.rest_eq.trans htrest⟩
    rcases hrun.part_eq with hgone | hback
    · exact hgone ▸ hinvariant.delete (part s) hs object hobject _ ht
    · exact hback ▸ ht
  · rw [herror]
    exact ⟨hpart ▸ hs, hrest⟩

variable [ManagedView K] [LawfulManaged K]

/-- Applying objects keeps what bringing each of them about keeps. -/
theorem applyAll_preserves (h : store.Acts (Falters part rest) MemoryStore.store)
    (hkeyed : ∀ t, invariant t → t.Keyed)
    (hsettle : ∀ object ∈ desired, ∀ t, invariant t → invariant (t.settle object).2)
    (hs : invariant (part s)) (p : Progress) :
    invariant (part (applyAll store p desired s).2) ∧
      rest (applyAll store p desired s).2 = rest s := by
  refine foldlM_invariant (fun (_ : Progress) t => invariant (part t) ∧ rest t = rest s) ?_
    ⟨hs, rfl⟩
  rintro object hobject q t ⟨ht, htrest⟩
  have hrun := createOrUpdate_falters h (hkeyed _ ht) object
  refine ⟨?_, hrun.rest_eq.trans htrest⟩
  rcases hrun.part_eq with hdone | hback
  · exact hdone ▸ hsettle object hobject _ ht
  · exact hback ▸ ht

/-- A phase keeps its invariants and changes nothing but its store. -/
theorem phase_preserves (h : store.Acts (Falters part rest) MemoryStore.store)
    (hinvariant : PhaseInvariant invariant scope desired keep) (hs : invariant (part s))
    (p : Progress) :
    invariant (part (phase store scope desired keep p s).2) ∧
      rest (phase store scope desired keep p s).2 = rest s := by
  obtain ⟨happlied, hrest⟩ := applyAll_preserves h hinvariant.keyed hinvariant.settle hs p
  obtain ⟨hpruned, hrest'⟩ := prune_preserves h hinvariant happlied
    (applyAll store p desired s).1
  exact ⟨hpruned, hrest'.trans hrest⟩

end Invariants

section Services

variable {σ τ : Type} {part : σ → MemoryStore Service} {rest : σ → τ}
  {store : Store (StateM σ) Service} {invariant : MemoryStore Service → Prop} {s : σ}

/-- Applying routes keeps what bringing each of their services about keeps. -/
theorem applyRoutes_preserves (h : store.Acts (Falters part rest) MemoryStore.store)
    {labels : Labels} {routes : List Route} (hkeyed : ∀ t, invariant t → t.Keyed)
    (hsettle : ∀ service ∈ routes.flatMap (Route.services labels), ∀ t, invariant t →
      invariant (t.settle service).2)
    (hs : invariant (part s)) (p : Progress) :
    invariant (part (applyRoutes store labels p routes s).2) ∧
      rest (applyRoutes store labels p routes s).2 = rest s := by
  refine foldlM_invariant (fun (_ : Progress) t => invariant (part t) ∧ rest t = rest s) ?_
    ⟨hs, rfl⟩
  rintro route hroute q t ⟨ht, htrest⟩
  have hservices : ∀ service ∈ route.services labels, ∀ t, invariant t →
      invariant (t.settle service).2 :=
    fun service hservice => hsettle service (List.mem_flatMap.mpr ⟨route, hroute, hservice⟩)
  obtain ⟨hkept, hrest⟩ := applyAll_preserves h hkeyed hservices ht
    { q with log := q.log ++ route.serviceLog }
  exact ⟨hkept, hrest.trans htrest⟩

/-- The phase of services keeps its invariants and changes nothing but services. -/
theorem servicePhase_preserves (h : store.Acts (Falters part rest) MemoryStore.store)
    {scope : Option String} {labels : Labels} {routes : List Route}
    (hinvariant : PhaseInvariant invariant scope (routes.flatMap (Route.services labels))
      fun _ => false)
    (hs : invariant (part s)) (p : Progress) :
    invariant (part (servicePhase store scope labels routes p s).2) ∧
      rest (servicePhase store scope labels routes p s).2 = rest s := by
  obtain ⟨happlied, hrest⟩ := applyRoutes_preserves h hinvariant.keyed hinvariant.settle hs p
  obtain ⟨hpruned, hrest'⟩ := prune_preserves h hinvariant happlied
    (applyRoutes store labels p routes s).1
  exact ⟨hpruned, hrest'.trans hrest⟩

end Services

end Ingress
