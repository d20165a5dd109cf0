import Ingress.Proofs.Pass.Confinement

/-!
# Writes and what a summary counts of them

A store in memory counts its writes, and a summary counts what was created, updated and deleted. As
long as nobody else writes the two counts grow by the same, whichever operations fail: bringing an
object about writes once or counts nothing, and what pruning deletes is live until it does, because
a keyed store lists no key twice. `Site.writeCount_reconcile` says so of a pass. A store counts in a
word that comes round to 0, so all of this is said of words.
-/

namespace Ingress

/-- How many writes a summary counts, as the counter of a store does. -/
def Summary.writeCount (s : Summary) : UInt64 :=
  UInt64.ofNat (s.created + s.updated + s.deleted)

section Balance

variable {σ K : Type} {part : σ → MemoryStore K}

/-- From one point of a pass to another, as many writes have been counted as were made. -/
def Balanced (part : σ → MemoryStore K) (p : Progress) (s : σ) (q : Progress) (t : σ) : Prop :=
  q.summary.writeCount + (part s).writeCount = p.summary.writeCount + (part t).writeCount

/-- Two stretches of a pass, one after the other, make up one. -/
theorem Balanced.trans {p q r : Progress} {s t u : σ} (h : Balanced part p s q t)
    (h' : Balanced part q t r u) : Balanced part p s r u := by
  unfold Balanced at *
  grind

/-- A stretch in which one write is made and counted. -/
theorem Balanced.once {p q : Progress} {s t : σ}
    (hcounted : q.summary.created + q.summary.updated + q.summary.deleted =
      p.summary.created + p.summary.updated + p.summary.deleted + 1)
    (hmade : (part t).writeCount = (part s).writeCount + 1) : Balanced part p s q t := by
  have hsummary : q.summary.writeCount = p.summary.writeCount + 1 := by
    unfold Summary.writeCount
    rw [hcounted, UInt64.ofNat_add]
    rfl
  unfold Balanced
  rw [hsummary, hmade, UInt64.add_assoc, UInt64.add_comm 1]

end Balance

namespace MemoryStore

variable {K : Type} [Managed K] [DecidableEq K]

/-- Bringing an object about writes as often as is counted. -/
theorem balanced_settle (s : MemoryStore K) (p : Progress) (kind : String) (key : ObjectKey)
    (desired : K) :
    Balanced id p s (p.applied kind key (s.settle desired).1) (s.settle desired).2 := by
  cases hns : Resource.ns desired with
  | none => rw [settle_of_ns_eq_none hns]; rfl
  | some ns =>
    cases hlive : s.get? (Resource.key desired) with
    | none =>
      rw [settle_of_get?_eq_none hns hlive]
      refine .once ?_ rfl
      simp only [Progress.applied, Progress.say, Summary.record]
      omega
    | some live =>
      rw [settle_of_get?_eq_some hns hlive]
      split
      · rfl
      · refine .once ?_ rfl
        simp only [Progress.applied, Progress.say, Summary.record]
        omega

omit [DecidableEq K] in
/-- In a keyed store the objects that are stale have distinct keys. -/
theorem Keyed.nodup_keys_stale {s : MemoryStore K} (h : s.Keyed) (scope : Option String)
    (desired : List ObjectKey) (keep : K → Bool) :
    ((s.stale scope desired keep).map Resource.key).Nodup := by
  refine (h.nodup_stale scope desired keep).map_on fun a ha b hb hkey => ?_
  have hlive := (h.mem_stale.mp ha).1
  rw [hkey, (h.mem_stale.mp hb).1] at hlive
  exact (Option.some.inj hlive).symm

end MemoryStore

section Programs

variable {σ τ K : Type} [Managed K] {part : σ → MemoryStore K} {rest : σ → τ}
  {store : Store (StateM σ) K}

/-- Deleting a live object deletes it and counts that, or fails, and no other key is touched. -/
theorem balanced_pruneObject (h : store.Acts (Falters part rest) MemoryStore.store) {object : K}
    {s : σ} (hlive : (part s).get? (Resource.key object) ≠ none) (p : Progress) :
    Balanced part p s (pruneObject store p object s).1 (pruneObject store p object s).2 ∧
      ∀ key, key ≠ Resource.key object →
        (part (pruneObject store p object s).2).get? key = (part s).get? key := by
  have hstep : pruneObject store p object s =
      (p.pruned (Resource.kind K) (Resource.key object)
          (store.delete (Resource.key object).ns (Resource.key object).name s).1,
        (store.delete (Resource.key object).ns (Resource.key object).name s).2) := rfl
  have hrun := h.delete (Resource.key object).ns (Resource.key object).name s
  have hmodel : MemoryStore.store.delete (Resource.key object).ns (Resource.key object).name
      (part s) = (.ok (), (part s).delete (Resource.key object)) := rfl
  rw [hmodel] at hrun
  rw [hstep]
  rcases hrun.outcome with ⟨hanswer, hpart⟩ | ⟨⟨error, herror⟩, hpart⟩
  · rw [hanswer]
    refine ⟨.once ?_ ?_, fun key hne => ?_⟩
    · simp only [Progress.pruned, Progress.say]
      omega
    · rw [hpart, MemoryStore.writeCount_delete hlive]
    · rw [hpart, MemoryStore.get?_delete, if_neg hne]
  · unfold Balanced
    rw [herror, hpart]
    exact ⟨rfl, fun _ _ => rfl⟩

/-- Deleting live objects with distinct keys one by one deletes as many as are counted. -/
theorem balanced_pruneObjects (h : store.Acts (Falters part rest) MemoryStore.store)
    (objects : List K) {s : σ} (hnodup : (objects.map Resource.key).Nodup)
    (hlive : ∀ object ∈ objects, (part s).get? (Resource.key object) ≠ none) (p : Progress) :
    Balanced part p s (objects.foldlM (pruneObject store) p s).1
      (objects.foldlM (pruneObject store) p s).2 := by
  induction objects generalizing p s with
  | nil => rfl
  | cons object others ih =>
    rw [List.map_cons, List.nodup_cons] at hnodup
    rw [List.forall_mem_cons] at hlive
    obtain ⟨hfirst, hothers⟩ := balanced_pruneObject h hlive.1 p
    rw [List.foldlM_cons, bind_apply]
    refine hfirst.trans (ih hnodup.2 (fun other hother => ?_) _)
    rw [hothers _ fun hkey => hnodup.1 (hkey ▸ List.mem_map_of_mem hother)]
    exact hlive.2 other hother

/-- Pruning deletes as many objects as are counted. -/
theorem balanced_prune (h : store.Acts (Falters part rest) MemoryStore.store) {s : σ}
    (hkeyed : (part s).Keyed) (scope : Option String) (desired : List ObjectKey) (keep : K → Bool)
    (p : Progress) :
    Balanced part p s (prune store scope desired keep p s).1
      (prune store scope desired keep p s).2 := by
  have hrun := h.list scope managedSelector s
  unfold prune
  rw [bind_apply]
  rcases hrun.outcome with ⟨hanswer, hpart⟩ | ⟨⟨error, herror⟩, hpart⟩
  · rw [hanswer]
    have hbalanced := balanced_pruneObjects h ((part s).stale scope desired keep)
      (s := (store.list scope managedSelector s).2) (hkeyed.nodup_keys_stale scope desired keep)
      (fun object hobject => by
        rw [hpart]
        exact Option.ne_none_iff_exists'.mpr ⟨object, (hkeyed.mem_stale.mp hobject).1⟩) p
    unfold Balanced at hbalanced ⊢
    rw [hpart] at hbalanced
    exact hbalanced
  · rw [herror]
    unfold Balanced
    change _ = _ + (part (store.list scope managedSelector s).2).writeCount
    rw [hpart]
    rfl

variable [DecidableEq K] [ManagedView K] [LawfulManaged K]

/-- Applying an object writes as often as is counted. -/
theorem balanced_applyObject (h : store.Acts (Falters part rest) MemoryStore.store) {s : σ}
    (hkeyed : (part s).Keyed) (p : Progress) (desired : K) :
    Balanced part p s (applyObject store p desired s).1 (applyObject store p desired s).2 := by
  have hstep : applyObject store p desired s =
      (p.applied (Resource.kind K) (Resource.key desired) (createOrUpdate store desired s).1,
        (createOrUpdate store desired s).2) := rfl
  unfold Balanced
  rw [hstep]
  rcases (createOrUpdate_falters h hkeyed desired).outcome with
    ⟨hanswer, hpart⟩ | ⟨⟨error, herror⟩, hpart⟩
  · rw [hanswer, hpart]
    exact (part s).balanced_settle p (Resource.kind K) (Resource.key desired) desired
  · rw [herror, hpart]
    rfl

/-- Applying objects writes as often as is counted. -/
theorem balanced_applyAll (h : store.Acts (Falters part rest) MemoryStore.store) {s : σ}
    (hkeyed : (part s).Keyed) (p : Progress) (desired : List K) :
    (part (applyAll store p desired s).2).Keyed ∧
      Balanced part p s (applyAll store p desired s).1 (applyAll store p desired s).2 := by
  refine foldlM_invariant (fun q t => (part t).Keyed ∧ Balanced part p s q t) ?_ ⟨hkeyed, rfl⟩
  rintro object _ q t ⟨ht, hbalanced⟩
  refine ⟨?_, hbalanced.trans (balanced_applyObject h ht q object)⟩
  rcases (createOrUpdate_falters h ht object).part_eq with hdone | hback
  · exact hdone ▸ ht.settle object
  · exact hback ▸ ht

/-- A phase writes as often as is counted. -/
theorem balanced_phase (h : store.Acts (Falters part rest) MemoryStore.store) {s : σ}
    (hkeyed : (part s).Keyed) (scope : Option String) (desired : List K) (keep : K → Bool)
    (p : Progress) :
    Balanced part p s (phase store scope desired keep p s).1
      (phase store scope desired keep p s).2 := by
  obtain ⟨hkept, happlied⟩ := balanced_applyAll h hkeyed p desired
  exact happlied.trans (balanced_prune h hkept scope _ keep _)

end Programs

section Services

variable {σ τ : Type} {part : σ → MemoryStore Service} {rest : σ → τ}
  {store : Store (StateM σ) Service}

/-- The phase of services writes as often as is counted. -/
theorem balanced_servicePhase (h : store.Acts (Falters part rest) MemoryStore.store) {s : σ}
    (hkeyed : (part s).Keyed) (scope : Option String) (labels : Labels) (routes : List Route)
    (p : Progress) :
    Balanced part p s (servicePhase store scope labels routes p s).1
      (servicePhase store scope labels routes p s).2 := by
  have happlied : (part (applyRoutes store labels p routes s).2).Keyed ∧
      Balanced part p s (applyRoutes store labels p routes s).1
        (applyRoutes store labels p routes s).2 := by
    refine foldlM_invariant (fun q t => (part t).Keyed ∧ Balanced part p s q t) ?_ ⟨hkeyed, rfl⟩
    rintro route _ q t ⟨ht, hbalanced⟩
    obtain ⟨hkept, hroute⟩ := balanced_applyAll h ht
      { q with log := q.log ++ route.serviceLog } (route.services labels)
    exact ⟨hkept, hbalanced.trans hroute⟩
  exact happlied.2.trans (balanced_prune h happlied.1 scope _ _ _)

end Services

namespace Site

variable {K : Type} [Managed K] [DecidableEq K] [ManagedView K] [LawfulManaged K]
  (synthesizer : Synthesizer K) (scope : Option String) (pass : SitePass) (site : Site K)

/-- Bringing ingress objects in line writes as often as is counted. -/
theorem balanced_reconcileIngresses (h : site.ingresses.Keyed) (p : Progress) :
    Balanced ingresses p site
      ((reconciler synthesizer scope pass).reconcileIngresses
        (synthesizer.synthesize pass.routes) p site).1
      ((reconciler synthesizer scope pass).reconcileIngresses
        (synthesizer.synthesize pass.routes) p site).2 :=
  balanced_phase (acts_ingresses synthesizer scope) h scope _ _ p

omit [DecidableEq K] [ManagedView K] [LawfulManaged K] in
/-- Bringing services in line writes as often as is counted. -/
theorem balanced_reconcileServices (h : site.services.Keyed) (p : Progress) :
    Balanced services p site
      ((reconciler synthesizer scope pass).reconcileServices pass.routes p site).1
      ((reconciler synthesizer scope pass).reconcileServices pass.routes p site).2 :=
  balanced_servicePhase (acts_services synthesizer scope) h scope _ _ p

/-- Whatever fails, a pass that nobody interferes with counts as many objects created, updated and
deleted as it makes writes, in both stores together. -/
theorem writeCount_reconcile (hingresses : site.ingresses.Keyed) (hservices : site.services.Keyed)
    {summary : Summary} (h : (site.reconcile synthesizer scope pass).1.1 = .ok summary) :
    summary.writeCount + (site.ingresses.writeCount + site.services.writeCount) =
      (site.reconcile synthesizer scope pass).2.ingresses.writeCount +
        (site.reconcile synthesizer scope pass).2.services.writeCount := by
  cases hlisting : pass.listing with
  | error error =>
    rw [reconcile_of_error synthesizer scope site hlisting] at h
    cases h
  | ok listed =>
    obtain ⟨p, q, applied, finished, hfirst, hsecond, hpass⟩ :=
      reconcile_of_ok synthesizer scope site hlisting
    have hcounted := balanced_reconcileIngresses synthesizer scope pass { site with calls := 0 }
      hingresses (Reconciler.start synthesizer pass.routes)
    have hkept := reconcileIngresses_preserves synthesizer scope { site with calls := 0 }
      (phaseInvariant_keyed scope (synthesizer.synthesize pass.routes).objects _) hingresses
      (Reconciler.start synthesizer pass.routes)
    rw [hfirst] at hcounted hkept
    have hstill : applied.services.Keyed := hkept.2 ▸ hservices
    have hcounted' := balanced_reconcileServices synthesizer scope pass applied hstill p
    have hkept' := reconcileServices_preserves synthesizer scope
      (phaseInvariant_keyed scope (synthesizer.services pass.routes) _) applied hstill p
    rw [hsecond] at hcounted' hkept'
    rw [hpass] at h ⊢
    cases h
    have hservicesWrites : applied.services.writeCount = site.services.writeCount :=
      congrArg MemoryStore.writeCount hkept.2
    have hingressWrites : finished.ingresses.writeCount = applied.ingresses.writeCount :=
      congrArg MemoryStore.writeCount hkept'.2
    have hstart : (Reconciler.start synthesizer pass.routes).summary.writeCount = 0 := rfl
    unfold Balanced at hcounted hcounted'
    change q.summary.writeCount + _ = finished.ingresses.writeCount + finished.services.writeCount
    dsimp only at hcounted hcounted'
    grind

end Site

end Ingress
