import Ingress.Pass.Reconcile
import Ingress.Proofs.Store.Settle

/-!
# Pruning in memory

Pruning deletes the live objects in scope that carry the manager's label, are not desired and
are not to be kept. `get?_pruned_eq_some_iff` says which objects are left, whatever the store
held before: those that were not stale, and each of them as it was.
-/

namespace Ingress

/-- An object that carries the label of this program. -/
def Resource.IsManaged {K : Type} [Resource K] (object : K) : Prop :=
  (Resource.labels object)[managedByLabel]? = some manager

/-- A key in the namespace that pruning is confined to; without one, every key. -/
def ObjectKey.InScope (scope : Option String) (key : ObjectKey) : Prop :=
  ∀ ns ∈ scope, key.ns = ns

/-- A namespace that is there, and that is the one pruning is confined to, if it is to any. -/
def NsInScope (scope ns : Option String) : Prop :=
  ∃ text, ns = some text ∧ ∀ only ∈ scope, text = only

theorem NsInScope.ne_none {scope ns : Option String} (h : NsInScope scope ns) : ns ≠ none := by
  obtain ⟨text, rfl, _⟩ := h
  exact Option.some_ne_none text

/-- An object whose namespace is in scope has a key in scope. -/
theorem NsInScope.key {K : Type} [Resource K] {scope : Option String} {object : K}
    (h : NsInScope scope (Resource.ns object)) : (Resource.key object).InScope scope := by
  obtain ⟨text, hns, honly⟩ := h
  rw [MemoryStore.key_eq_of_ns hns]
  exact honly

/-- The selector of a pass asks for the manager's label and nothing else. -/
theorem selectorTerms_managedSelector :
    selectorTerms managedSelector = [.equals managedByLabel manager] := by decide

/-- The selector of a pass picks the objects that carry the manager's label. -/
theorem selects_managedSelector {K : Type} [Resource K] (object : K) :
    selects managedSelector (Resource.labels object) = true ↔ Resource.IsManaged object := by
  unfold selects
  rw [selectorTerms_managedSelector]
  simp only [List.all_cons, List.all_nil, Bool.and_true, SelectorTerm.holds, decide_eq_true_eq]
  rfl

/-- A live object that agrees with an object of this program is an object of this program. -/
theorem Managed.Agrees.isManaged {K : Type} [Managed K] [ManagedView K] {live desired : K}
    (h : Managed.Agrees live desired) (hdesired : Resource.IsManaged desired) :
    Resource.IsManaged live := by
  unfold Resource.IsManaged Resource.labels at hdesired ⊢
  rw [h.labels]
  exact hdesired

namespace MemoryStore

section Deletions

variable {K : Type} [Resource K]

/-- The store after objects have been deleted, one after another. -/
def deleteAll (s : MemoryStore K) (objects : List K) : MemoryStore K :=
  objects.foldl (fun s object => s.delete (Resource.key object)) s

/-- Deletions empty the keys of the deleted objects and nothing else. -/
theorem get?_deleteAll (s : MemoryStore K) (objects : List K) (key : ObjectKey) :
    (s.deleteAll objects).get? key =
      if key ∈ objects.map Resource.key then none else s.get? key := by
  induction objects generalizing s with
  | nil => rfl
  | cons object rest ih =>
    change ((s.delete (Resource.key object)).deleteAll rest).get? key = _
    rw [ih, get?_delete]
    simp only [List.map_cons, List.mem_cons]
    by_cases hrest : key ∈ rest.map Resource.key
    · rw [if_pos hrest, if_pos (Or.inr hrest)]
    · simp only [hrest, if_false, or_false]

/-- The objects that pruning deletes. -/
def stale (s : MemoryStore K) (scope : Option String) (desired : List ObjectKey)
    (keep : K → Bool) : List K :=
  (s.list scope managedSelector).filter fun object =>
    !(desired.contains (Resource.key object) || keep object)

/-- The store after pruning. -/
def pruned (s : MemoryStore K) (scope : Option String) (desired : List ObjectKey)
    (keep : K → Bool) : MemoryStore K :=
  s.deleteAll (s.stale scope desired keep)

variable {s : MemoryStore K} {scope : Option String} {desired : List ObjectKey} {keep : K → Bool}

/-- Stale are the managed objects in scope that are neither desired nor to be kept. -/
theorem Keyed.mem_stale (h : s.Keyed) {object : K} :
    object ∈ s.stale scope desired keep ↔ s.get? (Resource.key object) = some object ∧
      (Resource.key object).InScope scope ∧ Resource.IsManaged object ∧
      Resource.key object ∉ desired ∧ keep object = false := by
  unfold stale
  rw [List.mem_filter, h.mem_list, selects_managedSelector]
  simp only [Bool.not_or, Bool.and_eq_true, Bool.not_eq_true', List.contains_eq_mem,
    decide_eq_false_iff_not, and_assoc]
  rfl

/-- Where all managed objects in scope are desired or to be kept, nothing is stale. -/
theorem Keyed.stale_eq_nil (h : s.Keyed) {keys : List ObjectKey}
    (hfresh : ∀ key object, s.get? key = some object → key.InScope scope →
      Resource.IsManaged object → key ∈ keys ∨ keep object = true) :
    s.stale scope keys keep = [] := by
  rw [List.eq_nil_iff_forall_not_mem]
  intro object hobject
  obtain ⟨hlive, hscope, hmanaged, hdesired, hkeep⟩ := h.mem_stale.mp hobject
  rcases hfresh _ object hlive hscope hmanaged with hmem | hkept
  · exact hdesired hmem
  · rw [hkeep] at hkept
    cases hkept

/-- What pruning leaves: every object that is not stale, as it was. -/
theorem Keyed.get?_pruned_eq_some_iff (h : s.Keyed) {key : ObjectKey} {object : K} :
    (s.pruned scope desired keep).get? key = some object ↔ s.get? key = some object ∧
      (key.InScope scope → Resource.IsManaged object → key ∈ desired ∨ keep object = true) := by
  unfold pruned
  rw [get?_deleteAll]
  constructor
  · intro hleft
    split at hleft
    · cases hleft
    · next hkey =>
      refine ⟨hleft, fun hscope hmanaged => ?_⟩
      by_contra hcon
      simp only [not_or, Bool.not_eq_true] at hcon
      have hobject := h key object hleft
      refine hkey (List.mem_map.mpr ⟨object, h.mem_stale.mpr ?_, hobject⟩)
      rw [hobject]
      exact ⟨hleft, hscope, hmanaged, hcon.1, hcon.2⟩
  · rintro ⟨hlive, hfresh⟩
    rw [if_neg]
    · exact hlive
    · intro hkey
      obtain ⟨other, hother, rfl⟩ := List.mem_map.mp hkey
      obtain ⟨hotherLive, hscope, hmanaged, hdesired, hkeep⟩ := h.mem_stale.mp hother
      rw [hlive] at hotherLive
      cases hotherLive
      rcases hfresh hscope hmanaged with hmem | hkept
      · exact hdesired hmem
      · rw [hkeep] at hkept
        cases hkept

/-- Pruning leaves the keys of desired objects alone. -/
theorem Keyed.get?_pruned_of_mem (h : s.Keyed) {key : ObjectKey} (hkey : key ∈ desired) :
    (s.pruned scope desired keep).get? key = s.get? key := by
  apply Option.ext
  intro object
  rw [h.get?_pruned_eq_some_iff]
  exact and_iff_left fun _ _ => Or.inl hkey

/-- Pruning keeps objects under their own keys. -/
theorem Keyed.pruned (h : s.Keyed) (scope : Option String) (desired : List ObjectKey)
    (keep : K → Bool) : (s.pruned scope desired keep).Keyed := by
  intro key object hlive
  exact h key object (h.get?_pruned_eq_some_iff.mp hlive).1

end Deletions

section Program

variable {K : Type} [Managed K]

/-- Deleting objects of a store in memory one by one counts every one of them. -/
theorem foldlM_pruneObject_store (s : MemoryStore K) (objects : List K) (p : Progress) :
    (objects.foldlM (pruneObject store) p s).2 = s.deleteAll objects ∧
      (objects.foldlM (pruneObject store) p s).1.summary =
        { p.summary with deleted := p.summary.deleted + objects.length } := by
  induction objects generalizing s p with
  | nil => exact ⟨rfl, rfl⟩
  | cons object rest ih =>
    obtain ⟨hstore, hsummary⟩ := ih (s.delete (Resource.key object))
      (p.pruned (Resource.kind K) (Resource.key object) (.ok ()))
    rw [List.foldlM_cons, bind_apply]
    refine ⟨hstore, hsummary.trans ?_⟩
    simp only [Progress.pruned, Progress.say, List.length_cons, Nat.add_assoc, Nat.add_comm 1]

/-- Pruning a store in memory deletes what is stale and counts it. -/
theorem prune_store (s : MemoryStore K) (scope : Option String) (desired : List ObjectKey)
    (keep : K → Bool) (p : Progress) :
    (prune store scope desired keep p s).2 = s.pruned scope desired keep ∧
      (prune store scope desired keep p s).1.summary =
        { p.summary with
          deleted := p.summary.deleted + (s.stale scope desired keep).length } :=
  foldlM_pruneObject_store s (s.stale scope desired keep) p

end Program

end MemoryStore

end Ingress
