import Ingress.Proofs.Store.Prune

/-!
# Stores up to versions

Which version a write stamps depends on all the writes before it, also on those of other keys.
Nothing else does: what a phase leaves under a key depends on what lay there before, versions
apart, and on the desired objects with that key. `content_settleAll_filter` says so of bringing
objects about, where any objects with other keys may be left out, and `Keyed.mem_key_stale` of
what pruning deletes.
-/

namespace Ingress

/-- An object apart from its version. -/
def unversioned {K : Type} [Resource K] (object : K) : K :=
  Resource.withMetadata object { Resource.metadata object with resourceVersion := none }

/-- What lies under a key, apart from its version. -/
def MemoryStore.content {K : Type} [Resource K] (s : MemoryStore K) (key : ObjectKey) : Option K :=
  (s.get? key).map unversioned

namespace MemoryStore

variable {K : Type} [Managed K]

/-- Bringing an object about changes the content of no key but its own. -/
theorem content_settle_of_ne [DecidableEq K] {s : MemoryStore K} {desired : K} {key : ObjectKey}
    (hne : key ≠ Resource.key desired) : (s.settle desired).2.content key = s.content key := by
  unfold content
  rw [get?_settle_of_ne hne]

variable [ManagedView K] [LawfulManaged K]

/-- Leaving the version out changes no other metadata. -/
theorem metadata_unversioned (object : K) :
    Resource.metadata (unversioned object) =
      { Resource.metadata object with resourceVersion := none } :=
  LawfulManaged.metadata_withMetadata _ _

/-- The stamp of a write is only a version. -/
theorem unversioned_stamped (s : MemoryStore K) (object : K) :
    unversioned (s.stamped object) = unversioned object := by
  unfold unversioned stamped
  rw [LawfulManaged.withMetadata_withMetadata, LawfulManaged.metadata_withMetadata]

/-- Bringing an object in line does not look at its version. -/
theorem conform_unversioned (live desired : K) :
    Managed.conform (unversioned live) desired = unversioned (Managed.conform live desired) := by
  unfold unversioned
  rw [LawfulManaged.conform_withMetadata, LawfulManaged.metadata_conform]
  rfl

/-- Whether an object carries the label of this program does not depend on its version. -/
theorem isManaged_unversioned {object : K} :
    Resource.IsManaged (unversioned object) ↔ Resource.IsManaged object := by
  unfold Resource.IsManaged Resource.labels
  rw [metadata_unversioned]

/-- Which hostname an object serves does not depend on its version. -/
theorem servesFailed_unversioned (failed : List String) (object : K) :
    servesFailed failed (unversioned object) = servesFailed failed object := by
  unfold servesFailed Resource.annotation?
  rw [metadata_unversioned]

section Settle

variable [DecidableEq K]

/-- What bringing an object about leaves under its key follows from what lay there. -/
theorem content_settle {s : MemoryStore K} {desired : K} {ns : String}
    (hns : Resource.ns desired = some ns) :
    (s.settle desired).2.content (Resource.key desired) =
      match s.content (Resource.key desired) with
      | none => some (unversioned (identified desired))
      | some live => some (Managed.conform live desired) := by
  unfold content
  cases hlive : s.get? (Resource.key desired) with
  | none =>
    rw [settle_of_get?_eq_none hns hlive, get?_write, if_pos rfl]
    exact congrArg some (unversioned_stamped s _)
  | some live =>
    rw [settle_of_get?_eq_some hns hlive]
    dsimp only [Option.map_some]
    rw [conform_unversioned]
    split
    · next hconform => rw [hlive, hconform, Option.map_some]
    · rw [get?_write, if_pos rfl, Option.map_some, unversioned_stamped]

/-- Where two stores hold the same, bringing an object about leaves the same. -/
theorem content_settle_congr {s t : MemoryStore K} {key : ObjectKey}
    (h : s.content key = t.content key) (desired : K) :
    (s.settle desired).2.content key = (t.settle desired).2.content key := by
  cases hns : Resource.ns desired with
  | none => rw [settle_of_ns_eq_none hns, settle_of_ns_eq_none hns, h]
  | some ns =>
    by_cases hkey : key = Resource.key desired
    · subst hkey
      rw [content_settle hns, content_settle hns, h]
    · rw [content_settle_of_ne hkey, content_settle_of_ne hkey, h]

/-- What bringing objects about leaves under a key does not depend on those with other keys. -/
theorem content_settleAll_filter {s t : MemoryStore K} {key : ObjectKey}
    (h : s.content key = t.content key) (pick : ObjectKey → Bool) (hpick : pick key = true)
    (desired : List K) :
    (s.settleAll (desired.filter fun object => pick (Resource.key object))).content key =
      (t.settleAll desired).content key := by
  induction desired generalizing s t with
  | nil => exact h
  | cons object rest ih =>
    cases hobject : pick (Resource.key object) with
    | true =>
      simp only [List.filter_cons, hobject, if_true]
      exact ih (content_settle_congr h object)
    | false =>
      simp only [List.filter_cons, hobject, Bool.false_eq_true, if_false]
      refine ih (h.trans (content_settle_of_ne ?_).symm)
      rintro rfl
      rw [hpick] at hobject
      cases hobject

end Settle

omit [ManagedView K] [LawfulManaged K] in
/-- Deletions leave no content under the keys of the deleted objects. -/
theorem content_deleteAll (s : MemoryStore K) (objects : List K) (key : ObjectKey) :
    (s.deleteAll objects).content key =
      if key ∈ objects.map Resource.key then none else s.content key := by
  unfold content
  rw [get?_deleteAll]
  split <;> rfl

section Stale

variable {s : MemoryStore K} {scope : Option String} {desired : List ObjectKey} {keep : K → Bool}

/-- Whether the object under a key is stale follows from the content of the key. -/
theorem Keyed.mem_key_stale (h : s.Keyed)
    (hkeep : ∀ object, keep (unversioned object) = keep object) {key : ObjectKey} :
    key ∈ (s.stale scope desired keep).map Resource.key ↔
      ∃ object, s.content key = some object ∧ key.InScope scope ∧ Resource.IsManaged object ∧
        key ∉ desired ∧ keep object = false := by
  constructor
  · intro hkey
    obtain ⟨object, hobject, rfl⟩ := List.mem_map.mp hkey
    obtain ⟨hlive, hscope, hmanaged, hdesired, hkept⟩ := h.mem_stale.mp hobject
    refine ⟨unversioned object, ?_, hscope, isManaged_unversioned.mpr hmanaged, hdesired,
      (hkeep object).trans hkept⟩
    unfold content
    rw [hlive, Option.map_some]
  · rintro ⟨_, hcontent, hscope, hmanaged, hdesired, hkept⟩
    obtain ⟨object, hlive, rfl⟩ := Option.map_eq_some_iff.mp hcontent
    obtain rfl := h key object hlive
    rw [hkeep] at hkept
    exact List.mem_map_of_mem
      (h.mem_stale.mpr ⟨hlive, hscope, isManaged_unversioned.mp hmanaged, hdesired, hkept⟩)

/-- Where two stores hold the same under a key, it is stale in both or in neither. -/
theorem Keyed.mem_key_stale_congr {t : MemoryStore K} (hs : s.Keyed) (ht : t.Keyed)
    (hkeep : ∀ object, keep (unversioned object) = keep object) {key : ObjectKey}
    (hsame : s.content key = t.content key) :
    key ∈ (s.stale scope desired keep).map Resource.key ↔
      key ∈ (t.stale scope desired keep).map Resource.key := by
  rw [hs.mem_key_stale hkeep, ht.mem_key_stale hkeep, hsame]

end Stale

end MemoryStore

end Ingress
