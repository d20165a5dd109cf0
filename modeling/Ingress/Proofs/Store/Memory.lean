import Ingress.Proofs.Resource.Managed
import Ingress.Store.Memory

/-!
# Stores in memory, key by key

A write and a deletion change one key, and everything else that a store holds can be read off
`get?`. A store is `Keyed` when every object lies under its own key; all operations keep that.
-/

namespace Ingress.MemoryStore

section Keys

variable {K : Type}

@[simp] theorem get?_empty (key : ObjectKey) : ({} : MemoryStore K).get? key = none :=
  Std.ExtTreeMap.getElem?_empty

/-- A deletion empties its key and nothing else. -/
theorem get?_delete (s : MemoryStore K) (key other : ObjectKey) :
    (s.delete key).get? other = if other = key then none else s.get? other := by
  unfold delete
  cases hkey : s.get? key with
  | none =>
    by_cases hother : other = key
    · rw [if_pos hother, hother, hkey]
    · rw [if_neg hother]
  | some live =>
    simp only [get?, remove]
    rw [Std.ExtTreeMap.getElem?_erase]
    simp only [Std.LawfulEqCmp.compare_eq_iff_eq, eq_comm (a := key)]

/-- A deletion of what is not there changes nothing. -/
theorem delete_of_get?_eq_none {s : MemoryStore K} {key : ObjectKey} (h : s.get? key = none) :
    s.delete key = s := by
  unfold delete
  rw [h]

/-- The deletion of what is there counts as a write. -/
theorem writeCount_delete {s : MemoryStore K} {key : ObjectKey} (h : s.get? key ≠ none) :
    (s.delete key).writeCount = s.writeCount + 1 := by
  obtain ⟨live, hlive⟩ := Option.ne_none_iff_exists'.mp h
  unfold delete
  rw [hlive]

variable [Resource K]

/-- Putting an object into a store as it is puts it under its key and nothing else. -/
theorem get?_insert (s : MemoryStore K) (key : ObjectKey) (object : K) :
    (s.insert object).get? key =
      if key = Resource.key object then some object else s.get? key := by
  unfold get? insert
  rw [Std.ExtTreeMap.getElem?_insert]
  simp only [Std.LawfulEqCmp.compare_eq_iff_eq, eq_comm (a := Resource.key object)]

/-- A write puts the stamped object under its key and nothing else. -/
theorem get?_write (s : MemoryStore K) (key other : ObjectKey) (object : K) :
    (s.write key object).get? other =
      if other = key then some (s.stamped object) else s.get? other := by
  unfold get? write
  rw [Std.ExtTreeMap.getElem?_insert]
  simp only [Std.LawfulEqCmp.compare_eq_iff_eq, eq_comm (a := key)]

/-- A creation is refused and changes nothing, or it is written under a free key with an
identifier. -/
theorem create_cases (s : MemoryStore K) (object : K) :
    (∃ error, s.create object = (.error error, s)) ∨
    s.get? (Resource.key object) = none ∧
      s.create object = (.ok (s.stamped (identified object)),
        s.write (Resource.key object) (identified object)) := by
  unfold create
  split
  · exact Or.inl ⟨_, rfl⟩
  · dsimp only
    split
    · exact Or.inl ⟨_, rfl⟩
    · next hfree => exact Or.inr ⟨hfree, rfl⟩

/-- A replacement is refused and changes nothing, or it is written over an object that has its
version. -/
theorem replace_cases (s : MemoryStore K) (object : K) :
    (∃ error, s.replace object = (.error error, s) ∧
      ∃ subject, error = .conflict subject ∨ error = .notFound subject) ∨
    ∃ found, s.get? (Resource.key object) = some found ∧
      (Resource.metadata found).resourceVersion = (Resource.metadata object).resourceVersion ∧
      s.replace object = (.ok (s.stamped object), s.write (Resource.key object) object) := by
  unfold replace
  dsimp only
  split
  · exact Or.inl ⟨_, rfl, _, Or.inr rfl⟩
  · next found hfound =>
    split
    · exact Or.inl ⟨_, rfl, _, Or.inl rfl⟩
    · next hversion => exact Or.inr ⟨found, hfound, Decidable.not_not.mp hversion, rfl⟩

/-- What a listing holds: the live objects in scope that the selector picks. -/
theorem mem_list {s : MemoryStore K} {scope : Option String} {selector : String} {object : K} :
    object ∈ s.list scope selector ↔ ∃ key, s.get? key = some object ∧
      (∀ ns ∈ scope, key.ns = ns) ∧ selects selector (Resource.labels object) := by
  unfold list
  simp only [List.mem_map, List.mem_filter, Prod.exists, Bool.and_eq_true,
    Std.ExtTreeMap.mem_toList_iff_getElem?_eq_some, get?, Option.all_eq_true, decide_eq_true_eq]
  constructor
  · rintro ⟨key, live, ⟨hlive, hscope, hselected⟩, rfl⟩
    exact ⟨key, hlive, hscope, hselected⟩
  · rintro ⟨key, hlive, hscope, hselected⟩
    exact ⟨key, object, ⟨hlive, hscope, hselected⟩, rfl⟩

/-- The key of an object in a namespace. -/
theorem key_eq_of_ns {object : K} {ns : String} (hns : Resource.ns object = some ns) :
    Resource.key object = ⟨ns, Resource.name object⟩ := by
  unfold Resource.key Metadata.nsText
  rw [show (Resource.metadata object).ns = some ns from hns]
  rfl

/-- Every object lies under its own key, as in every store that its operations have filled. -/
def Keyed (s : MemoryStore K) : Prop :=
  ∀ key object, s.get? key = some object → Resource.key object = key

theorem keyed_empty : ({} : MemoryStore K).Keyed := by
  intro key object h
  rw [get?_empty] at h
  cases h

/-- In a keyed store a listing holds the live objects by their own keys. -/
theorem Keyed.mem_list {s : MemoryStore K} (h : s.Keyed) {scope : Option String}
    {selector : String} {object : K} :
    object ∈ s.list scope selector ↔ s.get? (Resource.key object) = some object ∧
      (∀ ns ∈ scope, (Resource.key object).ns = ns) ∧
      selects selector (Resource.labels object) := by
  rw [MemoryStore.mem_list]
  constructor
  · rintro ⟨key, hlive, hrest⟩
    rw [h key object hlive]
    exact ⟨hlive, hrest⟩
  · rintro ⟨hlive, hrest⟩
    exact ⟨_, hlive, hrest⟩

/-- An object that is put into a store lies under its own key. -/
theorem Keyed.insert {s : MemoryStore K} (h : s.Keyed) (object : K) : (s.insert object).Keyed := by
  intro key stored hstored
  rw [get?_insert] at hstored
  split at hstored
  · next heq =>
    cases hstored
    exact heq.symm
  · exact h key stored hstored

/-- A deletion keeps objects under their own keys. -/
theorem Keyed.delete {s : MemoryStore K} (h : s.Keyed) (key : ObjectKey) :
    (s.delete key).Keyed := by
  intro other object hother
  rw [get?_delete] at hother
  split at hother
  · cases hother
  · exact h other object hother

end Keys

section Writes

variable {K : Type} [Managed K] [ManagedView K] [LawfulManaged K]

/-- An object whose metadata differs only in version and identifier has the same key. -/
theorem key_withMetadata {object : K} {metadata : Metadata}
    (hname : metadata.displayName = (Resource.metadata object).displayName)
    (hns : metadata.ns = (Resource.metadata object).ns) :
    Resource.key (Resource.withMetadata object metadata) = Resource.key object := by
  unfold Resource.key Resource.name Metadata.nsText
  rw [LawfulManaged.metadata_withMetadata, hname, hns]

/-- The stamp of a write does not touch the key. -/
@[simp] theorem key_stamped (s : MemoryStore K) (object : K) :
    Resource.key (s.stamped object) = Resource.key object :=
  key_withMetadata rfl rfl

/-- The identifier that a store gives does not touch the key. -/
@[simp] theorem key_identified (object : K) :
    Resource.key (identified object) = Resource.key object :=
  key_withMetadata rfl rfl

/-- Bringing a live object in line does not touch its key. -/
@[simp] theorem key_conform (live desired : K) :
    Resource.key (Managed.conform live desired) = Resource.key live := by
  unfold Resource.key Resource.name
  rw [LawfulManaged.metadata_conform]
  rfl

/-- A write of an object under its own key keeps objects under their own keys. -/
theorem Keyed.write {s : MemoryStore K} (h : s.Keyed) {key : ObjectKey} {object : K}
    (hkey : Resource.key object = key) : (s.write key object).Keyed := by
  intro other stored hstored
  rw [get?_write] at hstored
  split at hstored
  · next heq =>
    cases hstored
    rw [key_stamped, hkey, heq]
  · exact h other stored hstored

/-- An object agrees with a desired one if it is written from it. -/
theorem agrees_stamped_identified (s : MemoryStore K) {desired : K}
    (hself : Managed.Agrees desired desired) :
    Managed.Agrees (s.stamped (identified desired)) desired := by
  rw [← LawfulManaged.conform_eq_self_iff] at hself ⊢
  unfold stamped identified
  rw [LawfulManaged.withMetadata_withMetadata, LawfulManaged.metadata_withMetadata,
    LawfulManaged.conform_withMetadata, hself]
  rfl

/-- An object agrees with a desired one if it has been brought in line with it. -/
theorem agrees_stamped_conform (s : MemoryStore K) (live desired : K) :
    Managed.Agrees (s.stamped (Managed.conform live desired)) desired := by
  rw [← LawfulManaged.conform_eq_self_iff]
  unfold stamped
  rw [LawfulManaged.conform_withMetadata, LawfulManaged.conform_conform,
    LawfulManaged.metadata_conform]
  rfl

/-- A replacement of the live object that keeps key and version is a plain write. -/
theorem replace_conform {s : MemoryStore K} {desired live : K} (hkeyed : s.Keyed)
    (hlive : s.get? (Resource.key desired) = some live) :
    s.replace (Managed.conform live desired) =
      (.ok (s.stamped (Managed.conform live desired)),
        s.write (Resource.key desired) (Managed.conform live desired)) := by
  have hkey : Resource.key (Managed.conform live desired) = Resource.key desired := by
    rw [key_conform, hkeyed _ _ hlive]
  have hversion : (Resource.metadata (Managed.conform live desired)).resourceVersion =
      (Resource.metadata live).resourceVersion := by
    rw [LawfulManaged.metadata_conform]
    rfl
  unfold replace
  simp only [hkey, hlive, hversion, ne_eq, not_true_eq_false, if_false]

end Writes

end Ingress.MemoryStore
