import Ingress.Pass.Apply
import Ingress.Proofs.Store.Memory
import Mathlib.Data.List.Nodup

/-!
# Bringing objects about in memory

On a store in memory that nobody else writes to, bringing a desired object about comes down to
`settle`: create it where its key is free, leave a live object that agrees, and otherwise write
the live object brought in line. `settleAll` does so for one object after another. An object
is `Settled` when bringing it about once more changes nothing.
-/

namespace Ingress

/-- A state program runs its first step and then, on what that left, the rest. -/
theorem bind_apply {σ α β : Type} (first : StateM σ α) (rest : α → StateM σ β) (s : σ) :
    (first >>= rest) s = rest (first s).1 (first s).2 := rfl

end Ingress

namespace Ingress.MemoryStore

variable {K : Type} [Managed K]

/-- A store adds an object whose key is free. -/
theorem create_of_get?_eq_none {s : MemoryStore K} {desired : K} {ns : String}
    (hns : Resource.ns desired = some ns) (hfree : s.get? (Resource.key desired) = none) :
    s.create desired = (.ok (s.stamped (identified desired)),
      s.write (Resource.key desired) (identified desired)) := by
  unfold create
  rw [hns]
  simp only [hfree]

variable [DecidableEq K]

/-- What bringing a desired object about comes to on a store in memory. -/
def settle (s : MemoryStore K) (desired : K) : Except StoreError Outcome × MemoryStore K :=
  match Resource.ns desired with
  | none => (.error (.missingNamespace (Resource.name desired)), s)
  | some _ =>
    match s.get? (Resource.key desired) with
    | none => (.ok .created, s.write (Resource.key desired) (identified desired))
    | some live =>
      if Managed.conform live desired = live then (.ok .unchanged, s)
      else (.ok .updated, s.write (Resource.key desired) (Managed.conform live desired))

/-- The store after desired objects have been brought about, one after another. -/
def settleAll (s : MemoryStore K) (desired : List K) : MemoryStore K :=
  desired.foldl (fun s object => (s.settle object).2) s

/-- Bringing two lists about, one after the other, is bringing their concatenation about. -/
theorem settleAll_append (s : MemoryStore K) (first second : List K) :
    s.settleAll (first ++ second) = (s.settleAll first).settleAll second :=
  List.foldl_append

/-- A desired object without a namespace is refused and changes nothing. -/
theorem settle_of_ns_eq_none {s : MemoryStore K} {desired : K}
    (hns : Resource.ns desired = none) :
    s.settle desired = (.error (.missingNamespace (Resource.name desired)), s) := by
  unfold settle
  rw [hns]

/-- A desired object whose key is free is created. -/
theorem settle_of_get?_eq_none {s : MemoryStore K} {desired : K} {ns : String}
    (hns : Resource.ns desired = some ns) (hfree : s.get? (Resource.key desired) = none) :
    s.settle desired =
      (.ok .created, s.write (Resource.key desired) (identified desired)) := by
  unfold settle
  rw [hns]
  simp only [hfree]

/-- A live object is left or brought in line. -/
theorem settle_of_get?_eq_some {s : MemoryStore K} {desired live : K} {ns : String}
    (hns : Resource.ns desired = some ns) (hlive : s.get? (Resource.key desired) = some live) :
    s.settle desired =
      if Managed.conform live desired = live then (.ok .unchanged, s)
      else (.ok .updated, s.write (Resource.key desired) (Managed.conform live desired)) := by
  unfold settle
  rw [hns]
  simp only [hlive]

/-- Bringing an object about changes no key but its own. -/
theorem get?_settle_of_ne {s : MemoryStore K} {desired : K} {key : ObjectKey}
    (hne : key ≠ Resource.key desired) : (s.settle desired).2.get? key = s.get? key := by
  cases hns : Resource.ns desired with
  | none => rw [settle_of_ns_eq_none hns]
  | some ns =>
    cases hlive : s.get? (Resource.key desired) with
    | none => rw [settle_of_get?_eq_none hns hlive, get?_write, if_neg hne]
    | some live =>
      rw [settle_of_get?_eq_some hns hlive]
      split
      · rfl
      · rw [get?_write, if_neg hne]

/-- Bringing objects about changes no keys but theirs. -/
theorem get?_settleAll_of_notMem {s : MemoryStore K} {desired : List K} {key : ObjectKey}
    (hkey : key ∉ desired.map Resource.key) : (s.settleAll desired).get? key = s.get? key := by
  induction desired generalizing s with
  | nil => rfl
  | cons object rest ih =>
    simp only [List.map_cons, List.mem_cons, not_or] at hkey
    change ((s.settle object).2.settleAll rest).get? key = s.get? key
    rw [ih hkey.2, get?_settle_of_ne hkey.1]

variable [ManagedView K] [LawfulManaged K]

/-- With nobody else writing, create-or-update on a keyed store is `settle`. -/
theorem createOrUpdate_store {s : MemoryStore K} (hkeyed : s.Keyed) (desired : K) :
    createOrUpdate store desired s = s.settle desired := by
  unfold createOrUpdate
  cases hns : Resource.ns desired with
  | none =>
    rw [settle_of_ns_eq_none hns]
    rfl
  | some ns =>
    have hget : store.get ns (Resource.name desired) s =
        (.ok (s.get? (Resource.key desired)), s) := by
      rw [key_eq_of_ns hns]
      rfl
    change createOrUpdateIn store ns desired s = s.settle desired
    unfold createOrUpdateIn
    rw [bind_apply, hget]
    cases hlive : s.get? (Resource.key desired) with
    | none =>
      have hcreate : store.create desired s = (.ok (s.stamped (identified desired)),
          s.write (Resource.key desired) (identified desired)) :=
        create_of_get?_eq_none hns hlive
      rw [settle_of_get?_eq_none hns hlive]
      simp only [bind_apply, hcreate]
      rfl
    | some live =>
      rw [settle_of_get?_eq_some hns hlive]
      change updateLive store desired live s = _
      unfold updateLive
      split
      · rfl
      · have hreplace := replace_conform hkeyed hlive
        change (store.replace (Managed.conform live desired) s) = _ at hreplace
        rw [bind_apply, hreplace]
        rfl

/-- Bringing a desired object about would change nothing: it is refused for want of a namespace,
or the live object agrees with it. -/
def Settled (s : MemoryStore K) (desired : K) : Prop :=
  Resource.ns desired = none ∨
    ∃ live, s.get? (Resource.key desired) = some live ∧ Managed.Agrees live desired

/-- A settled object is left alone: nothing is created, updated or written. -/
theorem Settled.settle {s : MemoryStore K} {desired : K} (h : s.Settled desired) :
    (s.settle desired).2 = s ∧
      ((s.settle desired).1 = .ok .unchanged ∨ ∃ e, (s.settle desired).1 = .error e) := by
  cases hns : Resource.ns desired with
  | none =>
    rw [settle_of_ns_eq_none hns]
    exact ⟨rfl, Or.inr ⟨_, rfl⟩⟩
  | some ns =>
    rcases h with h | ⟨live, hlive, hagrees⟩
    · rw [hns] at h
      cases h
    · have hconform := (LawfulManaged.conform_eq_self_iff live desired).mpr hagrees
      rw [settle_of_get?_eq_some hns hlive, if_pos hconform]
      exact ⟨rfl, Or.inl rfl⟩

/-- An object that has been brought about is settled. -/
theorem settled_settle (s : MemoryStore K) {desired : K}
    (hself : Managed.Agrees desired desired) : (s.settle desired).2.Settled desired := by
  cases hns : Resource.ns desired with
  | none => exact Or.inl hns
  | some ns =>
    cases hlive : s.get? (Resource.key desired) with
    | none =>
      rw [settle_of_get?_eq_none hns hlive]
      refine Or.inr ⟨s.stamped (identified desired), ?_, agrees_stamped_identified s hself⟩
      rw [get?_write, if_pos rfl]
    | some live =>
      rw [settle_of_get?_eq_some hns hlive]
      split
      · next hconform =>
        exact Or.inr ⟨live, hlive, (LawfulManaged.conform_eq_self_iff live desired).mp hconform⟩
      · refine Or.inr ⟨s.stamped (Managed.conform live desired), ?_,
          agrees_stamped_conform s live desired⟩
        rw [get?_write, if_pos rfl]

/-- What lies in a store after an object has been brought about was there before or agrees with
that object. -/
theorem get?_settle_cases {s : MemoryStore K} {desired object : K} {key : ObjectKey}
    (hself : Managed.Agrees desired desired) (h : (s.settle desired).2.get? key = some object) :
    s.get? key = some object ∨
      key = Resource.key desired ∧ Managed.Agrees object desired := by
  by_cases hkey : key = Resource.key desired
  · rcases settled_settle s hself with hns | ⟨live, hlive, hagrees⟩
    · rw [settle_of_ns_eq_none hns] at h
      exact Or.inl h
    · rw [hkey, hlive] at h
      cases h
      exact Or.inr ⟨hkey, hagrees⟩
  · rw [get?_settle_of_ne hkey] at h
    exact Or.inl h

/-- Bringing an object about keeps objects under their own keys. -/
theorem Keyed.settle {s : MemoryStore K} (h : s.Keyed) (desired : K) :
    (s.settle desired).2.Keyed := by
  cases hns : Resource.ns desired with
  | none =>
    rw [settle_of_ns_eq_none hns]
    exact h
  | some ns =>
    cases hlive : s.get? (Resource.key desired) with
    | none =>
      rw [settle_of_get?_eq_none hns hlive]
      exact h.write (key_identified desired)
    | some live =>
      rw [settle_of_get?_eq_some hns hlive]
      split
      · exact h
      · exact h.write ((key_conform live desired).trans (h _ _ hlive))

/-- Bringing objects about keeps objects under their own keys. -/
theorem Keyed.settleAll {s : MemoryStore K} (h : s.Keyed) (desired : List K) :
    (s.settleAll desired).Keyed := by
  induction desired generalizing s with
  | nil => exact h
  | cons object rest ih => exact ih (h.settle object)

/-- Of the desired objects with one key, one is settled in the end: the one that came last. -/
theorem exists_settled_settleAll {s : MemoryStore K} {desired : List K}
    (hself : ∀ object ∈ desired, Managed.Agrees object object) {key : ObjectKey}
    (hkey : key ∈ desired.map Resource.key) :
    ∃ object ∈ desired, Resource.key object = key ∧ (s.settleAll desired).Settled object := by
  induction desired generalizing s with
  | nil => cases hkey
  | cons object rest ih =>
    by_cases hrest : key ∈ rest.map Resource.key
    · obtain ⟨last, hlast, hlastKey, hsettled⟩ :=
        ih (s := (s.settle object).2) (fun o ho => hself o (List.mem_cons_of_mem _ ho)) hrest
      exact ⟨last, List.mem_cons_of_mem _ hlast, hlastKey, hsettled⟩
    · have hobject : key = Resource.key object := by
        simpa only [List.map_cons, List.mem_cons, hrest, or_false] using hkey
      refine ⟨object, List.mem_cons_self, hobject.symm, ?_⟩
      change ((s.settle object).2.settleAll rest).Settled object
      unfold Settled
      rw [get?_settleAll_of_notMem (hobject ▸ hrest)]
      exact settled_settle s (hself object List.mem_cons_self)

/-- Where desired objects have distinct keys, all of them are settled in the end. -/
theorem settled_settleAll {s : MemoryStore K} {desired : List K}
    (hself : ∀ object ∈ desired, Managed.Agrees object object)
    (hnodup : (desired.map Resource.key).Nodup) :
    ∀ object ∈ desired, (s.settleAll desired).Settled object := by
  intro object hobject
  obtain ⟨last, hlast, hkey, hsettled⟩ :=
    exists_settled_settleAll (s := s) hself (List.mem_map_of_mem hobject)
  rwa [← List.inj_on_of_nodup_map hnodup hlast hobject hkey]

/-- Settled objects are left alone, all of them. -/
theorem settleAll_eq_self {s : MemoryStore K} {desired : List K}
    (h : ∀ object ∈ desired, s.Settled object) : s.settleAll desired = s := by
  induction desired with
  | nil => rfl
  | cons object rest ih =>
    change (s.settle object).2.settleAll rest = s
    rw [(h object List.mem_cons_self).settle.1]
    exact ih fun o ho => h o (List.mem_cons_of_mem _ ho)

end Ingress.MemoryStore
