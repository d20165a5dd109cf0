import Ingress.Proofs.Pass.Race
import Ingress.Proofs.Store.Memory
import Mathlib.Data.List.Nodup
import Std.Data.String.ToNat

/-!
# The ledger of a race

The versions in a ledger count up, and what is live was stored by a write in it (`Ledger`). So as
long as versions do not wrap around, a version stands for one object only, also where a key was
emptied and filled anew (`Ledger.eq_of_version_eq`).
-/

namespace Ingress

namespace Race

variable {K : Type} [Managed K]

/-- The version that the write with a number, counted from 0, stamps. -/
def stampOf (number : Nat) : Option String :=
  some (toString (UInt64.ofNat (number + 1)).toNat)

/-- Before versions wrap around, no two writes stamp one version. -/
theorem stampOf_inj {a b : Nat} (ha : a + 1 < UInt64.size) (hb : b + 1 < UInt64.size)
    (h : stampOf a = stampOf b) : a = b := by
  have hnat : (UInt64.ofNat (a + 1)).toNat = (UInt64.ofNat (b + 1)).toNat :=
    Nat.repr_inj.mp (Option.some.inj h)
  rw [UInt64.toNat_ofNat_of_lt' ha, UInt64.toNat_ofNat_of_lt' hb] at hnat
  omega

/-- The versions in a ledger count up, and every live object was stored by a write in it. -/
structure Ledger (s : MemoryStore K) (ledger : List (LedgerEntry K)) : Prop where
  /-- The next version is the one that the next write is due. -/
  version_eq : s.version = UInt64.ofNat (ledger.length + 1)
  /-- Every write has stamped the version that it was due. -/
  versions_eq : ledger.map LedgerEntry.version = (List.range ledger.length).map stampOf
  /-- Every live object was stored by a write. -/
  live : ∀ key object, s.get? key = some object → object ∈ ledger.map LedgerEntry.stored

namespace Ledger

variable {s : MemoryStore K} {ledger : List (LedgerEntry K)}

theorem empty : Ledger ({} : MemoryStore K) [] where
  version_eq := rfl
  versions_eq := rfl
  live key object h := by
    rw [MemoryStore.get?_empty] at h
    cases h

/-- A deletion keeps the ledger in order. -/
theorem delete (h : Ledger s ledger) (key : ObjectKey) : Ledger (s.delete key) ledger where
  version_eq := by
    rw [← h.version_eq]
    unfold MemoryStore.delete
    split <;> rfl
  versions_eq := h.versions_eq
  live other object hlive := by
    rw [MemoryStore.get?_delete] at hlive
    split at hlive
    · cases hlive
    · exact h.live other object hlive

/-- A write with its entry keeps the ledger in order. -/
theorem write [ManagedView K] [LawfulManaged K] (h : Ledger s ledger) (key : ObjectKey)
    {object : K} {entry : LedgerEntry K} (hstored : entry.stored = s.stamped object) :
    Ledger (s.write key object) (ledger ++ [entry]) where
  version_eq := by
    change s.version + 1 = _
    rw [h.version_eq, List.length_append, List.length_singleton]
    exact (UInt64.ofNat_add (ledger.length + 1) 1).symm
  versions_eq := by
    have hversion : entry.version = stampOf ledger.length := by
      unfold LedgerEntry.version stampOf
      rw [hstored, ← h.version_eq]
      unfold MemoryStore.stamped
      rw [LawfulManaged.metadata_withMetadata]
    rw [List.map_append, h.versions_eq, List.length_append, List.length_singleton,
      List.range_succ, List.map_append, List.map_singleton, List.map_singleton, hversion]
  live other live hlive := by
    rw [List.map_append, List.mem_append]
    rw [MemoryStore.get?_write] at hlive
    split at hlive
    · cases hlive
      exact Or.inr (List.mem_singleton.mpr hstored.symm)
    · exact Or.inl (h.live other live hlive)

/-- Before versions wrap around, no version is stamped twice. -/
theorem nodup (h : Ledger s ledger) (hbound : ledger.length < UInt64.size) :
    (ledger.map LedgerEntry.version).Nodup := by
  rw [h.versions_eq]
  refine List.nodup_range.map_on fun a ha b hb hab => ?_
  rw [List.mem_range] at ha hb
  exact stampOf_inj (by omega) (by omega) hab

/-- Before versions wrap around, the write at a place, counted from 0, has stamped the number of
writes so far. -/
theorem version_of_getElem? (h : Ledger s ledger) (hbound : ledger.length < UInt64.size) {i : Nat}
    {entry : LedgerEntry K} (hentry : ledger[i]? = some entry) :
    entry.version = some (toString (i + 1)) := by
  have hi : i < ledger.length := (List.getElem?_eq_some_iff.mp hentry).1
  have hversions : (ledger.map LedgerEntry.version)[i]? =
      ((List.range ledger.length).map stampOf)[i]? := by rw [h.versions_eq]
  rw [List.getElem?_map, List.getElem?_map, hentry, List.getElem?_range hi] at hversions
  have hstamp : entry.version = stampOf i := Option.some.inj hversions
  rw [hstamp, stampOf, UInt64.toNat_ofNat_of_lt' (by omega)]

/-- Before versions wrap around, a version stands for one object. -/
theorem eq_of_version_eq (h : Ledger s ledger) (hbound : ledger.length < UInt64.size) {a b : K}
    (ha : a ∈ ledger.map LedgerEntry.stored) (hb : b ∈ ledger.map LedgerEntry.stored)
    (hversion : (Resource.metadata a).resourceVersion = (Resource.metadata b).resourceVersion) :
    a = b := by
  obtain ⟨first, hfirst, rfl⟩ := List.mem_map.mp ha
  obtain ⟨second, hsecond, rfl⟩ := List.mem_map.mp hb
  rw [List.inj_on_of_nodup_map (h.nodup hbound) hfirst hsecond hversion]

end Ledger

end Race

end Ingress
