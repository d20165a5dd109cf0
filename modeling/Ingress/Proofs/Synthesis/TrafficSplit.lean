import Ingress.Proofs.Synthesis.Weight
import Mathlib.Algebra.Order.BigOperators.Group.List
import Mathlib.Algebra.Order.Ring.Int

/-!
# How the traffic of a route is split

A hundred is split evenly in words of 32 bits. None of the operations on the way leaves these
(`exactSplit`), so the words of an even split stand for the shares that `evenShare` says in numbers
without bounds, and these sum to a hundred. `Route.split` is the share of every materialized
destination: the weight it was given, else its share of the even split. Weights that can be resolved
are these shares, destination by destination (`Route.split_eq_map`), and where sums are looked at
they sum to a hundred (`Route.sum_split`).
-/

namespace Ingress

/-- What the destination at a place gets when a hundred is split evenly among `n`: the quotient, and
the first also what the division leaves over. -/
def evenShare (n i : Nat) : Int :=
  if i = 0 then 100 / n + 100 % n else 100 / n

/-- No even share is negative. -/
theorem evenShare_nonneg (n i : Nat) : 0 ≤ evenShare n i := by
  have hquotient : (0 : Int) ≤ 100 / n := Int.ediv_nonneg (by decide) (Int.natCast_nonneg n)
  have hremainder : (0 : Int) ≤ 100 % n := mod_cast Nat.zero_le (100 % n)
  unfold evenShare
  split
  · exact Int.add_nonneg hquotient hremainder
  · exact hquotient

/-- Of the even shares all but the first are the quotient. -/
theorem map_evenShare_range (others : Nat) :
    (List.range (others + 1)).map (evenShare (others + 1)) =
      evenShare (others + 1) 0 :: List.replicate others (100 / (others + 1 : Nat) : Int) := by
  rw [List.range_succ_eq_map, List.map_cons, List.map_map]
  congr 1
  rw [List.eq_replicate_iff, List.length_map, List.length_range]
  refine ⟨rfl, fun share hshare => ?_⟩
  obtain ⟨i, _, rfl⟩ := List.mem_map.mp hshare
  rw [Function.comp_apply, evenShare, if_neg (Nat.succ_ne_zero i)]

/-- Even shares sum to a hundred. -/
theorem sum_evenShare {n : Nat} (hpos : n ≠ 0) : ((List.range n).map (evenShare n)).sum = 100 := by
  obtain ⟨others, rfl⟩ := Nat.exists_eq_add_one_of_ne_zero hpos
  have hdivision := Int.mul_ediv_add_emod 100 (others + 1 : Nat)
  have hproduct : ((others + 1 : Nat) * (100 / (others + 1 : Nat)) : Int) =
      others * (100 / (others + 1 : Nat)) + 100 / (others + 1 : Nat) := by
    rw [Nat.cast_succ, Int.add_mul, Int.one_mul]
  rw [map_evenShare_range, List.sum_cons, List.sum_replicate, nsmul_eq_mul, evenShare, if_pos rfl]
  omega

/-- The words of the even split among `n` stand for the numbers that they are computed as: neither
the count nor the quotient, the product, the difference or the sum leaves 32 bits. -/
structure ExactSplit (n : Nat) : Prop where
  /-- The count. -/
  count : (Int32.ofNat n).toInt = n
  /-- The quotient. -/
  quotient : (fullWeight / Int32.ofNat n).toInt = 100 / n
  /-- What the quotients take. -/
  product : (Int32.ofNat n * (fullWeight / Int32.ofNat n)).toInt = n * (100 / n)
  /-- What they leave over. -/
  difference : (fullWeight - Int32.ofNat n * (fullWeight / Int32.ofNat n)).toInt =
    100 - n * (100 / n)
  /-- What the first gets. -/
  sum : (fullWeight / Int32.ofNat n +
    (fullWeight - Int32.ofNat n * (fullWeight / Int32.ofNat n))).toInt =
      100 / n + (100 - n * (100 / n))

/-- The even split among some destinations that 32 bits can count is exact. -/
theorem exactSplit {n : Nat} (hpos : n ≠ 0) (hcount : n ≤ 2147483647) : ExactSplit n := by
  have hfull : fullWeight.toInt = 100 := rfl
  have hquotient : (100 / n : Int) ≤ 100 := Int.ediv_le_self n (by decide)
  have hnonneg : 0 ≤ (100 / n : Int) := Int.ediv_nonneg (by decide) (by omega)
  have hproduct : (n * (100 / n) : Int) ≤ 100 := Int.mul_ediv_self_le (by omega)
  have hnonneg' : 0 ≤ (n * (100 / n) : Int) := Int.mul_nonneg (by omega) hnonneg
  have hcountWord : (Int32.ofNat n).toInt = n := Int32.toInt_ofNat_of_lt (by omega)
  have hquotientWord : (fullWeight / Int32.ofNat n).toInt = 100 / n := by
    rw [Int32.toInt_div, hfull, hcountWord, Int.tdiv_eq_ediv_of_nonneg (by decide)]
    apply Int.bmod_eq_of_le <;> omega
  have hproductWord : (Int32.ofNat n * (fullWeight / Int32.ofNat n)).toInt = n * (100 / n) := by
    rw [Int32.toInt_mul, hcountWord, hquotientWord]
    apply Int.bmod_eq_of_le <;> omega
  have hdifferenceWord : (fullWeight - Int32.ofNat n * (fullWeight / Int32.ofNat n)).toInt =
      100 - n * (100 / n) := by
    rw [Int32.toInt_sub, hfull, hproductWord]
    apply Int.bmod_eq_of_le <;> omega
  refine ⟨hcountWord, hquotientWord, hproductWord, hdifferenceWord, ?_⟩
  rw [Int32.toInt_add, hquotientWord, hdifferenceWord]
  apply Int.bmod_eq_of_le <;> omega

/-- The words of an even split stand for even shares. -/
theorem map_toInt_of_inferWeights {n : Nat} {weights : List Int32}
    (h : inferWeights n = some weights) :
    weights.map Int32.toInt = (List.range n).map (evenShare n) := by
  unfold inferWeights at h
  split at h
  · cases h
  · next hn =>
    cases h
    have hexact := exactSplit (n := n) (by omega) (by omega)
    have hdivision := Int.mul_ediv_add_emod 100 n
    obtain ⟨others, rfl⟩ := Nat.exists_eq_add_one_of_ne_zero (show n ≠ 0 by omega)
    rw [List.map_cons, List.map_replicate, hexact.sum, hexact.quotient, map_evenShare_range,
      Nat.add_sub_cancel, evenShare, if_pos rfl]
    congr 2
    omega

/-- What resolved weights are: those that all destinations were given, with the right sum where that
is looked at, or an even split among destinations that were given none. -/
theorem resolveWeights_eq_ok_cases {route : Route} {requireSum : Bool} {weights : List Int32}
    (h : resolveWeights route requireSum = .ok weights) :
    ((∀ d ∈ route.materialized, d.weight ≠ none) ∧ weights = explicitWeights route.materialized ∧
        (requireSum = true → weightSum weights = fullWeight.toInt64)) ∨
      (∀ d ∈ route.materialized, d.weight = none) ∧
        inferWeights route.materialized.length = some weights := by
  rw [resolveWeights_eq] at h
  simp only [length_explicitWeights_ne_zero_iff, length_explicitWeights_ne_iff] at h
  split at h
  · cases h
  · next hcomplete =>
    split at h
    · cases h
    · next hsum =>
      split at h
      · next hall =>
        cases h
        obtain ⟨d, hd⟩ := List.exists_mem_of_ne_nil _ hall.1
        have hgiven : ∀ d ∈ route.materialized, d.weight ≠ none := fun d hd =>
          Option.isSome_iff_ne_none.mp (List.all_eq_true.mp hall.2 d hd)
        refine .inl ⟨hgiven, rfl, fun hasked => ?_⟩
        exact Decidable.not_not.mp fun hne => hsum ⟨hasked, ⟨d, hd, hgiven d hd⟩, hne⟩
      · next hall =>
        split at h
        · next hinfer =>
          cases h
          refine .inr ⟨fun d hd => ?_, hinfer⟩
          have hmissing : ∃ d ∈ route.materialized, d.weight = none := by
            by_contra hnone
            simp only [not_exists, not_and] at hnone
            exact hall ⟨List.ne_nil_of_mem hd, List.all_eq_true.mpr fun d hd =>
              Option.isSome_iff_ne_none.mpr (hnone d hd)⟩
          exact Decidable.not_not.mp fun hgiven => hcomplete ⟨⟨d, hd, hgiven⟩, hmissing⟩
        · cases h

namespace Route

/-- The materialized destinations of a route, each with its share of the traffic: its weight, where
it has one, else its part of the even split. -/
def split (route : Route) : List (Destination × Int) :=
  route.materialized.zipIdx.map fun (destination, i) =>
    (destination, (destination.weight.map Int32.toInt).getD
      (evenShare route.materialized.length i))

/-- Every materialized destination has one share, in order. -/
theorem map_fst_split (route : Route) : route.split.map Prod.fst = route.materialized := by
  unfold split
  rw [List.map_map]
  exact List.zipIdx_map_fst 0 route.materialized

/-- Where all destinations have a weight, these are the shares. -/
theorem map_snd_split_of_given {route : Route}
    (h : ∀ d ∈ route.materialized, d.weight ≠ none) :
    route.split.map Prod.snd = (explicitWeights route.materialized).map Int32.toInt := by
  have hpairs : explicitWeights route.materialized =
      route.materialized.zipIdx.filterMap fun pair => pair.1.weight := by
    conv_lhs => rw [← List.zipIdx_map_fst 0 route.materialized]
    exact List.filterMap_map
  unfold split
  rw [hpairs, List.map_map, List.map_filterMap, ← List.filterMap_eq_map]
  refine List.filterMap_congr fun pair hpair => ?_
  obtain ⟨weight, hweight⟩ := Option.ne_none_iff_exists'.mp
    (h pair.1 (List.fst_mem_of_mem_zipIdx hpair))
  simp only [Function.comp_apply, hweight, Option.map_some, Option.getD_some]

/-- Where no destination has a weight, the shares are even. -/
theorem map_snd_split_of_missing {route : Route}
    (h : ∀ d ∈ route.materialized, d.weight = none) :
    route.split.map Prod.snd =
      (List.range route.materialized.length).map (evenShare route.materialized.length) := by
  unfold split
  rw [List.map_map, List.range_eq_range', ← List.zipIdx_map_snd 0 route.materialized, List.map_map]
  refine List.map_congr_left fun pair hpair => ?_
  simp only [Function.comp_apply, h pair.1 (List.fst_mem_of_mem_zipIdx hpair), Option.map_none,
    Option.getD_none]

/-- Resolved weights are the shares. -/
theorem map_snd_split {route : Route} {requireSum : Bool} {weights : List Int32}
    (h : resolveWeights route requireSum = .ok weights) :
    route.split.map Prod.snd = weights.map Int32.toInt := by
  rcases resolveWeights_eq_ok_cases h with ⟨hgiven, rfl, _⟩ | ⟨hmissing, hinfer⟩
  · exact map_snd_split_of_given hgiven
  · rw [map_snd_split_of_missing hmissing, map_toInt_of_inferWeights hinfer]

/-- Resolved weights are the shares, destination by destination. -/
theorem split_eq_map {route : Route} {requireSum : Bool} {weights : List Int32}
    (h : resolveWeights route requireSum = .ok weights) :
    route.split = (route.materialized.zip weights).map fun (destination, weight) =>
      (destination, weight.toInt) := by
  have hzip := List.zip_of_prod route.map_fst_split (map_snd_split h)
  rw [hzip, List.zip_map_right]
  rfl

/-- The sum of integers is the sum of the words that stand for them. -/
theorem sum_map_toInt (weights : List Int32) : (weights.map Int32.toInt).sum = exactSum weights := by
  induction weights with
  | nil => rfl
  | cons weight rest ih => rw [List.map_cons, List.sum_cons, ih]; rfl

/-- Where sums are looked at, the shares of some destinations that 32 bits can count sum to a
hundred. -/
theorem sum_split {route : Route} {weights : List Int32}
    (h : resolveWeights route true = .ok weights) (hsome : route.materialized ≠ [])
    (hcount : route.materialized.length ≤ 2147483647) :
    (route.split.map Prod.snd).sum = 100 := by
  rcases resolveWeights_eq_ok_cases h with ⟨hgiven, rfl, hsum⟩ | ⟨hmissing, _⟩
  · have hlength : (explicitWeights route.materialized).length ≤ 2147483648 :=
      Nat.le_trans (List.length_filterMap_le _ _) (Nat.le_succ_of_le hcount)
    rw [map_snd_split_of_given hgiven, sum_map_toInt]
    exact (weightSum_eq_fullWeight_iff hlength).mp (hsum rfl)
  · rw [map_snd_split_of_missing hmissing]
    exact sum_evenShare (mt List.length_eq_zero_iff.mp hsome)

end Route

end Ingress
