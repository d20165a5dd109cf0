import Ingress.Proofs.Synthesis.Outcome
import Ingress.Synthesis.Weight

/-!
# Weights, destination by destination

What the weights of a route come to is laid out case by case in `resolveWeights_eq`. Where they can
be resolved there is one for each materialized destination (`length_resolveWeights`). They cannot
exactly where they are incomplete or, if that is asked for, have another sum than a hundred
(`resolveWeights_eq_error_iff`): the sum in 64 bits is the sum of the integers.
-/

namespace Ingress

/-- An even split has a weight for everyone. -/
theorem length_inferWeights {n : Nat} {weights : List Int32} (h : inferWeights n = some weights) :
    weights.length = n := by
  unfold inferWeights at h
  split at h
  · cases h
  · next hn =>
    cases h
    rw [List.length_cons, List.length_replicate]
    omega

/-- There is an even split among some destinations that 32 bits can count. -/
theorem exists_inferWeights {n : Nat} (hpos : n ≠ 0) (hcount : n ≤ 2147483647) :
    ∃ weights, inferWeights n = some weights :=
  ⟨_, if_neg (by omega)⟩

/-- There are as many explicit weights as destinations where all destinations have one. -/
theorem length_explicitWeights_eq_iff {destinations : List Destination} :
    (explicitWeights destinations).length = destinations.length ↔
      destinations.all fun d => d.weight.isSome := by
  unfold explicitWeights
  rw [List.length_filterMap_eq_countP, List.countP_eq_length, List.all_eq_true]

/-- Some destinations have a weight where there is an explicit weight. -/
theorem length_explicitWeights_ne_zero_iff {destinations : List Destination} :
    (explicitWeights destinations).length ≠ 0 ↔ ∃ d ∈ destinations, d.weight ≠ none := by
  unfold explicitWeights
  rw [List.length_filterMap_eq_countP, ← Nat.pos_iff_ne_zero, List.countP_pos_iff]
  simp only [Option.isSome_iff_ne_none]

/-- Fewer weights than destinations are explicit where a destination has none. -/
theorem length_explicitWeights_ne_iff {destinations : List Destination} :
    (explicitWeights destinations).length ≠ destinations.length ↔
      ∃ d ∈ destinations, d.weight = none := by
  rw [Ne, length_explicitWeights_eq_iff, List.all_eq_true]
  simp

/-- The weights of a route: a fault where some destinations have one and others do not, or where
all have one and the sum is asked for and off; else those that are given, or an even split. -/
theorem resolveWeights_eq (route : Route) (requireSum : Bool) :
    resolveWeights route requireSum =
      let weights := explicitWeights route.materialized
      if weights.length ≠ 0 ∧ weights.length ≠ route.materialized.length then
        .error (.partialWeights route.name)
      else if requireSum ∧ weights.length ≠ 0 ∧ weightSum weights ≠ fullWeight.toInt64 then
        .error (.weightSum route.name)
      else if route.materialized ≠ [] ∧ route.materialized.all fun d => d.weight.isSome then
        .ok weights
      else match inferWeights route.materialized.length with
        | some weights => .ok weights
        | none => .error (.noDestinations route.name) := by
  unfold resolveWeights validateWeights
  dsimp only
  split
  · rfl
  · split <;> rfl

/-- Every materialized destination has a weight, once weights are resolved. -/
theorem length_resolveWeights {route : Route} {requireSum : Bool} {weights : List Int32}
    (h : resolveWeights route requireSum = .ok weights) :
    weights.length = route.materialized.length := by
  rw [resolveWeights_eq] at h
  dsimp only at h
  split at h
  · cases h
  · split at h
    · cases h
    · split at h
      · next hall =>
        cases h
        exact length_explicitWeights_eq_iff.mpr hall.2
      · split at h
        · next hinfer =>
          cases h
          exact length_inferWeights hinfer
        · cases h

/-- The sum of weights as integers, which have no bounds. -/
def exactSum (weights : List Int32) : Int :=
  weights.foldr (fun weight sum => weight.toInt + sum) 0

/-- A sum in 64 bits is exact as long as no more weights are left than it has room for. -/
theorem toInt_foldl_weights {weights : List Int32} {sum : Int64} (summed : Nat)
    (hlow : -2147483648 * (summed : Int) ≤ sum.toInt) (hhigh : sum.toInt ≤ 2147483648 * summed)
    (hroom : summed + weights.length ≤ 2147483648) :
    (weights.foldl (fun sum weight => sum + weight.toInt64) sum).toInt =
      sum.toInt + exactSum weights := by
  induction weights generalizing sum summed with
  | nil => exact (Int.add_zero _).symm
  | cons weight rest ih =>
    rw [List.length_cons] at hroom
    have hweight := weight.le_toInt
    have hweight' := weight.toInt_lt
    have hstep : (sum + weight.toInt64).toInt = sum.toInt + weight.toInt := by
      rw [Int64.toInt_add, Int32.toInt_toInt64]
      apply Int.bmod_eq_of_le <;> omega
    rw [List.foldl_cons, ih (summed + 1), hstep]
    · exact Int.add_assoc ..
    · rw [hstep]; push_cast; omega
    · rw [hstep]; push_cast; omega
    · omega

/-- The sum in 64 bits of as many weights as 32 bits can count is exact. -/
theorem toInt_weightSum {weights : List Int32} (h : weights.length ≤ 2147483648) :
    (weightSum weights).toInt = exactSum weights := by
  have hsum : (weightSum weights).toInt = (0 : Int64).toInt + exactSum weights :=
    toInt_foldl_weights 0 (by decide) (by decide) (by omega)
  exact hsum.trans (Int.zero_add _)

/-- Sums in 64 bits are a hundred where they are. -/
theorem weightSum_eq_fullWeight_iff {weights : List Int32} (h : weights.length ≤ 2147483648) :
    weightSum weights = fullWeight.toInt64 ↔ exactSum weights = 100 := by
  rw [← Int64.toInt_inj, toInt_weightSum h]
  rfl

/-- Why the weights of a route with materialized destinations cannot be resolved. -/
inductive Route.Misweighted (requireSum : Bool) (route : Route) : SynthesisError → Prop where
  /-- Some of the destinations have weights and others do not. -/
  | incomplete (hgiven : ∃ d ∈ route.materialized, d.weight ≠ none)
    (hmissing : ∃ d ∈ route.materialized, d.weight = none) :
    Misweighted requireSum route (.partialWeights route.name)
  /-- All of them have weights, and a sum that is asked for is off. -/
  | sum (hsome : route.materialized ≠ []) (hall : ∀ d ∈ route.materialized, d.weight ≠ none)
    (hasked : requireSum = true) (hsum : exactSum (explicitWeights route.materialized) ≠ 100) :
    Misweighted requireSum route (.weightSum route.name)

/-- The weights of some destinations that 32 bits can count cannot be resolved exactly where they
are incomplete, or where their sum is asked for and off. -/
theorem resolveWeights_eq_error_iff {route : Route} {requireSum : Bool} {cause : SynthesisError}
    (hsome : route.materialized ≠ []) (hcount : route.materialized.length ≤ 2147483647) :
    resolveWeights route requireSum = .error cause ↔ route.Misweighted requireSum cause := by
  have hlength : (explicitWeights route.materialized).length ≤ 2147483648 :=
    Nat.le_trans (List.length_filterMap_le _ _) (by omega)
  obtain ⟨weights, hweights⟩ := exists_inferWeights (mt List.length_eq_zero_iff.mp hsome) hcount
  rw [resolveWeights_eq, hweights]
  simp only [length_explicitWeights_ne_zero_iff, length_explicitWeights_ne_iff, Ne,
    weightSum_eq_fullWeight_iff hlength]
  split
  · next hincomplete =>
    constructor
    · rintro ⟨⟩
      exact .incomplete hincomplete.1 hincomplete.2
    · intro hfails
      cases hfails with
      | incomplete => rfl
      | sum _ hall =>
        obtain ⟨d, hd, hnone⟩ := hincomplete.2
        exact absurd hnone (hall d hd)
  · next hcomplete =>
    split
    · next hsum =>
      constructor
      · rintro ⟨⟩
        refine .sum hsome (fun d hd hnone => hcomplete ⟨hsum.2.1, d, hd, hnone⟩) hsum.1 hsum.2.2
      · intro hfails
        cases hfails with
        | incomplete hgiven hmissing => exact absurd ⟨hgiven, hmissing⟩ hcomplete
        | sum => rfl
    · next hright =>
      refine iff_of_false (by split <;> exact nofun) fun hfails => ?_
      cases hfails with
      | incomplete hgiven hmissing => exact hcomplete ⟨hgiven, hmissing⟩
      | sum _ hall hasked hsum =>
        obtain ⟨d, hd⟩ := List.exists_mem_of_ne_nil _ hsome
        exact hright ⟨hasked, ⟨d, hd, hall d hd⟩, hsum⟩

/-- Weights are wrong only where a destination is materialized. -/
theorem Route.Misweighted.materialized_ne {requireSum : Bool} {route : Route}
    {cause : SynthesisError} (h : route.Misweighted requireSum cause) :
    route.materialized ≠ [] := by
  cases h with
  | incomplete hgiven =>
    obtain ⟨d, hd, _⟩ := hgiven
    exact List.ne_nil_of_mem hd
  | sum hsome => exact hsome

/-- Without a look at sums, weights of some destinations that 32 bits can count fail only where
they are incomplete. -/
theorem eq_partialWeights_of_resolveWeights {route : Route} {cause : SynthesisError}
    (h : resolveWeights route false = .error cause) (hsome : route.materialized ≠ [])
    (hcount : route.materialized.length ≤ 2147483647) :
    cause = .partialWeights route.name := by
  cases (resolveWeights_eq_error_iff hsome hcount).mp h with
  | incomplete => rfl
  | sum _ _ hasked => exact absurd hasked Bool.false_ne_true

end Ingress
