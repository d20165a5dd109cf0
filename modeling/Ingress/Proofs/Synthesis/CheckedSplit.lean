import Ingress.Proofs.Synthesis.TrafficSplit

/-!
# The even split in checked arithmetic

Operations on words of 32 bits wrap around where the number that they should come to does not fit,
and a quotient by zero is zero. `Checked` has the same operations with a fault in place of both, and
`checkedSplit` is the even split computed by them. It never comes to a fault and always to what the
words come to (`checkedSplit_eq`). What it comes to can be said without computing in words at all:
`EvenlySplit` has only one list of weights for a number of destinations, and that is the even split
(`inferWeights_closed_form`).
-/

namespace Ingress

/-- Why an operation on words has no result. -/
inductive WordFault where
  /-- The number is too small or too large for a word. -/
  | overflow
  /-- The divisor is zero. -/
  | divisionByZero
  deriving DecidableEq

namespace Checked

/-- The word for a number, if 32 bits can hold it. -/
def word (value : Int) : Except WordFault Int32 :=
  if -2147483648 ≤ value ∧ value ≤ 2147483647 then .ok (Int32.ofInt value) else .error .overflow

/-- The sum of two words. -/
def add (a b : Int32) : Except WordFault Int32 := word (a.toInt + b.toInt)

/-- The difference of two words. -/
def sub (a b : Int32) : Except WordFault Int32 := word (a.toInt - b.toInt)

/-- The product of two words. -/
def mul (a b : Int32) : Except WordFault Int32 := word (a.toInt * b.toInt)

/-- The quotient of two words, rounded towards zero. -/
def div (a b : Int32) : Except WordFault Int32 :=
  if b = 0 then .error .divisionByZero else word (a.toInt.tdiv b.toInt)

/-- Where a word stands for the number, there is no fault. -/
theorem word_eq_ok {value : Int} {w : Int32} (h : w.toInt = value) : word value = .ok w := by
  subst h
  unfold word
  rw [if_pos ⟨w.le_toInt, w.toInt_le⟩, Int32.ofInt_toInt]

variable {a b : Int32}

/-- A sum that the words come to is no fault. -/
theorem add_eq_ok (h : (a + b).toInt = a.toInt + b.toInt) : add a b = .ok (a + b) :=
  word_eq_ok h

/-- A difference that the words come to is no fault. -/
theorem sub_eq_ok (h : (a - b).toInt = a.toInt - b.toInt) : sub a b = .ok (a - b) :=
  word_eq_ok h

/-- A product that the words come to is no fault. -/
theorem mul_eq_ok (h : (a * b).toInt = a.toInt * b.toInt) : mul a b = .ok (a * b) :=
  word_eq_ok h

/-- A quotient that the words come to is no fault, unless the divisor is zero. -/
theorem div_eq_ok (hne : b ≠ 0) (h : (a / b).toInt = a.toInt.tdiv b.toInt) :
    div a b = .ok (a / b) := by
  unfold div
  rw [if_neg hne]
  exact word_eq_ok h

end Checked

/-- An even split among a number of destinations, computed by checked operations. -/
def checkedSplit (n : Nat) : Except WordFault (Option (List Int32)) :=
  if n = 0 ∨ 2147483647 < n then .ok none
  else do
    let count ← Checked.word n
    let weight ← Checked.div fullWeight count
    let taken ← Checked.mul count weight
    let left ← Checked.sub fullWeight taken
    let first ← Checked.add weight left
    return some (first :: List.replicate (n - 1) weight)

/-- An even split neither divides by zero nor leaves 32 bits on the way. -/
theorem checkedSplit_eq (n : Nat) : checkedSplit n = .ok (inferWeights n) := by
  unfold checkedSplit inferWeights
  split
  · rfl
  · next hn =>
    have hexact := exactSplit (n := n) (by omega) (by omega)
    have hfull : fullWeight.toInt = 100 := rfl
    have hcount : Checked.word n = .ok (Int32.ofNat n) := Checked.word_eq_ok hexact.count
    have hne : Int32.ofNat n ≠ 0 := fun hzero => by
      have hword : (Int32.ofNat n).toInt = 0 := congrArg Int32.toInt hzero
      have := hexact.count
      omega
    have hquotient := Checked.div_eq_ok (a := fullWeight) hne (by
      rw [hexact.quotient, hfull, hexact.count, Int.tdiv_eq_ediv_of_nonneg (by decide)])
    have hproduct := Checked.mul_eq_ok (a := Int32.ofNat n) (b := fullWeight / Int32.ofNat n) (by
      rw [hexact.product, hexact.count, hexact.quotient])
    have hdifference := Checked.sub_eq_ok (hexact.difference.trans (by rw [hfull, hexact.product]))
    have hsum := Checked.add_eq_ok
      (hexact.sum.trans (by rw [hexact.quotient, hexact.difference]))
    rw [hcount]
    simp only [bind, Except.bind, hquotient, hproduct, hdifference, hsum]
    rfl

/-- Weights that split a hundred evenly among a number of destinations, the remainder on the
first. -/
structure EvenlySplit (n : Nat) (weights : List Int32) : Prop where
  /-- There is one for each. -/
  length_eq : weights.length = n
  /-- The first is the quotient and what the division leaves over. -/
  first : (weights[0]?).map Int32.toInt = some (100 / n + 100 % n : Int)
  /-- All others are the quotient. -/
  others : ∀ i, 0 < i → i < n → (weights[i]?).map Int32.toInt = some (100 / n : Int)
  /-- None is negative, and none is more than a hundred. -/
  bounds : ∀ weight ∈ weights, 0 ≤ weight.toInt ∧ weight.toInt ≤ 100
  /-- They sum to a hundred. -/
  sum : (weights.map Int32.toInt).sum = 100

/-- Words that stand for the even shares of some destinations split a hundred evenly. -/
theorem evenlySplit_of_map {n : Nat} {weights : List Int32} (hpos : n ≠ 0)
    (h : weights.map Int32.toInt = (List.range n).map (evenShare n)) : EvenlySplit n weights := by
  have hshare (i : Nat) (hi : i < n) : (weights[i]?).map Int32.toInt = some (evenShare n i) := by
    rw [← List.getElem?_map, h, List.getElem?_map, List.getElem?_range hi]
    rfl
  have hsum : (weights.map Int32.toInt).sum = 100 := by rw [h, sum_evenShare hpos]
  have hnonneg : ∀ share ∈ weights.map Int32.toInt, 0 ≤ share := by
    rw [h, List.forall_mem_map]
    exact fun i _ => evenShare_nonneg n i
  refine ⟨?_, ?_, fun i hi hlt => ?_, fun weight hweight => ?_, hsum⟩
  · simpa only [List.length_map, List.length_range] using congrArg List.length h
  · exact hshare 0 (Nat.pos_of_ne_zero hpos)
  · rw [hshare i hlt, evenShare, if_neg (Nat.ne_of_gt hi)]
  · -- As none is negative, no part exceeds the whole.
    have hmem := List.mem_map_of_mem (f := Int32.toInt) hweight
    exact ⟨hnonneg _ hmem, hsum ▸ List.single_le_sum hnonneg _ hmem⟩

/-- Words that split a hundred evenly stand for the even shares. -/
theorem EvenlySplit.map_toInt {n : Nat} {weights : List Int32} (h : EvenlySplit n weights) :
    weights.map Int32.toInt = (List.range n).map (evenShare n) := by
  refine List.ext_getElem? fun i => ?_
  rw [List.getElem?_map, List.getElem?_map]
  by_cases hi : i < n
  · rw [List.getElem?_range hi]
    cases i with
    | zero => exact h.first
    | succ i => exact h.others (i + 1) (Nat.succ_pos i) hi
  · rw [List.getElem?_eq_none (by rw [h.length_eq]; omega),
      List.getElem?_eq_none (by rw [List.length_range]; omega)]
    rfl

/-- There is but one way to split a hundred evenly. -/
theorem EvenlySplit.unique {n : Nat} {first second : List Int32} (h : EvenlySplit n first)
    (h' : EvenlySplit n second) : first = second :=
  List.map_injective_iff.mpr (fun _ _ => Int32.toInt_inj.mp) (h.map_toInt.trans h'.map_toInt.symm)

/-- There is no even split among no destinations and among more than 32 bits can count. Among any
other number of them it is the one list of weights that has one for each of them, the first the
quotient of a hundred by their number and what the division leaves over and all others the quotient;
all of these are percentages, and they sum to a hundred. Whatever the number, nothing on the way
overflows or is divided by zero. -/
theorem inferWeights_closed_form (n : Nat) :
    (inferWeights n = none ↔ n = 0 ∨ 2147483647 < n) ∧
    (∀ weights, inferWeights n = some weights ↔
      n ≠ 0 ∧ n ≤ 2147483647 ∧ EvenlySplit n weights) ∧
    checkedSplit n = .ok (inferWeights n) := by
  have hnone : inferWeights n = none ↔ n = 0 ∨ 2147483647 < n := by
    unfold inferWeights
    split <;> simp_all
  have hsplit (weights : List Int32) (h : inferWeights n = some weights) :
      n ≠ 0 ∧ n ≤ 2147483647 ∧ EvenlySplit n weights := by
    have hn := mt hnone.mpr (Option.ne_none_iff_exists'.mpr ⟨weights, h⟩)
    rw [not_or, Nat.not_lt] at hn
    exact ⟨hn.1, hn.2, evenlySplit_of_map hn.1 (map_toInt_of_inferWeights h)⟩
  refine ⟨hnone, fun weights => ⟨hsplit weights, ?_⟩, checkedSplit_eq n⟩
  rintro ⟨hpos, hcount, hevenly⟩
  obtain ⟨inferred, hinferred⟩ := exists_inferWeights hpos hcount
  rw [hinferred, (hsplit inferred hinferred).2.2.unique hevenly]

/-- A hundred among seven leaves over two. -/
example : inferWeights 7 = some [16, 14, 14, 14, 14, 14, 14] := by decide

end Ingress
