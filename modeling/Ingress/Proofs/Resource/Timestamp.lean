import Ingress.Proofs.Json.Scalar
import Ingress.Proofs.Resource.Calendar
import Ingress.Proofs.Synthesis.Outcome

/-!
# Timestamps that are read and written

A timestamp that is a point in time (`Timestamp.Valid`) is read back from its text
(`Timestamp.ofText_text`), and whatever is read is one (`Timestamp.valid_of_ofText`), also where an
offset has been taken off.
-/

namespace Ingress.Timestamp

/-- A point in time. -/
structure Valid (t : Timestamp) : Prop where
  /-- The year is one of those that there are. -/
  isYear : isYear t.year = true
  /-- The month is a month. -/
  month : 1 ≤ t.month ∧ t.month ≤ 12
  /-- The day is a day of the month. -/
  day : 1 ≤ t.day ∧ t.day ≤ daysInMonth t.year t.month
  /-- The hour is an hour. -/
  hour_le : t.hour ≤ 23
  /-- The minute is a minute. -/
  minute_le : t.minute ≤ 59
  /-- The second is a second, perhaps a leap second. -/
  second_le : t.second ≤ 60

/-! ### Numbers in decimal digits -/

theorem toList_padded (width n : Nat) : (padded width n).toList =
    List.replicate (width - (Nat.toDigits 10 n).length) '0' ++ Nat.toDigits 10 n := by
  unfold padded
  dsimp only
  rw [String.toList_append, String.toList_ofList, Nat.toString_eq_repr, Nat.toList_repr,
    ← String.length_toList, Nat.toList_repr]

theorem isDigit_of_mem_padded {width n : Nat} :
    ∀ c ∈ (padded width n).toList, c.isDigit = true := by
  intro c hc
  rw [toList_padded, List.mem_append] at hc
  rcases hc with hzero | hdigit
  · rw [List.eq_of_mem_replicate hzero]
    decide
  · exact Json.isDigit_of_mem_toDigits c hdigit

theorem padded_ne_nil {width n : Nat} : (padded width n).toList ≠ [] := by
  rw [toList_padded]
  intro h
  have hlength := congrArg List.length h
  simp at hlength

/-- A number that is not too large fills the width exactly. -/
theorem length_padded {width n : Nat} (hwidth : 0 < width) (h : n < Nat.pow 10 width) :
    (padded width n).toList.length = width := by
  have hle := (Nat.length_toDigits_le_iff (b := 10) (by decide) hwidth).mpr h
  rw [toList_padded, List.length_append, List.length_replicate]
  omega

theorem ofDigits_padded (width n : Nat) : Json.ofDigits (padded width n).toList = n := by
  have hzeros : ∀ count, Json.ofDigits (List.replicate count '0') = 0 := by
    intro count
    induction count with
    | zero => rfl
    | succ count ih =>
      rw [List.replicate_succ]
      exact ih
  have hdigits := Json.ofDigits_toDigits n
  unfold Json.ofDigits at hzeros hdigits ⊢
  rw [toList_padded, List.foldl_append, hzeros, hdigits]

/-- Digits are taken for the number that they stand for, if no digit follows or there may not be
more of them. -/
theorem takeNumber_append {width : Nat} {digits rest : List Char}
    (hdigits : ∀ c ∈ digits, c.isDigit = true) (hne : digits ≠ [])
    (hlength : digits.length ≤ width)
    (hstop : digits.length = width ∨ ∀ c ∈ rest.head?, c.isDigit = false) :
    takeNumber width (digits ++ rest) = .ok (Json.ofDigits digits, rest) := by
  have htaken : ((digits ++ rest).take width).takeWhile Char.isDigit = digits := by
    rw [List.take_append, List.take_of_length_le hlength, List.takeWhile_append_of_pos hdigits]
    rcases hstop with hwidth | hrest
    · rw [hwidth, Nat.sub_self, List.take_zero, List.takeWhile_nil, List.append_nil]
    · have hnone : (rest.take (width - digits.length)).takeWhile Char.isDigit = [] := by
        cases rest with
        | nil => rw [List.take_nil, List.takeWhile_nil]
        | cons c rest =>
          cases width - digits.length with
          | zero => rfl
          | succ n => simp [hrest c rfl]
      rw [hnone, List.append_nil]
  obtain ⟨first, others, rfl⟩ := List.exists_cons_of_ne_nil hne
  unfold takeNumber
  rw [htaken]
  simp [Json.ofDigits, Json.digitValue]

/-! ### Parts of a text -/

/-- No digit is white. -/
theorem isWhite_of_isDigit {c : Char} (h : c.isDigit = true) : Text.isWhite c = false := by
  simp only [Char.isDigit, Bool.and_eq_true, decide_eq_true_eq] at h
  have hleast : 48 ≤ c.toNat := h.1
  have hgreatest : c.toNat ≤ 57 := h.2
  unfold Text.isWhite
  simp only [Bool.or_eq_false_iff, Bool.and_eq_false_iff, decide_eq_false_iff_not]
  omega

theorem trimStart_cons {c : Char} (h : Text.isWhite c = false) (rest : List Char) :
    trimStart (c :: rest) = c :: rest := by
  unfold trimStart
  rw [List.dropWhile_cons, h]
  rfl

theorem trimStart_append {digits : List Char} (hdigits : ∀ c ∈ digits, c.isDigit = true)
    (hne : digits ≠ []) (rest : List Char) : trimStart (digits ++ rest) = digits ++ rest := by
  obtain ⟨first, others, rfl⟩ := List.exists_cons_of_ne_nil hne
  exact trimStart_cons (isWhite_of_isDigit (hdigits first List.mem_cons_self)) _

theorem takeMark_cons {mark : Char} (h : Text.isWhite mark = false) (rest : List Char) :
    takeMark mark (mark :: rest) = .ok rest := by
  unfold takeMark
  rw [trimStart_cons h]
  exact if_pos rfl

theorem takePart_padded {least greatest n : Nat} (hleast : least ≤ n) (hgreatest : n ≤ greatest)
    (hlt : n < 100) (rest : List Char) :
    takePart 2 least greatest ((padded 2 n).toList ++ rest) = .ok (n, rest) := by
  have hlength : (padded 2 n).toList.length = 2 := length_padded (by decide) hlt
  unfold takePart
  rw [trimStart_append isDigit_of_mem_padded padded_ne_nil,
    takeNumber_append isDigit_of_mem_padded padded_ne_nil (Nat.le_of_eq hlength) (.inl hlength),
    ofDigits_padded]
  exact if_pos ⟨hleast, hgreatest⟩

/-- A part that was taken lies in its range. -/
theorem takePart_range {width least greatest n : Nat} {text rest : List Char}
    (h : takePart width least greatest text = .ok (n, rest)) : least ≤ n ∧ n ≤ greatest := by
  unfold takePart at h
  obtain ⟨⟨number, left⟩, _, h⟩ := bind_eq_ok_iff.mp h
  dsimp only at h
  split at h
  · next hrange =>
    cases h
    exact hrange
  · cases h

/-! ### Years -/

/-- A number is a year if 32 bits hold it. -/
def fittingYear (taken : Int × List Char) : Except Error (Int × List Char) :=
  if taken.1 < -2147483648 ∨ 2147483647 < taken.1 then .error .outOfRange else .ok taken

theorem takeYear_minus (rest : List Char) : takeYear ('-' :: rest) =
    (takeNumber rest.length rest).map (fun (n, rest) => (-(n : Int), rest)) >>= fittingYear := by
  unfold takeYear
  rw [trimStart_cons (by decide)]
  rfl

theorem takeYear_plus (rest : List Char) : takeYear ('+' :: rest) =
    (takeNumber rest.length rest).map (fun (n, rest) => ((n : Int), rest)) >>= fittingYear := by
  unfold takeYear
  rw [trimStart_cons (by decide)]
  rfl

theorem takeYear_append {digits : List Char} (hdigits : ∀ c ∈ digits, c.isDigit = true)
    (hne : digits ≠ []) (rest : List Char) : takeYear (digits ++ rest) =
      (takeNumber 4 (digits ++ rest)).map (fun (n, rest) => ((n : Int), rest)) >>=
        fittingYear := by
  unfold takeYear
  rw [trimStart_append hdigits hne]
  obtain ⟨first, others, rfl⟩ := List.exists_cons_of_ne_nil hne
  have hfirst := hdigits first List.mem_cons_self
  split
  · next heq =>
    cases heq
    cases hfirst
  · next heq =>
    cases heq
    cases hfirst
  · rfl

/-- After a sign all digits are taken. -/
theorem takeNumber_signed (n : Nat) (rest : List Char) :
    takeNumber ((padded 4 n).toList ++ '-' :: rest).length ((padded 4 n).toList ++ '-' :: rest) =
      .ok (n, '-' :: rest) := by
  have hlength : (padded 4 n).toList.length ≤ ((padded 4 n).toList ++ '-' :: rest).length := by
    rw [List.length_append]
    exact Nat.le_add_right _ _
  have hstop : ∀ c ∈ ('-' :: rest).head?, c.isDigit = false := by
    rintro c ⟨⟩
    rfl
  rw [takeNumber_append isDigit_of_mem_padded padded_ne_nil hlength (.inr hstop),
    ofDigits_padded]

theorem takeYear_yearText {year : Int} (h : isYear year = true) (rest : List Char) :
    takeYear ((yearText year).toList ++ '-' :: rest) = .ok (year, '-' :: rest) := by
  have hminus : "-".toList = ['-'] := by decide
  have hplus : "+".toList = ['+'] := by decide
  have hrange : -262143 ≤ year ∧ year ≤ 262142 := by simpa [isYear] using h
  have hfitting {n : Int} (heq : n = year) :
      fittingYear (n, '-' :: rest) = .ok (year, '-' :: rest) := by
    unfold fittingYear
    rw [heq]
    exact if_neg (by omega)
  unfold yearText
  by_cases hplain : 0 ≤ year ∧ year ≤ 9999
  · have hsmall : year.toNat < 10000 := by omega
    have hlength : (padded 4 year.toNat).toList.length = 4 := length_padded (by decide) hsmall
    rw [if_pos hplain, takeYear_append isDigit_of_mem_padded padded_ne_nil,
      takeNumber_append isDigit_of_mem_padded padded_ne_nil (Nat.le_of_eq hlength) (.inl hlength),
      ofDigits_padded]
    exact hfitting (Int.toNat_of_nonneg hplain.1)
  · rw [if_neg hplain, String.toList_append, List.append_assoc]
    by_cases hnegative : year < 0
    · rw [if_pos hnegative, hminus, List.singleton_append, takeYear_minus, takeNumber_signed]
      exact hfitting (by omega)
    · rw [if_neg hnegative, hplus, List.singleton_append, takeYear_plus, takeNumber_signed]
      exact hfitting (by omega)

/-! ### Whole texts -/

theorem toList_text (t : Timestamp) : t.text.toList =
    (yearText t.year).toList ++ '-' :: ((padded 2 t.month).toList ++ '-' ::
      ((padded 2 t.day).toList ++ 'T' :: ((padded 2 t.hour).toList ++ ':' ::
        ((padded 2 t.minute).toList ++ ':' :: ((padded 2 t.second).toList ++ ['Z']))))) := by
  simp [text, String.toList_append]

/-- A point in time is read back from its text. -/
theorem ofText_text {t : Timestamp} (h : t.Valid) : ofText t.text = .ok t := by
  have hday := Nat.le_trans h.day.2 (daysInMonth_le _ _)
  have hmonth := h.month.2
  have hhour := h.hour_le
  have hminute := h.minute_le
  have hsecond := h.second_le
  have hcomplete : ¬ trimStart [] ≠ [] := fun hne => hne rfl
  have hdayFits : ¬ daysInMonth t.year t.month < t.day := Nat.not_lt.mpr h.day.2
  have hfits : ¬ (!isYear t.year || decide (1440 ≤ Int.natAbs 0)) = true := by
    rw [h.isYear]
    decide
  unfold ofText
  rw [toList_text]
  refine bind_eq_ok_iff.mpr ⟨_, takeYear_yearText h.isYear _, ?_⟩
  refine bind_eq_ok_iff.mpr ⟨_, takeMark_cons (by decide) _, ?_⟩
  refine bind_eq_ok_iff.mpr ⟨_, takePart_padded h.month.1 hmonth (by omega) _, ?_⟩
  refine bind_eq_ok_iff.mpr ⟨_, takeMark_cons (by decide) _, ?_⟩
  refine bind_eq_ok_iff.mpr ⟨_, takePart_padded h.day.1 hday (by omega) _, ?_⟩
  -- The separator is the `T` that stands there.
  refine bind_eq_ok_iff.mpr ⟨_, rfl, ?_⟩
  refine bind_eq_ok_iff.mpr ⟨_, takePart_padded (Nat.zero_le _) hhour (by omega) _, ?_⟩
  refine bind_eq_ok_iff.mpr ⟨_, takeMark_cons (by decide) _, ?_⟩
  refine bind_eq_ok_iff.mpr ⟨_, takePart_padded (Nat.zero_le _) hminute (by omega) _, ?_⟩
  refine bind_eq_ok_iff.mpr ⟨_, takeMark_cons (by decide) _, ?_⟩
  refine bind_eq_ok_iff.mpr ⟨_, takePart_padded (Nat.zero_le _) hsecond (by omega) _, ?_⟩
  -- There is no fraction, and the `Z` is the offset zero.
  refine bind_eq_ok_iff.mpr ⟨_, rfl, ?_⟩
  refine bind_eq_ok_iff.mpr ⟨_, rfl, ?_⟩
  dsimp only
  rw [if_neg hcomplete, if_neg hdayFits, if_neg hfits]
  exact if_pos h.isYear

/-- An offset that is taken off a point in time leads to a point in time, if it does not lead out
of the years that there are. -/
theorem valid_minusMinutes {t : Timestamp} (h : t.Valid) (minutes : Int)
    (hyear : isYear (minusMinutes t minutes).year = true) : (minusMinutes t minutes).Valid := by
  unfold minusMinutes at hyear ⊢
  by_cases hzero : minutes = 0
  · rw [if_pos hzero]
    exact h
  · rw [if_neg hzero] at hyear ⊢
    dsimp only at hyear ⊢
    generalize dayNumber t.year t.month t.day * 1440 + t.hour * 60 + t.minute - minutes = total
      at hyear ⊢
    obtain ⟨hmonth, hday⟩ := valid_dateOfDayNumber (total.fdiv 1440)
    have hofDay : (total.fmod 1440).toNat < 1440 := by
      rw [Int.fmod_eq_emod_of_nonneg _ (by decide)]
      omega
    exact {
      isYear := hyear
      month := hmonth
      day := hday
      hour_le := Nat.le_of_lt_succ (Nat.div_lt_of_lt_mul hofDay)
      minute_le := Nat.le_of_lt_succ (Nat.mod_lt _ (by decide))
      second_le := h.second_le }

/-- What is read is a point in time. -/
theorem valid_of_ofText {text : String} {t : Timestamp} (h : ofText text = .ok t) : t.Valid := by
  unfold ofText at h
  obtain ⟨⟨year, _⟩, _, h⟩ := bind_eq_ok_iff.mp h
  obtain ⟨_, _, h⟩ := bind_eq_ok_iff.mp h
  obtain ⟨⟨month, _⟩, hmonth, h⟩ := bind_eq_ok_iff.mp h
  obtain ⟨_, _, h⟩ := bind_eq_ok_iff.mp h
  obtain ⟨⟨day, _⟩, hday, h⟩ := bind_eq_ok_iff.mp h
  obtain ⟨_, _, h⟩ := bind_eq_ok_iff.mp h
  obtain ⟨⟨hour, _⟩, hhour, h⟩ := bind_eq_ok_iff.mp h
  obtain ⟨_, _, h⟩ := bind_eq_ok_iff.mp h
  obtain ⟨⟨minute, _⟩, hminute, h⟩ := bind_eq_ok_iff.mp h
  obtain ⟨_, _, h⟩ := bind_eq_ok_iff.mp h
  obtain ⟨⟨second, _⟩, hsecond, h⟩ := bind_eq_ok_iff.mp h
  obtain ⟨_, _, h⟩ := bind_eq_ok_iff.mp h
  obtain ⟨⟨offset, _⟩, _, h⟩ := bind_eq_ok_iff.mp h
  dsimp only at h
  split at h
  · cases h
  · split at h
    · cases h
    · next hdayFits =>
      split at h
      · cases h
      · next hfits =>
        split at h
        · next hisYear =>
          cases h
          refine valid_minusMinutes ?_ offset hisYear
          rw [Bool.or_eq_true, not_or, Bool.not_eq_true', Bool.not_eq_false] at hfits
          exact {
            isYear := hfits.1
            month := takePart_range hmonth
            day := ⟨(takePart_range hday).1, Nat.not_lt.mp hdayFits⟩
            hour_le := (takePart_range hhour).2
            minute_le := (takePart_range hminute).2
            second_le := (takePart_range hsecond).2 }
        · cases h

end Ingress.Timestamp
