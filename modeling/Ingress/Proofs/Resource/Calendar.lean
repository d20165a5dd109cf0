import Ingress.Resource.Timestamp

/-!
# Dates from day numbers

The days of an era of four hundred years are counted from the first of March, so that every leap
day is the last day of its year. `dateOfDayNumber` finds the year by a division from which the leap
days have been taken out. That the division is right is checked year by year, at the first and the
last day of each; in between it can only grow. So every number is that of a date that there is
(`valid_dateOfDayNumber`).
-/

namespace Ingress.Timestamp

/-- The first day of a year, counted from the first day of its era. -/
def firstDay (year : Nat) : Nat :=
  365 * year + year / 4 - year / 100 + year / 400

/-- How many days that are no leap days there are before a day of an era. -/
def commonDays (day : Nat) : Nat :=
  day - day / 1460 + day / 36524 - day / 146096

theorem commonDays_le_commonDays {a b : Nat} (h : a ≤ b) : commonDays a ≤ commonDays b := by
  unfold commonDays
  omega

/-- The first and the last day of every year are found to be in that year. -/
theorem commonDays_firstDay : ∀ year < 400,
    365 * year ≤ commonDays (firstDay year) ∧
      commonDays (firstDay (year + 1) - 1) < 365 * (year + 1) := by
  decide +kernel

/-- A year counted from March is longer by the leap day of the calendar year that it ends in. -/
theorem firstDay_succ : ∀ year < 400, firstDay (year + 1) =
    firstDay year + if isLeapYear ((year : Int) + 1) then 366 else 365 := by
  decide +kernel

/-- The year that a day is found to be in has begun and has not ended. -/
theorem firstDay_le_and_lt {day : Nat} (h : day < 146097) :
    commonDays day / 365 < 400 ∧ firstDay (commonDays day / 365) ≤ day ∧
      day < firstDay (commonDays day / 365 + 1) := by
  have hera : commonDays day ≤ 145999 := commonDays_le_commonDays (Nat.le_of_lt_succ h)
  generalize hyear : commonDays day / 365 = year
  have hlt : year < 400 := by omega
  refine ⟨hlt, ?_, ?_⟩
  · refine Nat.le_of_not_lt fun hbefore => ?_
    obtain ⟨previous, rfl⟩ : ∃ previous, year = previous + 1 := by
      cases year with
      | zero => exact absurd hbefore (Nat.not_lt_zero day)
      | succ previous => exact ⟨previous, rfl⟩
    have hlast := (commonDays_firstDay previous (by omega)).2
    have hle : commonDays day ≤ commonDays (firstDay (previous + 1) - 1) :=
      commonDays_le_commonDays (by omega)
    omega
  · refine Nat.lt_of_not_le fun hafter => ?_
    by_cases hnext : year + 1 < 400
    · have hfirst := (commonDays_firstDay (year + 1) hnext).1
      have hle := commonDays_le_commonDays hafter
      omega
    · obtain rfl : year = 399 := by omega
      have hend : firstDay (399 + 1) = 146097 := by decide
      omega

/-- Leap years are the same ones in every era. -/
theorem isLeapYear_add_era (era year : Int) :
    isLeapYear (era * 400 + year) = isLeapYear year := by
  have hfour : (era * 400 + year) % 4 = year % 4 := by omega
  have hcentury : (era * 400 + year) % 100 = year % 100 := by omega
  have hera : (era * 400 + year) % 400 = year % 400 := by omega
  unfold isLeapYear
  rw [hfour, hcentury, hera]

/-- No month has more than 31 days. -/
theorem daysInMonth_le (year : Int) (month : Nat) : daysInMonth year month ≤ 31 := by
  unfold daysInMonth
  split
  · split <;> decide
  · split <;> decide

/-- No month has less days than in the year one, which is no leap year. -/
theorem daysInMonth_one_le (year : Int) (month : Nat) :
    daysInMonth 1 month ≤ daysInMonth year month := by
  unfold daysInMonth
  by_cases hfebruary : month = 2
  · rw [if_pos hfebruary, if_pos hfebruary]
    cases isLeapYear year <;> decide
  · refine Nat.le_of_eq ?_
    rw [if_neg hfebruary, if_neg hfebruary]

/-- Every day of a year counted from March is a day of a month, or the leap day at its end. -/
theorem valid_monthOfDay : ∀ dayOfYear < 366,
    let monthFromMarch := (5 * dayOfYear + 2) / 153
    let day := dayOfYear - (153 * monthFromMarch + 2) / 5 + 1
    let month := if monthFromMarch < 10 then monthFromMarch + 3 else monthFromMarch - 9
    (1 ≤ month ∧ month ≤ 12) ∧ 1 ≤ day ∧
      (day ≤ daysInMonth 1 month ∨ (dayOfYear = 365 ∧ month = 2 ∧ day = 29)) := by
  decide +kernel

/-- Every number of days is that of a date that there is. -/
theorem valid_dateOfDayNumber (n : Int) :
    (1 ≤ (dateOfDayNumber n).2.1 ∧ (dateOfDayNumber n).2.1 ≤ 12) ∧
      1 ≤ (dateOfDayNumber n).2.2 ∧
      (dateOfDayNumber n).2.2 ≤ daysInMonth (dateOfDayNumber n).1 (dateOfDayNumber n).2.1 := by
  unfold dateOfDayNumber
  dsimp only
  have hfloor : n.fdiv 146097 = n / 146097 := Int.fdiv_eq_ediv_of_nonneg _ (by decide)
  have hday : (n - n.fdiv 146097 * 146097).toNat < 146097 := by
    rw [hfloor]
    omega
  generalize n.fdiv 146097 = era at hday ⊢
  generalize (n - era * 146097).toNat = dayOfEra at hday ⊢
  obtain ⟨hlt, hfirst, hnext⟩ := firstDay_le_and_lt hday
  unfold commonDays at hlt hfirst hnext
  generalize (dayOfEra - dayOfEra / 1460 + dayOfEra / 36524 - dayOfEra / 146096) / 365 = year at *
  have hlength := firstDay_succ year hlt
  have hstart : 365 * year + year / 4 - year / 100 = firstDay year := by
    unfold firstDay
    omega
  rw [hstart]
  have hdayOfYear : dayOfEra - firstDay year < 366 := by
    split at hlength <;> omega
  obtain ⟨hmonth, hpos, hle⟩ := valid_monthOfDay _ hdayOfYear
  refine ⟨hmonth, hpos, ?_⟩
  rcases hle with hle | ⟨hlast, hfebruary, hleapDay⟩
  · exact Nat.le_trans hle (daysInMonth_one_le _ _)
  · have hleap : isLeapYear (era * 400 + year + 1) = true := by
      rw [Int.add_assoc, isLeapYear_add_era]
      refine Decidable.byContradiction fun hcommon => ?_
      rw [if_neg hcommon] at hlength
      omega
    rw [hfebruary, hleapDay]
    change 29 ≤ daysInMonth (era * 400 + year + 1) 2
    unfold daysInMonth
    rw [hleap]
    decide

end Ingress.Timestamp
