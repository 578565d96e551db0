import PeerFirewall.Time.Calendar

/-!
# Days and dates correspond

`Date.toDays_ofDays`: the date of a day is the date of no other day, so the calendar has every date
that it gives to a day (`Date.valid_ofDays`). The year of a day of an era never falls from one day
to the next, so it is enough to know it on the first and the last day of each year.
-/
namespace PeerFirewall.Time.Date

/-- The year that a day of an era lies in. -/
def yearOfEra (ofEra : Int) : Int :=
  (ofEra - ofEra / 1460 + ofEra / 36524 - ofEra / 146096) / 365

/-- Whole parts grow no faster than what they are parts of. -/
theorem ediv_sub_ediv_le {a b divisor : Int} (positive : 0 < divisor) (ordered : a ≤ b) :
    b / divisor - a / divisor ≤ b - a := by
  have grows : b / divisor ≤ (a + (b - a) * divisor) / divisor := by
    apply Int.ediv_le_ediv positive
    have stretched : (b - a) * 1 ≤ (b - a) * divisor :=
      Int.mul_le_mul_of_nonneg_left positive (by omega)
    omega
  rw [Int.add_mul_ediv_right _ _ (by omega)] at grows
  omega

/-- A later day lies in no earlier year. -/
theorem yearOfEra_mono {a b : Int} (ordered : a ≤ b) : yearOfEra a ≤ yearOfEra b := by
  have fours := ediv_sub_ediv_le (show (0 : Int) < 1460 by decide) ordered
  have hundreds : a / 36524 ≤ b / 36524 := Int.ediv_le_ediv (by decide) ordered
  have eras := ediv_sub_ediv_le (show (0 : Int) < 4 by decide) hundreds
  rw [Int.ediv_ediv_of_nonneg (by decide), Int.ediv_ediv_of_nonneg (by decide)] at eras
  apply Int.ediv_le_ediv (by decide)
  omega

/-- The days of an era lie in 400 years. -/
theorem yearOfEra_bounds {ofEra : Int} (atLeast : 0 ≤ ofEra) (below : ofEra < daysOfEra) :
    0 ≤ yearOfEra ofEra ∧ yearOfEra ofEra < 400 := by
  have first : yearOfEra 0 ≤ yearOfEra ofEra := yearOfEra_mono atLeast
  have last : yearOfEra ofEra ≤ yearOfEra 146096 := yearOfEra_mono (Int.le_of_lt_add_one below)
  have ends : yearOfEra 0 = 0 ∧ yearOfEra 146096 = 399 := by decide
  omega

/-- Each of the 400 years begins with its first day; the day before lies in an earlier one. -/
theorem yearOfEra_ends (year : Fin 400) :
    yearOfEra (daysBeforeYear year) = year ∧
      ((year : Nat) ≠ 0 → yearOfEra (daysBeforeYear year - 1) < year) := by
  revert year
  decide +kernel

/-- A day of an era is one of the 366 days at most from the first day of its year on. -/
theorem dayOfYear_bounds {ofEra : Int} (atLeast : 0 ≤ ofEra) (below : ofEra < daysOfEra) :
    0 ≤ ofEra - daysBeforeYear (yearOfEra ofEra) ∧
      ofEra - daysBeforeYear (yearOfEra ofEra) ≤ 365 := by
  have ⟨nonneg, lessThan⟩ := yearOfEra_bounds atLeast below
  obtain ⟨year, same⟩ : ∃ year : Nat, yearOfEra ofEra = year := Int.eq_ofNat_of_zero_le nonneg
  rw [same] at lessThan ⊢
  constructor
  · by_cases isFirst : year = 0
    · subst isFirst
      simp only [daysBeforeYear]
      omega
    · refine Int.not_lt.1 fun early => ?_
      have before : yearOfEra ofEra ≤ yearOfEra (daysBeforeYear year - 1) :=
        yearOfEra_mono (by omega)
      have earlier := (yearOfEra_ends ⟨year, by omega⟩).2 isFirst
      simp only at earlier
      omega
  · by_cases isLast : year = 399
    · subst isLast
      simp only [daysOfEra, daysBeforeYear] at *
      omega
    · refine Int.not_lt.1 fun late => ?_
      have first : daysBeforeYear (year + 1 : Nat) ≤ ofEra := by
        simp only [daysBeforeYear] at *
        omega
      have after := yearOfEra_mono first
      have next := (yearOfEra_ends ⟨year + 1, by omega⟩).1
      simp only at next
      omega

/-- A day is one of the days of a year of an era, and its date depends on which. -/
theorem ofDays_eq (days : Int) :
    ∃ era year ofYear : Int, 0 ≤ year ∧ year < 400 ∧ 0 ≤ ofYear ∧ ofYear ≤ 365 ∧
      days = era * daysOfEra + daysBeforeYear year + ofYear - daysToEpoch ∧
      ofDays days =
        let month := (5 * ofYear + 2) / 153
        let day := ofYear - daysBeforeMonth month + 1
        if month < 10 then ⟨year + era * 400, month + 3, day⟩
        else ⟨year + era * 400 + 1, month - 9, day⟩ := by
  have atLeast : 0 ≤ (days + daysToEpoch) % daysOfEra := Int.emod_nonneg _ (by decide)
  have below : (days + daysToEpoch) % daysOfEra < daysOfEra := Int.emod_lt_of_pos _ (by decide)
  have ⟨nonneg, lessThan⟩ := yearOfEra_bounds atLeast below
  have ⟨first, last⟩ := dayOfYear_bounds atLeast below
  have whole := Int.mul_ediv_add_emod (days + daysToEpoch) daysOfEra
  refine ⟨_, _, _, nonneg, lessThan, first, last, ?_, rfl⟩
  rw [Int.mul_comm] at whole
  omega

/-- The day that a date is given to is the day of the date. -/
theorem toDays_ofDays (days : Int) : toDays (ofDays days) = days := by
  obtain ⟨era, year, ofYear, nonneg, lessThan, first, last, split, date⟩ := ofDays_eq days
  rw [date]
  have eraOf : (year + era * 400) / 400 = era := by omega
  have yearOf : (year + era * 400) % 400 = year := by omega
  by_cases inYear : (5 * ofYear + 2) / 153 < 10
  · have late : (5 * ofYear + 2) / 153 + 3 > 2 := by omega
    simp only [inYear, toDays, late, if_true, eraOf, yearOf, Int.add_sub_cancel]
    omega
  · have early : ¬ (5 * ofYear + 2) / 153 - 9 > 2 := by omega
    simp only [inYear, toDays, early, if_false, eraOf, yearOf, Int.add_sub_cancel,
      Int.sub_add_cancel]
    omega

/-- The calendar has the date of every day. -/
theorem valid_ofDays (days : Int) : (ofDays days).Valid := by
  rw [Valid, toDays_ofDays]

/-- Months and days are counted from one to 12 and 31. -/
theorem ofDays_bounds (days : Int) :
    1 ≤ (ofDays days).month ∧ (ofDays days).month ≤ 12 ∧
      1 ≤ (ofDays days).day ∧ (ofDays days).day ≤ 31 := by
  obtain ⟨era, year, ofYear, nonneg, lessThan, first, last, split, date⟩ := ofDays_eq days
  rw [date]
  simp only [daysBeforeMonth]
  by_cases inYear : (5 * ofYear + 2) / 153 < 10
  · simp only [inYear, if_true]
    omega
  · simp only [inYear, if_false]
    omega

end PeerFirewall.Time.Date
