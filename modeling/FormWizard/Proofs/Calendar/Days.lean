import FormWizard.Calendar.Date
import Mathlib.Data.Int.Init

/-! Days and their numbers. The day of a number is a day of a month, and its number is that number
again.
-/

namespace FormWizard.Calendar.Date

/-- In an era, a day lies in the year that is computed for it, and a year with 366 days ends with a
leap day. The arguments stand for the parts of that computation: the numbers of past four-year
spans, centuries and eras, the year, and the leap days before it.
-/
theorem dayOfYear_bounds {day spans centuries eras year leaps skipped : Int} (nonneg : 0 ≤ day)
    (less : day < 146097) (hspans : spans = day / 1460) (hcenturies : centuries = day / 36524)
    (heras : eras = day / 146096) (hyear : year = (day - spans + centuries - eras) / 365)
    (hleaps : leaps = year / 4) (hskipped : skipped = year / 100)
    : 0 ≤ year ∧ year ≤ 399 ∧ 0 ≤ day - (365 * year + leaps - skipped)
      ∧ day - (365 * year + leaps - skipped) ≤ 365
      ∧ (day - (365 * year + leaps - skipped) = 365 →
          (year + 1) % 4 = 0 ∧ ((year + 1) % 100 = 0 → year = 399)) := by
  have inCenturies : 25 * centuries ≤ spans := by omega
  have lower : 4 * spans - 1 ≤ year := by omega
  have upper : year ≤ 4 * spans + 3 := by omega
  have leapDays : leaps = spans ∨ leaps = spans - 1 ∧ year = 4 * spans - 1 := by omega
  have fewCenturies : centuries = 0 ∨ centuries = 1 ∨ centuries = 2 ∨ centuries = 3
      ∨ centuries = 4 := by
    omega
  have lastDay : eras = 0 ∨ day = 146096 ∧ eras = 1 := by omega
  have century : skipped = centuries - eras := by
    rcases fewCenturies with h | h | h | h | h <;> rcases lastDay with last | last <;> subst h <;>
      omega
  refine ⟨by omega, by omega, by omega, by omega, fun last => ?_⟩
  have endsSpan : year = 4 * spans - 1 := by omega
  exact ⟨by omega, fun full => by omega⟩

/-- The months from March on divide the days of a year. -/
theorem month_bounds {dayOfYear month : Int} (nonneg : 0 ≤ dayOfYear) (less : dayOfYear ≤ 365)
    (hmonth : month = (5 * dayOfYear + 2) / 153)
    : 0 ≤ month ∧ month ≤ 11 ∧ 1 ≤ dayOfYear - (153 * month + 2) / 5 + 1
      ∧ dayOfYear - (153 * month + 2) / 5 + 1 ≤ 31 := by
  have months : month = 0 ∨ month = 1 ∨ month = 2 ∨ month = 3 ∨ month = 4 ∨ month = 5 ∨ month = 6
      ∨ month = 7 ∨ month = 8 ∨ month = 9 ∨ month = 10 ∨ month = 11 := by
    omega
  omega

/-- The parts that a number is split into on the way to its day: the era, the year in it, the day
of that year and the month of that year, both counted from March.
-/
structure Split (number era year dayOfYear month : Int) : Prop where
  sum : number = era * 146097 + (year * 365 + year / 4 - year / 100 + dayOfYear) - 719468
  inEra : 0 ≤ year ∧ year ≤ 399
  inYear : 0 ≤ dayOfYear ∧ dayOfYear ≤ 365
  leapDay : dayOfYear = 365 → (year + 1) % 4 = 0 ∧ ((year + 1) % 100 = 0 → year = 399)
  inMonth : month = (5 * dayOfYear + 2) / 153
  named : ofDayNumber number = {
    year := if 10 ≤ month then year + era * 400 + 1 else year + era * 400
    month := if 10 ≤ month then month - 9 else month + 3
    day := dayOfYear - (153 * month + 2) / 5 + 1 }

theorem exists_split (number : Int)
    : ∃ era year dayOfYear month, Split number era year dayOfYear month := by
  have bounds := dayOfYear_bounds (Int.emod_nonneg (number + 719468) (by decide))
    (Int.emod_lt_of_pos (number + 719468) (by decide)) rfl rfl rfl rfl rfl rfl
  obtain ⟨yearNonneg, yearLess, dayNonneg, dayLess, leapDay⟩ := bounds
  refine ⟨(number + 719468) / 146097, _, _, _, ?_, ⟨yearNonneg, yearLess⟩, ⟨dayNonneg, dayLess⟩,
    leapDay, rfl, rfl⟩
  have whole := Int.mul_ediv_add_emod (number + 719468) 146097
  omega

/-- The day of a number lies in a month, between its first and at most the 31st day. -/
theorem ofDayNumber_bounds (number : Int)
    : 1 ≤ (ofDayNumber number).month ∧ (ofDayNumber number).month ≤ 12
      ∧ 1 ≤ (ofDayNumber number).day ∧ (ofDayNumber number).day ≤ 31 := by
  obtain ⟨era, year, dayOfYear, month, split⟩ := exists_split number
  have bounds := month_bounds split.inYear.1 split.inYear.2 split.inMonth
  rw [split.named]
  simp only
  split <;> omega

/-- The number of the day of a number is that number. -/
theorem toDayNumber_ofDayNumber (number : Int) : (ofDayNumber number).toDayNumber = number := by
  obtain ⟨era, year, dayOfYear, month, split⟩ := exists_split number
  have bounds := month_bounds split.inYear.1 split.inYear.2 split.inMonth
  have inEra := split.inEra
  have whole := split.sum
  rw [split.named, toDayNumber]
  simp only
  by_cases late : 10 ≤ month
  · have early : month - 9 ≤ 2 := by omega
    simp only [if_pos late, if_pos early]
    omega
  · have other : ¬month + 3 ≤ 2 := by omega
    simp only [if_neg late, if_neg other]
    omega

theorem ofDayNumber_injective : Function.Injective ofDayNumber := by
  intro number other same
  rw [← toDayNumber_ofDayNumber number, same, toDayNumber_ofDayNumber]

end FormWizard.Calendar.Date
