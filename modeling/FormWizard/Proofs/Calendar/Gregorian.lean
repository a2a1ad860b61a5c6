import FormWizard.Proofs.Calendar.Days

/-! The numbers of days count the days of the proleptic Gregorian calendar one by one: each is the
number of a day that exists, and the next number is that of the day after it.
-/

namespace FormWizard.Calendar.Date

-----------------------------------------------------------------------------------------
-- Days of the calendar
-----------------------------------------------------------------------------------------

/-- A day that exists, in whatever year. -/
structure IsDay (date : Date) : Prop where
  month : 1 ≤ date.month ∧ date.month ≤ 12
  day : 1 ≤ date.day ∧ date.day ≤ daysInMonth date.year date.month

/-- The day after a day. -/
def next (date : Date) : Date :=
  if date.day < daysInMonth date.year date.month then { date with day := date.day + 1 }
  else if date.month < 12 then { date with month := date.month + 1, day := 1 }
  else ⟨date.year + 1, 1, 1⟩

theorem isLeapYear_iff {year : Int}
    : isLeapYear year = true ↔ year % 4 = 0 ∧ (year % 100 = 0 → year % 400 = 0) := by
  simp only [isLeapYear, Bool.and_eq_true, Bool.or_eq_true, beq_iff_eq, bne_iff_ne]
  omega

/-- The number of days of a month, with the leap day as a condition on its year. -/
theorem le_daysInMonth_iff {year month day : Int}
    : day ≤ daysInMonth year month
      ↔ day ≤ 31
        ∧ (month = 4 ∨ month = 6 ∨ month = 9 ∨ month = 11 → day ≤ 30)
        ∧ (month = 2 →
            day ≤ 29 ∧ (day = 29 → year % 4 = 0 ∧ (year % 100 = 0 → year % 400 = 0))) := by
  rw [← isLeapYear_iff]
  unfold daysInMonth
  split
  · cases isLeapYear year <;> simp <;> omega
  · split <;> omega

theorem IsDay.next {date : Date} (h : date.IsDay) : date.next.IsDay := by
  obtain ⟨month, day⟩ := h
  unfold Date.next
  split
  · exact ⟨month, by simp only; omega⟩
  · split
    · refine ⟨by simp only; omega, by simp only; omega, ?_⟩
      simp only [le_daysInMonth_iff]
      omega
    · refine ⟨by simp only; omega, by simp only; omega, ?_⟩
      simp only [le_daysInMonth_iff]
      omega

/-- Every number is the number of a day that exists. -/
theorem isDay_ofDayNumber (number : Int) : (ofDayNumber number).IsDay := by
  obtain ⟨era, year, dayOfYear, month, split⟩ := exists_split number
  have bounds := month_bounds split.inYear.1 split.inYear.2 split.inMonth
  have leapDay := split.leapDay
  have inEra := split.inEra
  have inYear := split.inYear
  have inMonth := split.inMonth
  rw [split.named]
  refine ⟨?_, ?_, ?_⟩
  · simp only
    split <;> omega
  · exact bounds.2.2.1
  · rw [le_daysInMonth_iff]
    simp only
    by_cases late : 10 ≤ month
    · simp only [if_pos late]
      refine ⟨by omega, by omega, by omega⟩
    · simp only [if_neg late]
      refine ⟨by omega, by omega, by omega⟩

-----------------------------------------------------------------------------------------
-- Years from March on
-----------------------------------------------------------------------------------------

/-- The days before the first of March of a year, counted from the first of March of the year 0. -/
def daysBefore (year : Int) : Int :=
  365 * year + year / 4 - year / 100 + year / 400

theorem toDayNumber_eq (date : Date)
    : date.toDayNumber
      = daysBefore (if date.month ≤ 2 then date.year - 1 else date.year)
        + ((153 * (if date.month ≤ 2 then date.month + 9 else date.month - 3) + 2) / 5
          + date.day - 1) - 719468 := by
  simp only [toDayNumber, daysBefore]
  generalize (if date.month ≤ 2 then date.year - 1 else date.year) = year
  omega

/-- A day in a year that is counted from March: the year, the month and the day of the year. -/
structure FromMarch (date : Date) (year month dayOfYear : Int) : Prop where
  yearOf : date.year = if 10 ≤ month then year + 1 else year
  monthOf : date.month = if 10 ≤ month then month - 9 else month + 3
  dayOf : date.day = dayOfYear - (153 * month + 2) / 5 + 1
  inMonth : month = (5 * dayOfYear + 2) / 153
  inYear : 0 ≤ dayOfYear ∧ dayOfYear ≤ 365
  leapDay : dayOfYear = 365 → (year + 1) % 4 = 0 ∧ ((year + 1) % 100 = 0 → (year + 1) % 400 = 0)
  number : date.toDayNumber = daysBefore year + dayOfYear - 719468

theorem IsDay.fromMarch {date : Date} (h : date.IsDay)
    : ∃ year month dayOfYear, date.FromMarch year month dayOfYear := by
  obtain ⟨month, day, within⟩ := h
  rw [le_daysInMonth_iff] at within
  by_cases early : date.month ≤ 2
  · refine ⟨date.year - 1, date.month + 9, (153 * (date.month + 9) + 2) / 5 + date.day - 1,
      ?_, ?_, ?_, ?_, ?_, ?_, ?_⟩
    · split <;> omega
    · split <;> omega
    · omega
    · have months : date.month = 1 ∨ date.month = 2 := by omega
      omega
    · omega
    · omega
    · rw [toDayNumber_eq, if_pos early, if_pos early]
  · refine ⟨date.year, date.month - 3, (153 * (date.month - 3) + 2) / 5 + date.day - 1,
      ?_, ?_, ?_, ?_, ?_, ?_, ?_⟩
    · split <;> omega
    · split <;> omega
    · omega
    · have months : date.month = 3 ∨ date.month = 4 ∨ date.month = 5 ∨ date.month = 6
          ∨ date.month = 7 ∨ date.month = 8 ∨ date.month = 9 ∨ date.month = 10 ∨ date.month = 11
          ∨ date.month = 12 := by
        omega
      omega
    · omega
    · omega
    · rw [toDayNumber_eq, if_neg early, if_neg early]

/-- A leap day is counted to the year that it ends. -/
theorem daysBefore_succ (year : Int)
    : daysBefore (year + 1) = daysBefore year + if isLeapYear (year + 1) then 366 else 365 := by
  have fours : (year + 1) / 4 = year / 4 + if (year + 1) % 4 = 0 then 1 else 0 := by
    split <;> omega
  have centuries : (year + 1) / 100 = year / 100 + if (year + 1) % 100 = 0 then 1 else 0 := by
    split <;> omega
  have eras : (year + 1) / 400 = year / 400 + if (year + 1) % 400 = 0 then 1 else 0 := by
    split <;> omega
  simp only [daysBefore, fours, centuries, eras, isLeapYear_iff]
  split <;> split <;> split <;> split <;> omega

theorem daysBefore_le {year later : Int} (h : year ≤ later)
    : daysBefore year ≤ daysBefore later := by
  induction later, h using Int.leInduction with
  | base => exact Int.le_refl _
  | succ later _ ih =>
      rw [daysBefore_succ]
      split <;> omega

/-- A year that is counted from March ends before the next one begins. -/
theorem FromMarch.lt_daysBefore {date : Date} {year month dayOfYear later : Int}
    (h : date.FromMarch year month dayOfYear) (before : year < later)
    : daysBefore year + dayOfYear < daysBefore later := by
  have next : daysBefore (year + 1) ≤ daysBefore later := daysBefore_le before
  have inYear := h.inYear
  rw [daysBefore_succ] at next
  split at next
  · omega
  · rename_i ordinary
    have short : dayOfYear ≠ 365 := fun full => ordinary (isLeapYear_iff.mpr (h.leapDay full))
    omega

/-- A day of a later year has a greater number. -/
theorem IsDay.toDayNumber_lt {date other : Date} (h : date.IsDay) (h' : other.IsDay)
    (before : date.year < other.year)
    : date.toDayNumber < other.toDayNumber := by
  obtain ⟨year, month, dayOfYear, march⟩ := h.fromMarch
  obtain ⟨year', month', dayOfYear', march'⟩ := h'.fromMarch
  have yearOf := march.yearOf
  have yearOf' := march'.yearOf
  have inYear' := march'.inYear
  rw [march.number, march'.number]
  by_cases earlier : year < year'
  · have ends := march.lt_daysBefore earlier
    omega
  · -- Within one year from March on, January and February are the last months.
    have same : year = year' := by split at yearOf <;> split at yearOf' <;> omega
    have inMonth := march.inMonth
    have inMonth' := march'.inMonth
    rw [same]
    split at yearOf <;> split at yearOf' <;> omega

/-- Different days have different numbers. -/
theorem IsDay.eq_of_toDayNumber {date other : Date} (h : date.IsDay) (h' : other.IsDay)
    (same : date.toDayNumber = other.toDayNumber)
    : date = other := by
  obtain ⟨year, month, dayOfYear, march⟩ := h.fromMarch
  obtain ⟨year', month', dayOfYear', march'⟩ := h'.fromMarch
  have number := march.number
  have number' := march'.number
  have inYear := march.inYear
  have inYear' := march'.inYear
  have years : year = year' := by
    rcases Int.lt_trichotomy year year' with before | years | before
    · have := march.lt_daysBefore before
      omega
    · exact years
    · have := march'.lt_daysBefore before
      omega
  subst years
  have days : dayOfYear = dayOfYear' := by omega
  subst days
  have months : month = month' := march.inMonth.trans march'.inMonth.symm
  subst months
  obtain ⟨_, _, _⟩ := date
  obtain ⟨_, _, _⟩ := other
  rw [mk.injEq]
  exact ⟨march.yearOf.trans march'.yearOf.symm, march.monthOf.trans march'.monthOf.symm,
    march.dayOf.trans march'.dayOf.symm⟩

-----------------------------------------------------------------------------------------
-- Counting days
-----------------------------------------------------------------------------------------

/-- The numbers of days go on by one. -/
theorem IsDay.toDayNumber_next {date : Date} (h : date.IsDay)
    : date.next.toDayNumber = date.toDayNumber + 1 := by
  obtain ⟨⟨first, last⟩, positive, within⟩ := h
  rw [toDayNumber_eq, toDayNumber_eq]
  unfold Date.next
  by_cases before : date.day < daysInMonth date.year date.month
  · simp only [if_pos before]
    omega
  · have atEnd : date.day = daysInMonth date.year date.month := by omega
    rw [if_neg before, atEnd]
    by_cases february : date.month = 2
    · have march := daysBefore_succ (date.year - 1)
      rw [Int.sub_add_cancel] at march
      cases leap : isLeapYear date.year <;> simp [february, daysInMonth, march, leap] <;> omega
    · have months : date.month = 1 ∨ date.month = 3 ∨ date.month = 4 ∨ date.month = 5
          ∨ date.month = 6 ∨ date.month = 7 ∨ date.month = 8 ∨ date.month = 9 ∨ date.month = 10
          ∨ date.month = 11 ∨ date.month = 12 := by
        omega
      rcases months with h | h | h | h | h | h | h | h | h | h | h <;>
        simp [h, daysInMonth] <;> omega

theorem ofDayNumber_toDayNumber {date : Date} (h : date.IsDay)
    : ofDayNumber date.toDayNumber = date :=
  (isDay_ofDayNumber _).eq_of_toDayNumber h (toDayNumber_ofDayNumber _)

/-- The day of a number is followed by the day of the next number. -/
theorem ofDayNumber_succ (number : Int)
    : ofDayNumber (number + 1) = (ofDayNumber number).next := by
  have day := isDay_ofDayNumber number
  rw [← ofDayNumber_toDayNumber day.next, day.toDayNumber_next, toDayNumber_ofDayNumber]

/-- Days with the numbers that they are counted by, from the first of January 1970 on and back. -/
inductive Counts : Int → Date → Prop where
  | epoch : Counts 0 ⟨1970, 1, 1⟩
  | next {number : Int} {date : Date}
    : Counts number date → Counts (number + 1) date.next
  | previous {number : Int} {date : Date}
    : date.IsDay → Counts (number + 1) date.next → Counts number date

/-- Each number counts one day, the one that is computed for it. Witness: induction on how far the
count has come.
-/
theorem counts_iff {number : Int} {date : Date}
    : Counts number date ↔ date = ofDayNumber number := by
  constructor
  · intro counted
    induction counted with
    | epoch => decide
    | next _ ih => rw [ofDayNumber_succ, ih]
    | @previous number date day _ ih =>
        have numbers := congrArg toDayNumber ih
        rw [day.toDayNumber_next, toDayNumber_ofDayNumber] at numbers
        have isIts : date.toDayNumber = number := by omega
        rw [← isIts, ofDayNumber_toDayNumber day]
  · rintro rfl
    induction number using Int.induction_on with
    | zero => exact .epoch
    | succ number ih =>
        rw [ofDayNumber_succ]
        exact .next ih
    | pred number ih =>
        refine .previous (isDay_ofDayNumber _) ?_
        rw [← ofDayNumber_succ, Int.sub_add_cancel]
        exact ih

end FormWizard.Calendar.Date
