import FormWizard.Text.Numeral

/-! Days of the proleptic Gregorian calendar, numbered from the first of January 1970. -/

namespace FormWizard.Calendar

/-- A calendar day. -/
structure Date where
  year : Int
  month : Int
  day : Int
deriving DecidableEq, Repr

/-- Leap years are the multiples of four, of the full centuries only the multiples of 400. -/
def isLeapYear (year : Int) : Bool :=
  year % 4 == 0 && (year % 100 != 0 || year % 400 == 0)

/-- The number of days of a month. -/
def daysInMonth (year month : Int) : Int :=
  if month = 2 then if isLeapYear year then 29 else 28
  else if month = 4 ∨ month = 6 ∨ month = 9 ∨ month = 11 then 30
  else 31

/-- The years for which dates are represented. -/
def minYear : Int := -262143

/-- The last of the represented years. -/
def maxYear : Int := 262142

namespace Date

/-- A day that exists, in a represented year. -/
def isValid (date : Date) : Bool :=
  minYear ≤ date.year && date.year ≤ maxYear && 1 ≤ date.month && date.month ≤ 12
    && 1 ≤ date.day && date.day ≤ daysInMonth date.year date.month

/-- The number of a day. Years are counted from March, so that the leap day ends its year, and in
eras of 400 years, each of 146097 days.
-/
def toDayNumber (date : Date) : Int :=
  let year := if date.month ≤ 2 then date.year - 1 else date.year
  let month := if date.month ≤ 2 then date.month + 9 else date.month - 3
  let era := year / 400
  let yearOfEra := year % 400
  let dayOfYear := (153 * month + 2) / 5 + date.day - 1
  let dayOfEra := yearOfEra * 365 + yearOfEra / 4 - yearOfEra / 100 + dayOfYear
  era * 146097 + dayOfEra - 719468

/-- The day of a number. -/
def ofDayNumber (number : Int) : Date :=
  let shifted := number + 719468
  let era := shifted / 146097
  let dayOfEra := shifted % 146097
  let yearOfEra :=
    (dayOfEra - dayOfEra / 1460 + dayOfEra / 36524 - dayOfEra / 146096) / 365
  let dayOfYear := dayOfEra - (365 * yearOfEra + yearOfEra / 4 - yearOfEra / 100)
  let month := (5 * dayOfYear + 2) / 153
  let year := yearOfEra + era * 400
  { year := if 10 ≤ month then year + 1 else year
    month := if 10 ≤ month then month - 9 else month + 3
    day := dayOfYear - (153 * month + 2) / 5 + 1 }

/-- The text of a year: four digits from 0 to 9999, and otherwise a sign and at least four. -/
def yearText (year : Int) : String :=
  if 0 ≤ year ∧ year ≤ 9999 then Text.padded 4 year.natAbs
  else (if year < 0 then "-" else "+") ++ Text.padded 4 year.natAbs

/-- The text of a day, such as `2024-03-15`. -/
def text (date : Date) : String :=
  yearText date.year ++ "-" ++ Text.padded 2 date.month.natAbs ++ "-"
    ++ Text.padded 2 date.day.natAbs

end Date

/-- The day of the week, counted from Monday as zero. -/
def weekday (dayNumber : Int) : Int :=
  (dayNumber + 3) % 7

/-- Every weekday but Saturday and Sunday. -/
def isWorkday (dayNumber : Int) : Bool :=
  weekday dayNumber < 5

end FormWizard.Calendar
