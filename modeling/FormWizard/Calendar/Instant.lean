import FormWizard.Calendar.Date

/-! Points in time on the universal time scale. -/

namespace FormWizard.Calendar

/-- The number of seconds in a day. -/
def secondsPerDay : Nat := 86400

/-- The number of nanoseconds in a second. -/
def nanosPerSecond : Nat := 1000000000

/-- A point in time: the number of its day, the second of the day, and the nanosecond, which
goes beyond a full second exactly during a leap second. Any second may be followed by one, though
on the calendar a leap second ends a minute.
-/
structure Instant where
  dayNumber : Int
  second : Nat
  nanosecond : Nat
  second_lt : second < secondsPerDay
  nanosecond_lt : nanosecond < 2 * nanosPerSecond
deriving DecidableEq, Repr

namespace Instant

/-- The calendar day of an instant. -/
def date (instant : Instant) : Date :=
  Date.ofDayNumber instant.dayNumber

/-- The instant lies on a day of a represented year. -/
def isRepresented (instant : Instant) : Bool :=
  Date.toDayNumber ⟨minYear, 1, 1⟩ ≤ instant.dayNumber
    && instant.dayNumber ≤ Date.toDayNumber ⟨maxYear, 12, 31⟩

/-- The start of a day. -/
def midnight (dayNumber : Int) : Instant :=
  ⟨dayNumber, 0, 0, by decide, by decide⟩

instance : Inhabited Instant :=
  ⟨midnight 0⟩

/-- The instant a number of seconds after the start of 1970, and of nanoseconds after that, which
may lie in a leap second at the end of a minute.
-/
def ofSeconds? (seconds : Int) (nanosecond : Nat) : Option Instant :=
  if h : nanosecond < nanosPerSecond
      ∨ (seconds % secondsPerDay).toNat % 60 = 59 ∧ nanosecond < 2 * nanosPerSecond then
    some {
      dayNumber := seconds / secondsPerDay
      second := (seconds % secondsPerDay).toNat
      nanosecond
      second_lt := by simp only [secondsPerDay]; omega
      nanosecond_lt := by omega }
  else none

/-- The milliseconds since the start of 1970, parts of one cut off. -/
def milliseconds (instant : Instant) : Int :=
  (instant.dayNumber * secondsPerDay + instant.second) * 1000
    + (instant.nanosecond / 1000000 : Nat)

/-- The instant a number of milliseconds after the start of 1970, if it is represented. -/
def ofMilliseconds? (milliseconds : Int) : Option Instant :=
  let instant := ofSeconds? (milliseconds / 1000) ((milliseconds % 1000).toNat * 1000000)
  instant.filter isRepresented

/-- The instant a number of nanoseconds after the start of 1970. -/
def ofNanoseconds (nanoseconds : Int) : Instant where
  dayNumber := nanoseconds / nanosPerSecond / secondsPerDay
  second := (nanoseconds / nanosPerSecond % secondsPerDay).toNat
  nanosecond := (nanoseconds % nanosPerSecond).toNat
  second_lt := by simp only [secondsPerDay]; omega
  nanosecond_lt := by simp only [nanosPerSecond]; omega

/-- The fraction of a second: nothing for a full one, or else three, six or nine digits. -/
def fractionText (nanos : Nat) : String :=
  if nanos = 0 then ""
  else if nanos % 1000000 = 0 then "." ++ Text.padded 3 (nanos / 1000000)
  else if nanos % 1000 = 0 then "." ++ Text.padded 6 (nanos / 1000)
  else "." ++ Text.padded 9 nanos

/-- The text of an instant without a zone. A leap second is written as one more than its second,
which at the end of a minute is second 60.
-/
def localText (instant : Instant) : String :=
  let isLeap := nanosPerSecond ≤ instant.nanosecond
  let second := instant.second % 60 + if isLeap then 1 else 0
  let nanos := if isLeap then instant.nanosecond - nanosPerSecond else instant.nanosecond
  instant.date.text ++ "T" ++ Text.padded 2 (instant.second / 3600) ++ ":"
    ++ Text.padded 2 (instant.second / 60 % 60) ++ ":" ++ Text.padded 2 second
    ++ fractionText nanos

/-- The text of an instant with its zone as an offset. -/
def text (instant : Instant) : String :=
  instant.localText ++ "+00:00"

/-- The text of an instant with its zone as the letter Z. -/
def zuluText (instant : Instant) : String :=
  instant.localText ++ "Z"

end Instant

end FormWizard.Calendar
