import FormWizard.Calendar.Instant
import FormWizard.Json.Basic
import FormWizard.Text.Blank

/-! Reading points in time: time stamps such as `2024-03-15T10:00:00.5+02:00`, plain days such
as `2024-03-15`, and numbers of milliseconds.
-/

namespace FormWizard.Calendar

/-- Takes one given character off the front. -/
def skip? (c : Char) : List Char → Option (List Char)
  | first :: rest => if first = c then some rest else none
  | [] => none

/-- Takes a numeral of exactly the given count of digits off the front. -/
def exactly? (count : Nat) (chars : List Char) : Option (Nat × List Char) :=
  let digits := chars.take count
  if digits.length == count && digits.all Char.isDigit then
    some (Text.digitsValue digits, chars.drop count)
  else none

/-- Takes a numeral of one up to the given count of digits off the front. -/
def atMost? (count : Nat) (chars : List Char) : Option (Nat × List Char) :=
  let digits := (chars.take count).takeWhile Char.isDigit
  if digits.isEmpty then none
  else some (Text.digitsValue digits, chars.drop digits.length)

/-- The fraction of a second in nanoseconds. Digits after the ninth are passed over. -/
def fraction? (chars : List Char) : Option (Nat × List Char) :=
  match chars with
  | '.' :: rest =>
    let (digits, rest) := Text.spanDigits rest
    let kept := digits.take 9
    if digits.isEmpty then none
    else some (Text.digitsValue kept * Nat.pow 10 (9 - kept.length), rest)
  | _ => some (0, chars)

/-- The sign of a zone offset; the minus sign proper may stand for the hyphen. -/
def zoneSign? (c : Char) : Option Int :=
  if c = '+' then some 1 else if c = '-' ∨ c = '\u2212' then some (-1) else none

/-- A zone at the end of a time stamp, as the seconds that it is ahead. -/
def zone? (chars : List Char) : Option Int := do
  match chars with
  | ['Z'] | ['z'] => return 0
  | sign :: rest =>
    let direction ← zoneSign? sign
    let (hours, rest) ← exactly? 2 rest
    let rest ← skip? ':' rest
    let (minutes, rest) ← exactly? 2 rest
    guard (rest.isEmpty ∧ hours < 24 ∧ minutes < 60)
    return direction * ((hours * 3600 + minutes * 60 : Nat) : Int)
  | [] => none

/-- A time of day, with second 60 as a leap second, as a second and a nanosecond. -/
def timeOfDay? (hour minute second nanos : Nat) : Option (Nat × Nat) :=
  if hour < 24 ∧ minute < 60 ∧ second ≤ 60 then
    if second = 60 then some (hour * 3600 + minute * 60 + 59, nanosPerSecond + nanos)
    else some (hour * 3600 + minute * 60 + second, nanos)
  else none

/-- A time stamp: a day with four digits of the year, the letter T or a blank, a time of day and
a zone.
-/
def timeStamp? (chars : List Char) : Option Instant := do
  let (year, rest) ← exactly? 4 chars
  let rest ← skip? '-' rest
  let (month, rest) ← exactly? 2 rest
  let rest ← skip? '-' rest
  let (day, rest) ← exactly? 2 rest
  let separator ← rest.head?
  guard (separator = 'T' ∨ separator = 't' ∨ separator = ' ')
  let (hour, rest) ← exactly? 2 rest.tail
  let rest ← skip? ':' rest
  let (minute, rest) ← exactly? 2 rest
  let rest ← skip? ':' rest
  let (second, rest) ← exactly? 2 rest
  let (nanos, rest) ← fraction? rest
  let ahead ← zone? rest
  let date : Date := ⟨year, month, day⟩
  guard date.isValid
  let (secondOfDay, nanos) ← timeOfDay? hour minute second nanos
  Instant.ofSeconds? (date.toDayNumber * secondsPerDay + secondOfDay - ahead) nanos

/-- A year: any count of digits behind a sign, and otherwise at most four. -/
def year? (chars : List Char) : Option (Int × List Char) :=
  match chars with
  | '-' :: rest => (atMost? rest.length rest).map fun (n, rest) => (-(n : Int), rest)
  | '+' :: rest => (atMost? rest.length rest).map fun (n, rest) => ((n : Int), rest)
  | _ => (atMost? 4 chars).map fun (n, rest) => ((n : Int), rest)

/-- A day: the year, the month and the day of the month between hyphens. Blanks may stand in
front of each of the three.
-/
def day? (chars : List Char) : Option Instant := do
  let (year, rest) ← year? (chars.dropWhile Text.isBlank)
  let rest ← skip? '-' rest
  let (month, rest) ← atMost? 2 (rest.dropWhile Text.isBlank)
  let rest ← skip? '-' rest
  let (day, rest) ← atMost? 2 (rest.dropWhile Text.isBlank)
  let date : Date := ⟨year, month, day⟩
  guard (rest.isEmpty ∧ date.isValid)
  return .midnight date.toDayNumber

/-- Millisecond counts are cut off to whole ones and held to the signed machine word. -/
def clampedMilliseconds (x : Float) : Int :=
  if x.isNaN then 0
  else if Binary64.isFinite x then
    max (-(Nat.pow 2 63)) (min (Nat.pow 2 63 - 1) (Binary64.truncated x))
  else if x < 0.0 then -(Nat.pow 2 63)
  else Nat.pow 2 63 - 1

namespace Instant

/-- Reads a time stamp as it stands. -/
def ofTimeStamp? (text : String) : Option Instant :=
  timeStamp? text.toList

/-- Reads a JSON value as a point in time: a time stamp, a day, which stands for its midnight, or
a number of milliseconds since the start of 1970.
-/
def ofJson? : Json → Option Instant
  | .string text =>
    let chars := Text.trim text.toList
    (timeStamp? chars).or (day? chars)
  | .number n => ofMilliseconds? (clampedMilliseconds n.toDouble)
  | _ => none

end Instant

end FormWizard.Calendar
