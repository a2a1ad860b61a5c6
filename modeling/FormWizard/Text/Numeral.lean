/-! Decimal numerals: runs of the ten ASCII digits. -/

namespace FormWizard.Text

/-- The value of a digit. -/
def digitValue (c : Char) : Nat :=
  c.toNat - '0'.toNat

/-- The number that a run of digits spells. -/
def digitsValue (digits : List Char) : Nat :=
  digits.foldl (fun value c => 10 * value + digitValue c) 0

/-- A run of digits at the front, and what follows it. -/
def spanDigits (chars : List Char) : List Char × List Char :=
  (chars.takeWhile Char.isDigit, chars.dropWhile Char.isDigit)

/-- The size of a machine word: indexes and counts stay below it. -/
def wordLimit : Nat := Nat.pow 2 64

/-- Reads a numeral below the word limit. A plus sign may stand in front of it. -/
def natural? (chars : List Char) : Option Nat :=
  let digits :=
    match chars with
    | '+' :: rest => rest
    | _ => chars
  if digits.isEmpty || !digits.all Char.isDigit then none
  else
    let value := digitsValue digits
    if value < wordLimit then some value else none

/-- The digits of a number, without leading zeros. -/
def naturalDigits (n : Nat) : List Char :=
  Nat.toDigits 10 n

/-- A number written with at least the given count of digits, zeros filling up in front. -/
def padded (width n : Nat) : String :=
  let digits := naturalDigits n
  String.ofList (List.replicate (width - digits.length) '0' ++ digits)

/-- A whole number in decimal digits, behind a minus sign if it is negative. -/
def integer (n : Int) : String :=
  if n < 0 then "-" ++ String.ofList (naturalDigits n.natAbs)
  else String.ofList (naturalDigits n.natAbs)

end FormWizard.Text
