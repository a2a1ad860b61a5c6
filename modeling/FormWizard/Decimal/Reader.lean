import FormWizard.Decimal.Basic
import FormWizard.Text.Numeral

/-! Reading a double from text: an optional sign, then digits with an optional point among or
beside them and an optional exponent, or one of the names of the values that are not finite.
-/

namespace FormWizard.Decimal

/-- A sign at the front, true for minus, and what follows it. -/
def spanSign (chars : List Char) : Bool × List Char :=
  match chars with
  | '-' :: rest => (true, rest)
  | '+' :: rest => (false, rest)
  | _ => (false, chars)

/-- A whole exponent: nothing, or the letter `e`, an optional sign and at least one digit. -/
def exponent? (chars : List Char) : Option Int :=
  match chars with
  | [] => some 0
  | mark :: rest =>
    let (negative, digits) := spanSign rest
    if (mark == 'e' || mark == 'E') && !digits.isEmpty && digits.all Char.isDigit then
      some (if negative then -(Text.digitsValue digits : Int) else Text.digitsValue digits)
    else none

/-- An unsigned decimal: digits before the point, after it, or both, and an exponent. -/
def unsigned? (chars : List Char) : Option Decimal :=
  let (front, rest) := Text.spanDigits chars
  let (back, rest) :=
    match rest with
    | '.' :: afterPoint => Text.spanDigits afterPoint
    | _ => ([], rest)
  if front.isEmpty && back.isEmpty then none
  else
    (exponent? rest).map fun exponent =>
      ⟨Text.digitsValue (front ++ back), exponent - back.length⟩

/-- The double that a text spells, rounded to nearest. The names `inf`, `infinity` and `nan` are
read in any mix of small and capital ASCII letters.
-/
def double? (chars : List Char) : Option Float :=
  let (negative, body) := spanSign chars
  let name := String.ofList (body.map Char.toLower)
  if name == "inf" || name == "infinity" then
    some (if negative then -1.0 / 0.0 else 1.0 / 0.0)
  else if name == "nan" then some (0.0 / 0.0)
  else (unsigned? body).map (toDouble negative)

end FormWizard.Decimal
