import FormWizard.Json.Printer
import FormWizard.Text.Blank

/-! How values are compared, counted and spelled where their kinds differ. -/

namespace FormWizard.Json

/-- The quantity of a value in an ordering or a calculation. Null is zero, a truth value zero or
one, a text the number that it spells between blanks and zero if it is blank. All else, and no
value at all, is NaN.
-/
def quantity : Option Json → Float
  | some .null => 0.0
  | some (.bool flag) => if flag then 1.0 else 0.0
  | some (.number n) => n.toDouble
  | some (.string text) =>
    let chars := Text.trim text.toList
    if chars.isEmpty then 0.0 else (Decimal.double? chars).getD (0.0 / 0.0)
  | _ => 0.0 / 0.0

/-- Equality without conversion between kinds, except that two numbers are compared as doubles.
-/
def equals (left right : Json) : Bool :=
  match left, right with
  | .number a, .number b => a.toDouble == b.toDouble
  | _, _ => left.same right

/-- Whether a value counts as true: not null, false, zero or the empty text. -/
def isTruthy : Json → Bool
  | .null => false
  | .bool flag => flag
  | .number n => n.toDouble != 0.0 && !n.toDouble.isNaN
  | .string text => !text.isEmpty
  | .array _ | .object _ => true

/-- The text of a value inside a longer text: a string as it is, a number that is an exact whole
one without a fraction, and all else as JSON.
-/
def plainText (value : Json) : String :=
  match value with
  | .string text => text
  | .number n =>
    match Number.exactWhole? n.toDouble with
    | some whole => Text.integer whole
    | none => n.text
  | _ => value.text

end FormWizard.Json
