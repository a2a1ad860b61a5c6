import FormWizard.Decimal.Shortest
import FormWizard.Text.Numeral

/-! How a finite double is written: positionally with a point and at least one decimal, or with
an exponent.
-/

namespace FormWizard.Decimal

/-- The decisions of a number format: the exponents of the leading digit that are written
positionally (`plainFrom ≤ e < plainBelow`), whether a positive exponent bears its sign, and the
choice among equally near digits.
-/
structure Style where
  plainFrom : Int
  plainBelow : Int
  plusSign : Bool
  tie : Tie

/-- The digits with the point after the given number of places, filled up by zeros. -/
def positional (digits : List Char) (places : Int) : List Char :=
  if (digits.length : Int) ≤ places then
    digits ++ List.replicate (places - digits.length).toNat '0' ++ ['.', '0']
  else if 0 < places then
    digits.take places.toNat ++ '.' :: digits.drop places.toNat
  else ['0', '.'] ++ List.replicate (-places).toNat '0' ++ digits

/-- One digit, and the others after a point. -/
def mantissa : List Char → List Char
  | first :: second :: rest => first :: '.' :: second :: rest
  | digits => digits

/-- The digits with the point after the first one, and the exponent. -/
def scientific (style : Style) (digits : List Char) (exponent : Int) : List Char :=
  let sign := if exponent < 0 then ['-'] else if style.plusSign then ['+'] else []
  mantissa digits ++ 'e' :: sign ++ Text.naturalDigits exponent.natAbs

/-- A positive decimal in the given style. -/
def layOut (style : Style) (d : Decimal) : List Char :=
  let digits := Text.naturalDigits d.digits
  let places : Int := digits.length + d.exponent
  if style.plainFrom ≤ places - 1 ∧ places - 1 < style.plainBelow then positional digits places
  else scientific style digits (places - 1)

/-- The size of a finite double in the given style. -/
def size (style : Style) (p : Binary64.Parts) : List Char :=
  if p.significand = 0 then ['0', '.', '0'] else layOut style (shortest style.tie p)

/-- A finite double in the given style. Negative zero bears its sign. -/
def written (style : Style) (x : Float) : String :=
  let p := Binary64.parts x
  String.ofList (if p.negative then '-' :: size style p else size style p)

/-- The names of the values that are not finite. -/
def nonFinite (x : Float) : String :=
  if x.isNaN then "NaN" else if x < 0.0 then "-inf" else "inf"

end FormWizard.Decimal
