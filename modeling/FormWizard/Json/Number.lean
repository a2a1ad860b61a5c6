import FormWizard.Binary64.Rounding
import FormWizard.Decimal.Layout
import FormWizard.Decimal.Reader

/-! The numbers of JSON values: whole numbers that fit a machine word, signed or not, and doubles
for everything else.
-/

namespace FormWizard.Json

/-- A whole number or a finite double. The two never count as equal, even where they name the
same quantity.
-/
inductive Number where
  | whole (value : Int)
  | real (value : Float)
deriving DecidableEq, Inhabited

namespace Number

/-- The double nearest to the number. -/
def toDouble : Number → Float
  | whole value => Binary64.ofInt value
  | real value => value

/-- Equality of numbers as JSON values: within each kind by quantity. -/
def same : Number → Number → Bool
  | whole left, whole right => left == right
  | real left, real right => left == right
  | _, _ => false

/-- Numbers are written positionally for exponents from -5 to 15, and otherwise with a signed
exponent; between two equally near texts the one with the even digit is taken.
-/
def style : Decimal.Style where
  plainFrom := -5
  plainBelow := 16
  plusSign := true
  tie := .toEven

/-- The number as it stands in JSON text. -/
def text : Number → String
  | whole value => Text.integer value
  | real value => Decimal.written style value

/-- Whole results below `2 ^ 53` in size are kept exact as whole numbers. -/
def exactLimit : Nat := Nat.pow 2 53

/-- The whole number that a double stands for, if it is one of the exact ones. -/
def exactWhole? (x : Float) : Option Int :=
  (Binary64.whole? x).filter fun n => n.natAbs < exactLimit

/-- The number of a computed double, a whole number where it is exact. Only a finite double is a
number.
-/
def ofDouble? (x : Float) : Option Number :=
  if Binary64.isFinite x then
    some <|
      match exactWhole? x with
      | some n => whole n
      | none => real x
  else none

/-- The digits before the point: a single zero, or digits that do not start with zero. -/
def isWholePart (digits : List Char) : Bool :=
  match digits with
  | [] => false
  | ['0'] => true
  | first :: _ => first != '0'

/-- A numeral without fraction or exponent. It is a whole number where it fits a machine word,
signed or not, except that minus zero is a double, as are all others.
-/
def ofNumeral (negative : Bool) (value : Nat) : Number :=
  if negative then
    if 0 < value ∧ value ≤ Nat.pow 2 63 then whole (-(value : Int))
    else real (Decimal.toDouble true ⟨value, 0⟩)
  else if value < Nat.pow 2 64 then whole value
  else real (Decimal.toDouble false ⟨value, 0⟩)

/-- The number, unless it lies beyond the largest double. -/
def inRange? : Number → Option Number
  | whole value => some (whole value)
  | real value => if Binary64.isFinite value then some (real value) else none

/-- Reads a JSON number: `none` if the text is not one, and `some none` if it is one out of the
range of doubles.
-/
def read? (chars : List Char) : Option (Option Number) :=
  let (negative, body) :=
    match chars with
    | '-' :: rest => (true, rest)
    | _ => (false, chars)
  let (front, rest) := Text.spanDigits body
  if !isWholePart front then none
  else
    match rest with
    | [] => some (ofNumeral negative (Text.digitsValue front)).inRange?
    | '.' :: afterPoint =>
      let (back, rest) := Text.spanDigits afterPoint
      if back.isEmpty then none
      else
        (Decimal.exponent? rest).map fun exponent =>
          let d : Decimal := ⟨Text.digitsValue (front ++ back), exponent - back.length⟩
          (real (d.toDouble negative)).inRange?
    | _ =>
      (Decimal.exponent? rest).map fun exponent =>
        let d : Decimal := ⟨Text.digitsValue front, exponent⟩
        (real (d.toDouble negative)).inRange?

end Number

end FormWizard.Json
