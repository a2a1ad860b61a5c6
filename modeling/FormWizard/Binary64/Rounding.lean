import FormWizard.Binary64.Basic

/-! Whole numbers beside a double: the double as a whole number, the whole numbers below, above
and nearest to it, and the remainder of a division.
-/

namespace FormWizard.Binary64

/-- The numerator and the denominator of the exact size of a finite double. -/
def Parts.fraction (p : Parts) : Nat × Nat :=
  (p.significand * Nat.pow 2 p.exponent.toNat, Nat.pow 2 (-p.exponent).toNat)

/-- A natural with a sign. -/
def signed (negative : Bool) (n : Nat) : Int :=
  if negative then -(n : Int) else n

/-- The greatest whole number whose size is at most that of the double. -/
def truncated (x : Float) : Int :=
  let p := parts x
  signed p.negative (p.fraction.1 / p.fraction.2)

/-- The whole number that a finite double is, if it is one. -/
def whole? (x : Float) : Option Int :=
  let p := parts x
  if isFinite x && p.fraction.1 % p.fraction.2 == 0 then some (truncated x) else none

/-- Applies a rounding to a finite double; the others stay as they are. -/
def onFinite (rounding : Parts → Int) (x : Float) : Float :=
  if isFinite x then ofInt (rounding (parts x)) else x

/-- The greatest whole number not above the double. -/
def floor (x : Float) : Float :=
  onFinite (fun p => signed p.negative p.fraction.1 / p.fraction.2) x

/-- The least whole number not below the double. -/
def ceiling (x : Float) : Float :=
  onFinite (fun p => -(-(signed p.negative p.fraction.1) / p.fraction.2)) x

/-- The nearest whole number; a half goes away from zero. -/
def round (x : Float) : Float :=
  onFinite
    (fun p => signed p.negative ((2 * p.fraction.1 + p.fraction.2) / (2 * p.fraction.2))) x

/-- What division by the second double to a whole quotient, cut off toward zero, leaves of the
first one. It has the sign of the first. Only NaN is left of an infinity or by zero.
-/
def remainder (x y : Float) : Float :=
  if x.isNaN || y.isNaN || !isFinite x || (parts y).significand == 0 then 0.0 / 0.0
  else if !isFinite y then x
  else
    let p := parts x
    let q := parts y
    let exponent := min p.exponent q.exponent
    let dividend := p.significand * Nat.pow 2 (p.exponent - exponent).toNat
    let divisor := q.significand * Nat.pow 2 (q.exponent - exponent).toNat
    ofParts ⟨p.negative, dividend % divisor, exponent⟩

end FormWizard.Binary64
