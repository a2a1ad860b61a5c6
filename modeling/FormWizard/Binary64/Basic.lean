/-! Doubles by exact arithmetic: a finite double is a sign and a product
`significand * 2 ^ exponent`, and every fraction has a nearest double.
-/

namespace FormWizard.Binary64

/-- The sign and the exact size `significand * 2 ^ exponent` of a finite double. -/
structure Parts where
  negative : Bool
  significand : Nat
  exponent : Int

/-- The eleven bits of the exponent field. -/
def exponentField (x : Float) : Nat :=
  x.toBits.toNat / Nat.pow 2 52 % Nat.pow 2 11

/-- The fifty-two bits of the fraction field. -/
def fractionField (x : Float) : Nat :=
  x.toBits.toNat % Nat.pow 2 52

/-- Neither an infinity nor NaN. -/
def isFinite (x : Float) : Bool :=
  exponentField x != 2047

/-- The parts of a finite double. For the others the parts say nothing. -/
def parts (x : Float) : Parts where
  negative := decide (Nat.pow 2 63 ≤ x.toBits.toNat)
  significand :=
    if exponentField x = 0 then fractionField x else Nat.pow 2 52 + fractionField x
  exponent :=
    if exponentField x = 0 then -1074 else (exponentField x : Int) - 1075

/-- A quotient rounded to the nearest natural, ties to the even one. -/
def roundHalfEven (num den : Nat) : Nat :=
  let quotient := num / den
  let rest := num % den
  if 2 * rest < den || (2 * rest == den && quotient % 2 == 0) then quotient else quotient + 1

/-- The exponent of the leading binary digit of a positive fraction. -/
def binaryScale (num den : Nat) : Int :=
  let guess : Int := (num.log2 : Int) - (den.log2 : Int)
  if den * Nat.pow 2 guess.toNat ≤ num * Nat.pow 2 (-guess).toNat then guess else guess - 1

/-- The bits of the nearest double to a positive fraction, ties to even. Fractions beyond the
largest double have the bits of infinity.
-/
def nearestBits (num den : Nat) : Nat :=
  let exponent := max (binaryScale num den - 52) (-1074)
  let significand :=
    roundHalfEven (num * Nat.pow 2 (-exponent).toNat) (den * Nat.pow 2 exponent.toNat)
  min ((exponent + 1074).toNat * Nat.pow 2 52 + significand) (2047 * Nat.pow 2 52)

/-- The double nearest to a fraction, with the given sign. -/
def nearest (negative : Bool) (num den : Nat) : Float :=
  let size := if num = 0 then 0 else nearestBits num den
  Float.ofBits (UInt64.ofNat ((if negative then Nat.pow 2 63 else 0) + size))

/-- The double nearest to a whole number. -/
def ofInt (n : Int) : Float :=
  nearest (decide (n < 0)) n.natAbs 1

/-- The double nearest to `significand * 2 ^ exponent`, with the given sign. -/
def ofParts (p : Parts) : Float :=
  nearest p.negative (p.significand * Nat.pow 2 p.exponent.toNat) (Nat.pow 2 (-p.exponent).toNat)

end FormWizard.Binary64
