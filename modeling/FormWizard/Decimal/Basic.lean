import FormWizard.Binary64.Basic

/-! Decimals `digits * 10 ^ exponent`, and the double nearest to one. -/

namespace FormWizard

/-- The number `digits * 10 ^ exponent`. -/
structure Decimal where
  digits : Nat
  exponent : Int
deriving DecidableEq, Repr

namespace Decimal

/-- The decimal as a fraction. -/
def fraction (d : Decimal) : Nat × Nat :=
  (d.digits * Nat.pow 10 d.exponent.toNat, Nat.pow 10 (-d.exponent).toNat)

/-- The double nearest to a decimal, with the given sign. As `8 < 10`, the first test holds only
of decimals from `2 ^ 1100` on, and the second only of those below `2 ^ (-1100)`; so powers of
ten are formed only where they decide.
-/
def toDouble (negative : Bool) (d : Decimal) : Float :=
  let scale := (d.digits.log2 : Int) + 3 * d.exponent
  if d.digits = 0 then Binary64.nearest negative 0 1
  else if 0 ≤ d.exponent ∧ 1100 ≤ scale then Binary64.nearest negative (Nat.pow 2 1100) 1
  else if d.exponent < 0 ∧ scale + 1 < -1100 then Binary64.nearest negative 0 1
  else Binary64.nearest negative d.fraction.1 d.fraction.2

/-- The same number with the zeros at the end of its digits moved into the exponent. -/
def withoutTrailingZeros (d : Decimal) : Decimal :=
  if h : d.digits ≠ 0 ∧ d.digits % 10 = 0 then
    withoutTrailingZeros ⟨d.digits / 10, d.exponent + 1⟩
  else d
termination_by d.digits
decreasing_by exact Nat.div_lt_self (Nat.pos_of_ne_zero h.1) (by decide)

end Decimal

end FormWizard
