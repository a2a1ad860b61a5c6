import FormWizard.Decimal.Basic

/-! The shortest decimal that reads back as a given double. For one digit, two digits and so on
the two neighbours of the value on the grid of that many digits are tested by exact arithmetic;
the first grid with a hit gives the answer.
-/

namespace FormWizard.Decimal

open Binary64 (Parts)

/-- Which of two candidates equally near to the value is taken. -/
inductive Tie where
  | toEven
  | upward

/-- Compares a decimal with `n * 2 ^ k`. -/
def compareBinary (d : Decimal) (n : Nat) (k : Int) : Ordering :=
  compare (d.digits * Nat.pow 10 d.exponent.toNat * Nat.pow 2 (-k).toNat)
    (n * Nat.pow 2 k.toNat * Nat.pow 10 (-d.exponent).toNat)

/-- The gap to the next smaller double is half as wide as the gap to the next greater one. -/
def narrowBelow (p : Parts) : Bool :=
  p.significand == Nat.pow 2 52 && p.exponent > -1074

/-- The double nearest to the decimal, ties to even, is the given positive one. -/
def readsBack (p : Parts) (d : Decimal) : Bool :=
  let low := 4 * p.significand - (if narrowBelow p then 1 else 2)
  let high := 4 * p.significand + 2
  let ends := p.significand % 2 == 0
  let fromLow := compareBinary d low (p.exponent - 2)
  let fromHigh := compareBinary d high (p.exponent - 2)
  (fromLow == .gt || (ends && fromLow == .eq)) && (fromHigh == .lt || (ends && fromHigh == .eq))

/-- The least `k` with the value below `10 ^ k`, looked for from an estimate by the binary
logarithm, whose slope `1233 / 4096` is just below the logarithm of two.
-/
def decimalScale (p : Parts) : Int :=
  let estimate := ((p.significand.log2 : Int) + p.exponent) * 1233 / 4096
  let candidates := [estimate - 1, estimate, estimate + 1]
  (candidates.find? fun k => compareBinary ⟨1, k⟩ p.significand p.exponent == .gt).getD
    (estimate + 2)

/-- Of the two neighbours of the value on the multiples of a power of ten, the one that reads
back; of two the nearer.
-/
def onGrid (tie : Tie) (p : Parts) (exponent : Int) : Option Decimal :=
  let num := p.significand * Nat.pow 2 p.exponent.toNat * Nat.pow 10 (-exponent).toNat
  let den := Nat.pow 2 (-p.exponent).toNat * Nat.pow 10 exponent.toNat
  let below : Decimal := ⟨num / den, exponent⟩
  let above : Decimal := ⟨num / den + 1, exponent⟩
  let middle := compare (2 * num) ((2 * (num / den) + 1) * den)
  match readsBack p below, readsBack p above with
  | false, false => none
  | true, false => some below
  | false, true => some above
  | true, true =>
    match middle, tie with
    | .lt, _ => some below
    | .gt, _ => some above
    | .eq, .upward => some above
    | .eq, .toEven => if below.digits % 2 == 0 then some below else some above

/-- The exact value of a finite double. -/
def exact (p : Parts) : Decimal :=
  if 0 ≤ p.exponent then ⟨p.significand * Nat.pow 2 p.exponent.toNat, 0⟩
  else ⟨p.significand * Nat.pow 5 (-p.exponent).toNat, p.exponent⟩

/-- The decimal of the fewest digits that reads back as a positive finite double, and of those
the nearest.
-/
def shortest (tie : Tie) (p : Parts) : Decimal :=
  let scale := decimalScale p
  let found := (List.range 17).findSome? fun n : Nat => onGrid tie p (scale - (n + 1 : Nat))
  (found.getD (exact p)).withoutTrailingZeros

end FormWizard.Decimal
