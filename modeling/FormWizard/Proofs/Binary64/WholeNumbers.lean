import FormWizard.Binary64.Rounding
import FormWizard.Proofs.Decimal.Reading
import Mathlib

/-! Whole numbers of a machine word as doubles. The nearest double is the whole number rounded to
fifty-three binary digits; so two of them have equal doubles exactly if they are rounded alike, and
those of fewer digits are exact. The lemmas on `Float` that this needs come with the whole library
only, not with any module of it.
-/

namespace FormWizard.Binary64

-----------------------------------------------------------------------------------------
-- Rounding
-----------------------------------------------------------------------------------------

theorem div_le_roundHalfEven (num den : ℕ) : num / den ≤ roundHalfEven num den := by
  simp only [roundHalfEven]
  split <;> omega

theorem roundHalfEven_le (num den : ℕ) : roundHalfEven num den ≤ num / den + 1 := by
  simp only [roundHalfEven]
  split <;> omega

theorem roundHalfEven_one (num : ℕ) : roundHalfEven num 1 = num := by
  simp [roundHalfEven, Nat.mod_one]

/-- The weight of the last of the first fifty-three binary digits of a number. -/
def lastPlace (size : ℕ) : ℕ :=
  2 ^ (size.log2 - 52)

/-- The number with fifty-three binary digits that is nearest to a whole number, with an even last
digit if two are.
-/
def rounded (n : ℤ) : ℤ :=
  signed (decide (n < 0)) (roundHalfEven n.natAbs (lastPlace n.natAbs) * lastPlace n.natAbs)

/-- The digits that are kept of a number, as many as a double has. -/
def keptDigits (size : ℕ) : ℕ :=
  roundHalfEven (size * 2 ^ (52 - size.log2)) (lastPlace size)

/-- There are fifty-three of them, but for a carry. -/
theorem keptDigits_bounds {size : ℕ} (positive : 0 < size)
    : 2 ^ 52 ≤ keptDigits size ∧ keptDigits size ≤ 2 ^ 53 := by
  have low : 2 ^ size.log2 ≤ size := Nat.log2_self_le positive.ne'
  have high : size < 2 ^ (size.log2 + 1) := Nat.lt_log2_self
  rcases Nat.le_total size.log2 52 with short | long
  · have scale : 2 ^ size.log2 * 2 ^ (52 - size.log2) = 2 ^ 52 := by
      rw [← pow_add, Nat.add_sub_cancel' short]
    have unit : 0 < 2 ^ (52 - size.log2) := by positivity
    rw [keptDigits, lastPlace, show size.log2 - 52 = 0 by omega, pow_zero, roundHalfEven_one]
    constructor
    · rw [← scale]
      exact Nat.mul_le_mul_right _ low
    · calc size * 2 ^ (52 - size.log2)
        _ ≤ 2 ^ (size.log2 + 1) * 2 ^ (52 - size.log2) := Nat.mul_le_mul_right _ high.le
        _ = 2 ^ 53 := by rw [pow_succ, mul_right_comm, scale, ← pow_succ]
  · have scale : 2 ^ 52 * 2 ^ (size.log2 - 52) = 2 ^ size.log2 := by
      rw [← pow_add, Nat.add_sub_cancel' long]
    have unit : 0 < lastPlace size := by
      unfold lastPlace
      positivity
    have least := div_le_roundHalfEven size (lastPlace size)
    have most := roundHalfEven_le size (lastPlace size)
    rw [keptDigits, show 52 - size.log2 = 0 by omega, pow_zero, mul_one]
    have enough : 2 ^ 52 ≤ size / lastPlace size := by
      rw [Nat.le_div_iff_mul_le unit, lastPlace, scale]
      exact low
    have few : size / lastPlace size < 2 ^ 53 := by
      rw [Nat.div_lt_iff_lt_mul unit, lastPlace, show 2 ^ 53 = 2 ^ 52 * 2 by norm_num,
        mul_right_comm, scale, ← pow_succ]
      exact high
    omega

theorem natAbs_rounded (n : ℤ)
    : (rounded n).natAbs
      = roundHalfEven n.natAbs (lastPlace n.natAbs) * lastPlace n.natAbs := by
  unfold rounded signed
  split
  · exact Int.natAbs_neg _
  · rfl

/-- A rounded number is its kept digits at their places. -/
theorem cast_natAbs_rounded (n : ℤ)
    : ((rounded n).natAbs : ℚ) = keptDigits n.natAbs * 2 ^ ((n.natAbs.log2 : ℤ) - 52) := by
  rw [natAbs_rounded, keptDigits]
  rcases Nat.le_total n.natAbs.log2 52 with short | long
  · have places : (n.natAbs.log2 : ℤ) - 52 = -((52 - n.natAbs.log2 : ℕ) : ℤ) := by omega
    rw [lastPlace, show n.natAbs.log2 - 52 = 0 by omega, pow_zero, roundHalfEven_one,
      roundHalfEven_one, places, zpow_neg, zpow_natCast]
    push_cast
    field_simp
  · have places : (n.natAbs.log2 : ℤ) - 52 = ((n.natAbs.log2 - 52 : ℕ) : ℤ) := by omega
    rw [show 52 - n.natAbs.log2 = 0 by omega, pow_zero, mul_one, lastPlace, places, zpow_natCast]
    push_cast
    rfl

theorem lastPlace_of_lt {size : ℕ} (small : size < 2 ^ 53) : lastPlace size = 1 := by
  by_cases zero : size = 0
  · rw [zero]
    rfl
  · have short : size.log2 < 53 := (Nat.log2_lt zero).mpr small
    rw [lastPlace, show size.log2 - 52 = 0 by omega, pow_zero]

/-- Numbers of at most fifty-three binary digits are kept as they are. -/
theorem rounded_of_lt {n : ℤ} (small : n.natAbs < 2 ^ 53) : rounded n = n := by
  rw [rounded, lastPlace_of_lt small, roundHalfEven_one, mul_one, signed]
  simp only [decide_eq_true_eq]
  split <;> omega

theorem rounded_ne_zero {n : ℤ} (nonzero : n ≠ 0) : rounded n ≠ 0 := by
  intro zero
  obtain ⟨least, -⟩ := keptDigits_bounds (Int.natAbs_pos.mpr nonzero)
  have size := cast_natAbs_rounded n
  rw [zero, Int.natAbs_zero, Nat.cast_zero, eq_comm, mul_eq_zero] at size
  rcases size with none | none
  · have none : keptDigits n.natAbs = 0 := by exact_mod_cast none
    omega
  · exact zpow_ne_zero _ (by norm_num) none

/-- Rounding keeps the sign. -/
theorem rounded_neg_iff {n : ℤ} : rounded n < 0 ↔ n < 0 := by
  by_cases negative : n < 0
  · have nonzero := rounded_ne_zero negative.ne
    have size : rounded n = -(rounded n).natAbs := by
      rw [natAbs_rounded, rounded, decide_eq_true negative, signed, if_pos rfl]
    omega
  · have size : rounded n = (rounded n).natAbs := by
      rw [natAbs_rounded, rounded, decide_eq_false negative, signed, if_neg (by simp)]
    omega

/-- Rounding keeps the longer numbers long. -/
theorem le_natAbs_rounded {n : ℤ} (large : 2 ^ 53 ≤ n.natAbs) : 2 ^ 53 ≤ (rounded n).natAbs := by
  have long : 53 ≤ n.natAbs.log2 := (Nat.le_log2 (by omega)).mpr large
  obtain ⟨least, -⟩ := keptDigits_bounds (by omega : 0 < n.natAbs)
  have place : 2 ≤ lastPlace n.natAbs := by
    calc 2
      _ = 2 ^ 1 := rfl
      _ ≤ 2 ^ (n.natAbs.log2 - 52) := Nat.pow_le_pow_right (by norm_num) (by omega)
  rw [keptDigits, show 52 - n.natAbs.log2 = 0 by omega, pow_zero, mul_one] at least
  rw [natAbs_rounded, show 2 ^ 53 = 2 ^ 52 * 2 by norm_num]
  exact Nat.mul_le_mul least place

-----------------------------------------------------------------------------------------
-- Bits
-----------------------------------------------------------------------------------------

/-- Bits whose exponent field is not that of infinity are the bits of their double. -/
theorem toBits_ofBits {bits : UInt64} (finite : bits.toNat / 2 ^ 52 % 2 ^ 11 ≠ 2047)
    : (Float.ofBits bits).toBits = bits := by
  have number : @Float.Model.UnpackedFloat.isNaNBits .binary64 bits.toBitVec = false := by
    simp only [Float.Model.UnpackedFloat.isNaNBits, decide_eq_false_iff_not, not_and]
    intro full
    replace full := congrArg BitVec.toNat full
    rw [Float.Model.UnpackedFloat.unpackExponent_def] at full
    simp only [BitVec.extractLsb'_toNat, UInt64.toNat_toBitVec, Nat.shiftRight_eq_div_pow,
      BitVec.reduceNeg, BitVec.toNat_ofNat, Nat.reducePow, Nat.mod_succ] at full
    exact (finite full).elim
  have packed := @Float.Model.UnpackedFloat.pack_unpack .binary64 bits.toBitVec
  rw [number] at packed
  exact UInt64.toBitVec_inj.mp packed

theorem binaryScale_one {size : ℕ} (positive : 0 < size) : binaryScale size 1 = size.log2 := by
  have low : 2 ^ size.log2 ≤ size := Nat.log2_self_le positive.ne'
  have unit : Nat.log2 1 = 0 := rfl
  simp [binaryScale, low, unit]

/-- The bits of the double nearest to a whole number: its kept digits behind its exponent, which a
carry among the digits increases.
-/
theorem nearestBits_one {size : ℕ} (positive : 0 < size) (small : size < 2 ^ 64)
    : nearestBits size 1 = (size.log2 + 1022) * 2 ^ 52 + keptDigits size := by
  have short : size.log2 < 64 := (Nat.log2_lt positive.ne').mpr small
  obtain ⟨-, most⟩ := keptDigits_bounds positive
  have exponent : max (binaryScale size 1 - 52) (-1074) = (size.log2 : ℤ) - 52 := by
    rw [binaryScale_one positive]
    omega
  have up : (-((size.log2 : ℤ) - 52)).toNat = 52 - size.log2 := by omega
  have down : ((size.log2 : ℤ) - 52).toNat = size.log2 - 52 := by omega
  have shifted : ((size.log2 : ℤ) - 52 + 1074).toNat = size.log2 + 1022 := by omega
  simp only [nearestBits, exponent, up, down, shifted, Nat.pow_eq, Nat.one_mul]
  rw [← lastPlace, ← keptDigits]
  omega

/-- The bits of a whole number's double. -/
theorem toBits_ofInt {n : ℤ} (nonzero : n ≠ 0) (small : n.natAbs < 2 ^ 64)
    : (ofInt n).toBits.toNat
      = (if n < 0 then 2 ^ 63 else 0)
        + ((n.natAbs.log2 + 1022) * 2 ^ 52 + keptDigits n.natAbs) := by
  have positive : 0 < n.natAbs := Int.natAbs_pos.mpr nonzero
  have short : n.natAbs.log2 < 64 := (Nat.log2_lt positive.ne').mpr small
  obtain ⟨least, most⟩ := keptDigits_bounds positive
  have bits : ofInt n = Float.ofBits (UInt64.ofNat ((if n < 0 then 2 ^ 63 else 0)
      + ((n.natAbs.log2 + 1022) * 2 ^ 52 + keptDigits n.natAbs))) := by
    simp only [ofInt, nearest, positive.ne', if_false, nearestBits_one positive small,
      decide_eq_true_eq, Nat.pow_eq]
  have fits : ((if n < 0 then 2 ^ 63 else 0)
      + ((n.natAbs.log2 + 1022) * 2 ^ 52 + keptDigits n.natAbs)) % 2 ^ 64
      = (if n < 0 then 2 ^ 63 else 0)
        + ((n.natAbs.log2 + 1022) * 2 ^ 52 + keptDigits n.natAbs) := by
    split <;> omega
  rw [bits, toBits_ofBits]
  · rw [UInt64.toNat_ofNat', fits]
  · rw [UInt64.toNat_ofNat', fits]
    split <;> omega

/-- A whole number's double is finite. A carry among the kept digits goes into its exponent. -/
theorem parts_ofInt {n : ℤ} (nonzero : n ≠ 0) (small : n.natAbs < 2 ^ 64)
    : isFinite (ofInt n) = true
      ∧ parts (ofInt n) = ⟨decide (n < 0), 2 ^ 52 + keptDigits n.natAbs % 2 ^ 52,
          n.natAbs.log2 - 53 + (keptDigits n.natAbs / 2 ^ 52 : ℕ)⟩ := by
  have positive : 0 < n.natAbs := Int.natAbs_pos.mpr nonzero
  have short : n.natAbs.log2 < 64 := (Nat.log2_lt positive.ne').mpr small
  obtain ⟨least, most⟩ := keptDigits_bounds positive
  have bits := toBits_ofInt nonzero small
  have exponent : exponentField (ofInt n)
      = n.natAbs.log2 + 1022 + keptDigits n.natAbs / 2 ^ 52 := by
    simp only [exponentField, bits, Nat.pow_eq]
    split <;> omega
  have fraction : fractionField (ofInt n) = keptDigits n.natAbs % 2 ^ 52 := by
    simp only [fractionField, bits, Nat.pow_eq]
    split <;> omega
  have sign : 2 ^ 63 ≤ (ofInt n).toBits.toNat ↔ n < 0 := by
    rw [bits]
    split <;> omega
  have normal : exponentField (ofInt n) ≠ 0 := by omega
  have scale : (exponentField (ofInt n) : ℤ) - 1075
      = n.natAbs.log2 - 53 + (keptDigits n.natAbs / 2 ^ 52 : ℕ) := by
    omega
  constructor
  · simp only [isFinite, exponent, bne_iff_ne]
    omega
  · rw [parts, if_neg normal, if_neg normal, fraction, scale]
    congr 1
    exact decide_eq_decide.mpr sign

theorem isFinite_ofInt {n : ℤ} (small : n.natAbs < 2 ^ 64) : isFinite (ofInt n) = true := by
  by_cases zero : n = 0
  · rw [zero]
    rfl
  · exact (parts_ofInt zero small).1

theorem negative_parts_ofInt {n : ℤ} (small : n.natAbs < 2 ^ 64)
    : (parts (ofInt n)).negative = decide (n < 0) := by
  by_cases zero : n = 0
  · rw [zero]
    rfl
  · rw [(parts_ofInt zero small).2]

/-- What a whole number's double stands for: the number, rounded. -/
theorem size_parts_ofInt {n : ℤ} (small : n.natAbs < 2 ^ 64)
    : ((parts (ofInt n)).significand : ℚ) * 2 ^ (parts (ofInt n)).exponent
      = (rounded n).natAbs := by
  by_cases zero : n = 0
  · have none : (parts (ofInt 0)).significand = 0 := rfl
    rw [zero, none, rounded_of_lt (by decide)]
    simp
  obtain ⟨least, most⟩ := keptDigits_bounds (Int.natAbs_pos.mpr zero)
  rw [cast_natAbs_rounded, (parts_ofInt zero small).2]
  dsimp only
  rcases most.lt_or_eq with less | carry
  · have digits : 2 ^ 52 + keptDigits n.natAbs % 2 ^ 52 = keptDigits n.natAbs := by omega
    rw [digits, show keptDigits n.natAbs / 2 ^ 52 = 1 by omega]
    congr 2
    omega
  · rw [carry, show (n.natAbs.log2 : ℤ) - 53 + (2 ^ 53 / 2 ^ 52 : ℕ) = n.natAbs.log2 - 52 + 1 by
      norm_num; ring, zpow_add_one₀ (by norm_num)]
    push_cast
    ring

-----------------------------------------------------------------------------------------
-- Equality
-----------------------------------------------------------------------------------------

/-- A finite double that stands for a whole number is one. -/
theorem whole?_of_size {x : Float} {size : ℕ} (finite : isFinite x = true)
    (whole : ((parts x).significand : ℚ) * 2 ^ (parts x).exponent = size)
    : whole? x = some (signed (parts x).negative size) := by
  have fraction : (parts x).fraction.1 = size * (parts x).fraction.2 := by
    have cleared : ((parts x).significand : ℚ) * 2 ^ (parts x).exponent.toNat
        = size * 2 ^ (-(parts x).exponent).toNat := by
      rw [← whole, mul_assoc, Decimal.zpow_mul_pow_neg (by norm_num)]
    simp only [Parts.fraction, Nat.pow_eq]
    exact_mod_cast cleared
  have positive : 0 < (parts x).fraction.2 := by
    simp [Parts.fraction]
  simp [whole?, truncated, finite, fraction, positive]

theorem whole?_ofInt {n : ℤ} (small : n.natAbs < 2 ^ 64) : whole? (ofInt n) = some (rounded n) := by
  rw [whole?_of_size (isFinite_ofInt small) (size_parts_ofInt small), negative_parts_ofInt small,
    natAbs_rounded, rounded]

/-- Either zero stands for zero. -/
theorem whole?_zero : whole? 0 = some 0 ∧ whole? (-0) = some 0 :=
  ⟨@whole?_of_size 0 0 rfl (by simp [show (parts 0).significand = 0 from rfl]),
    @whole?_of_size (-0) 0 rfl (by simp [show (parts (-0)).significand = 0 from rfl])⟩

theorem ofInt_ne_nan {n : ℤ} (small : n.natAbs < 2 ^ 64) : ofInt n ≠ Float.nan := by
  intro same
  have finite := isFinite_ofInt small
  rw [same] at finite
  exact absurd finite (by decide)

/-- A double other than zero is determined by its sign and its exact size. -/
theorem eq_of_size_eq {x y : Float} (sign : (parts x).negative = (parts y).negative)
    (size : ((parts x).significand : ℚ) * 2 ^ (parts x).exponent
      = (parts y).significand * 2 ^ (parts y).exponent)
    (nonzero : ((parts x).significand : ℚ) * 2 ^ (parts x).exponent ≠ 0)
    : x = y := by
  have positive (z : Float) (nonzero : ((parts z).significand : ℚ) * 2 ^ (parts z).exponent ≠ 0)
      : 0 < (parts z).significand :=
    Nat.pos_of_ne_zero fun none => nonzero (by rw [none, Nat.cast_zero, zero_mul])
  have near := Decimal.isNearest_self (positive x nonzero)
  have otherNear := Decimal.isNearest_self (positive y (size ▸ nonzero))
  rw [← size] at otherNear
  obtain ⟨significand, exponent⟩ :=
    near.unique (Decimal.isDouble_parts x) (Decimal.isDouble_parts y) otherNear
  exact Decimal.parts_injective (Parts.ext sign significand exponent)

/-- Whole numbers that are rounded alike have the same double. -/
theorem ofInt_eq_of_rounded {m n : ℤ} (small : m.natAbs < 2 ^ 64) (otherSmall : n.natAbs < 2 ^ 64)
    (same : rounded m = rounded n)
    : ofInt m = ofInt n := by
  by_cases zero : m = 0
  · by_cases otherZero : n = 0
    · rw [zero, otherZero]
    · rw [zero, rounded_of_lt (by decide)] at same
      exact (rounded_ne_zero otherZero same.symm).elim
  · refine eq_of_size_eq ?_ ?_ ?_
    · rw [negative_parts_ofInt small, negative_parts_ofInt otherSmall]
      exact decide_eq_decide.mpr (by rw [← @rounded_neg_iff m, same, rounded_neg_iff])
    · rw [size_parts_ofInt small, size_parts_ofInt otherSmall, same]
    · rw [size_parts_ofInt small, Nat.cast_ne_zero, Int.natAbs_ne_zero]
      exact rounded_ne_zero zero

/-- Two whole numbers of a machine word have equal doubles exactly if they are rounded alike. -/
theorem ofInt_beq_iff {m n : ℤ} (small : m.natAbs < 2 ^ 64) (otherSmall : n.natAbs < 2 ^ 64)
    : (ofInt m == ofInt n) = true ↔ rounded m = rounded n := by
  rw [Float.beq_iff_ne_nan_and_eq]
  constructor
  · rintro ⟨-, -, equal⟩
    have alike : whole? (ofInt m) = whole? (ofInt n) := by
      rcases equal with same | ⟨first, second⟩ | ⟨first, second⟩
      · rw [same]
      · rw [first, second, whole?_zero.1, whole?_zero.2]
      · rw [first, second, whole?_zero.1, whole?_zero.2]
    rw [whole?_ofInt small, whole?_ofInt otherSmall] at alike
    exact Option.some.inj alike
  · intro same
    exact ⟨ofInt_ne_nan small, ofInt_ne_nan otherSmall,
      .inl (ofInt_eq_of_rounded small otherSmall same)⟩

end FormWizard.Binary64
