import FormWizard.Decimal.Shortest
import Mathlib.Algebra.Order.Field.Basic
import Mathlib.Algebra.Order.Field.Rat
import Mathlib.Order.Compare
import Mathlib.Tactic.FieldSimp
import Mathlib.Tactic.NormNum
import Mathlib.Tactic.Positivity
import Mathlib.Tactic.Ring

/-! Which double a decimal is nearest to. The decimals nearest to one double are not nearest to any
other, and the shortest decimal of a double is nearest to it.
-/

namespace FormWizard.Decimal

open Binary64 (Parts)

/-- The number that a decimal stands for. -/
def value (d : Decimal) : ℚ :=
  d.digits * 10 ^ d.exponent

-----------------------------------------------------------------------------------------
-- Comparing with binary numbers
-----------------------------------------------------------------------------------------

/-- A power with a whole exponent, without division. -/
theorem zpow_mul_pow_neg {base : ℚ} (nonzero : base ≠ 0) (exponent : ℤ)
    : base ^ exponent * base ^ (-exponent).toNat = base ^ exponent.toNat := by
  rw [← zpow_natCast, ← zpow_natCast, ← zpow_add₀ nonzero]
  congr 1
  omega

/-- What the comparison multiplies both sides by, to make them whole. -/
def clearing (d : Decimal) (k : ℤ) : ℚ :=
  10 ^ (-d.exponent).toNat * 2 ^ (-k).toNat

theorem clearing_pos (d : Decimal) (k : ℤ) : 0 < clearing d k := by
  unfold clearing
  positivity

theorem cast_decimal_side (d : Decimal) (k : ℤ)
    : ((d.digits * Nat.pow 10 d.exponent.toNat * Nat.pow 2 (-k).toNat : ℕ) : ℚ)
      = d.value * clearing d k := by
  simp only [Nat.pow_eq, Nat.cast_mul, Nat.cast_pow, Nat.cast_ofNat, value, clearing,
    ← zpow_mul_pow_neg (by norm_num : (10 : ℚ) ≠ 0) d.exponent]
  ring

theorem cast_binary_side (d : Decimal) (n : ℕ) (k : ℤ)
    : ((n * Nat.pow 2 k.toNat * Nat.pow 10 (-d.exponent).toNat : ℕ) : ℚ)
      = n * 2 ^ k * clearing d k := by
  simp only [Nat.pow_eq, Nat.cast_mul, Nat.cast_pow, Nat.cast_ofNat, clearing,
    ← zpow_mul_pow_neg (by norm_num : (2 : ℚ) ≠ 0) k]
  ring

theorem compareBinary_eq_gt_iff {d : Decimal} {n : ℕ} {k : ℤ}
    : compareBinary d n k = .gt ↔ n * 2 ^ k < d.value := by
  rw [compareBinary, compare_gt_iff_gt, ← Nat.cast_lt (α := ℚ), cast_decimal_side,
    cast_binary_side, mul_lt_mul_iff_of_pos_right (clearing_pos d k)]

theorem compareBinary_eq_lt_iff {d : Decimal} {n : ℕ} {k : ℤ}
    : compareBinary d n k = .lt ↔ d.value < n * 2 ^ k := by
  rw [compareBinary, compare_lt_iff_lt, ← Nat.cast_lt (α := ℚ), cast_decimal_side,
    cast_binary_side, mul_lt_mul_iff_of_pos_right (clearing_pos d k)]

theorem compareBinary_eq_eq_iff {d : Decimal} {n : ℕ} {k : ℤ}
    : compareBinary d n k = .eq ↔ d.value = n * 2 ^ k := by
  rw [compareBinary, compare_eq_iff_eq, ← Nat.cast_inj (R := ℚ), cast_decimal_side,
    cast_binary_side, mul_left_inj' (clearing_pos d k).ne']

-----------------------------------------------------------------------------------------
-- The numbers nearest to a double
-----------------------------------------------------------------------------------------

/-- Parts that a double can have. -/
def IsDouble (p : Parts) : Prop :=
  -1074 ≤ p.exponent ∧ p.significand < 2 ^ 53
  ∧ (p.significand < 2 ^ 52 → p.exponent = -1074)

/-- Where the numbers nearest to a double begin, in quarters of its last place. -/
def quartersBelow (p : Parts) : ℕ :=
  4 * p.significand - (if narrowBelow p then 1 else 2)

/-- Where the numbers nearest to a double end, in quarters of its last place. -/
def quartersAbove (p : Parts) : ℕ :=
  4 * p.significand + 2

/-- A number is nearest to the given double: it lies between the middles to the neighbours, or on
one of them and the significand is even.
-/
structure IsNearest (p : Parts) (v : ℚ) : Prop where
  below : quartersBelow p * 2 ^ (p.exponent - 2) < v
    ∨ p.significand % 2 = 0 ∧ v = quartersBelow p * 2 ^ (p.exponent - 2)
  above : v < quartersAbove p * 2 ^ (p.exponent - 2)
    ∨ p.significand % 2 = 0 ∧ v = quartersAbove p * 2 ^ (p.exponent - 2)

/-- A decimal that reads back as a double is nearest to it. -/
theorem isNearest_of_readsBack {p : Parts} {d : Decimal} (h : readsBack p d = true)
    : IsNearest p d.value := by
  simp only [readsBack, Bool.and_eq_true, Bool.or_eq_true, beq_iff_eq, compareBinary_eq_gt_iff,
    compareBinary_eq_lt_iff, compareBinary_eq_eq_iff] at h
  exact ⟨h.1, h.2⟩

/-- The numbers nearest to one double end where those nearest to a greater one begin, or before.
If they touch, one of the significands is odd.
-/
theorem quarters_le {p q : Parts} (hp : IsDouble p) (hq : IsDouble q) (k : ℕ)
    (exponents : q.exponent = p.exponent + k) (order : 0 < k ∨ p.significand < q.significand)
    : quartersAbove p ≤ quartersBelow q * 2 ^ k
      ∧ (p.significand % 2 = 0 → q.significand % 2 = 0
        → quartersAbove p < quartersBelow q * 2 ^ k) := by
  obtain ⟨hp, hp', -⟩ := hp
  obtain ⟨-, -, hq⟩ := hq
  have narrow : narrowBelow q = true ↔ q.significand = 4503599627370496 ∧ -1074 < q.exponent := by
    simp [narrowBelow]
  simp only [quartersAbove, quartersBelow]
  cases k with
  | zero =>
      have order : p.significand < q.significand := by simpa using order
      split <;> omega
  | succ k =>
      have double : 2 * (4 * q.significand - (if narrowBelow q then 1 else 2))
          ≤ (4 * q.significand - (if narrowBelow q then 1 else 2)) * 2 ^ (k + 1) := by
        rw [Nat.mul_comm 2]
        exact Nat.mul_le_mul_left _ (Nat.le_self_pow k.succ_ne_zero 2)
      revert double
      generalize (4 * q.significand - (if narrowBelow q then 1 else 2)) * 2 ^ (k + 1) = bound
      split
      · omega
      · rename_i wide
        rw [narrow] at wide
        omega

/-- No number is nearest to two doubles of which one is greater. -/
theorem IsNearest.not_of_lt {p q : Parts} {v : ℚ} (hp : IsDouble p) (hq : IsDouble q) (k : ℕ)
    (exponents : q.exponent = p.exponent + k) (order : 0 < k ∨ p.significand < q.significand)
    (left : IsNearest p v) (right : IsNearest q v)
    : False := by
  obtain ⟨le, lt⟩ := quarters_le hp hq k exponents order
  have scale : (2 : ℚ) ^ (q.exponent - 2) = 2 ^ k * 2 ^ (p.exponent - 2) := by
    rw [← zpow_natCast, ← zpow_add₀ (by norm_num), exponents]
    congr 1
    ring
  have unit : (0 : ℚ) < 2 ^ (p.exponent - 2) := zpow_pos (by norm_num) _
  have below := right.below
  rw [scale, ← mul_assoc] at below
  replace le : (quartersAbove p : ℚ) * 2 ^ (p.exponent - 2)
      ≤ quartersBelow q * 2 ^ k * 2 ^ (p.exponent - 2) :=
    mul_le_mul_of_nonneg_right (by exact_mod_cast le) unit.le
  rcases left.above with above | ⟨evenLeft, above⟩ <;>
    rcases below with below | ⟨evenRight, below⟩
  · exact absurd (above.trans_le le) below.not_gt
  · exact absurd (above.trans_le le) below.not_lt
  · exact absurd (above.trans_le le) below.not_ge
  · have apart : (quartersAbove p : ℚ) * 2 ^ (p.exponent - 2)
        < quartersBelow q * 2 ^ k * 2 ^ (p.exponent - 2) :=
      mul_lt_mul_of_pos_right (by exact_mod_cast lt evenLeft evenRight) unit
    exact apart.ne (above.symm.trans below)

/-- A number is nearest to one double only. -/
theorem IsNearest.unique {p q : Parts} {v : ℚ} (hp : IsDouble p) (hq : IsDouble q)
    (left : IsNearest p v) (right : IsNearest q v)
    : p.significand = q.significand ∧ p.exponent = q.exponent := by
  rcases lt_trichotomy p.exponent q.exponent with less | same | more
  · exact (left.not_of_lt hp hq (q.exponent - p.exponent).toNat (by omega) (.inl (by omega))
      right).elim
  · refine ⟨?_, same⟩
    rcases lt_trichotomy p.significand q.significand with less | equal | more
    · exact (left.not_of_lt hp hq 0 (by simp [same]) (.inr less) right).elim
    · exact equal
    · exact (right.not_of_lt hq hp 0 (by simp [same]) (.inr more) left).elim
  · exact (right.not_of_lt hq hp (p.exponent - q.exponent).toNat (by omega) (.inl (by omega))
      left).elim

-----------------------------------------------------------------------------------------
-- The shortest decimal
-----------------------------------------------------------------------------------------

/-- Moving zeros into the exponent does not change the number. -/
theorem value_withoutTrailingZeros (d : Decimal) : d.withoutTrailingZeros.value = d.value := by
  fun_induction withoutTrailingZeros d with
  | case1 d zeros ih =>
      have digits : d.digits = d.digits / 10 * 10 := by omega
      rw [ih, value, value, zpow_add_one₀ (by norm_num)]
      rw [show (d.digits : ℚ) = ((d.digits / 10 : ℕ) : ℚ) * 10 by exact_mod_cast digits]
      ring
  | case2 d => rfl

/-- The exact decimal of a double stands for the double. -/
theorem value_exact (p : Parts) : (exact p).value = p.significand * 2 ^ p.exponent := by
  unfold exact
  split
  · rename_i whole
    have power : (2 : ℚ) ^ p.exponent = 2 ^ p.exponent.toNat := by
      rw [← zpow_natCast, Int.toNat_of_nonneg whole]
    simp [value, power]
  · rename_i fraction
    have power : (5 : ℚ) ^ (-p.exponent).toNat * 10 ^ p.exponent = 2 ^ p.exponent := by
      rw [← zpow_natCast, Int.toNat_of_nonneg (by omega), show (10 : ℚ) = 5 * 2 by norm_num,
        mul_zpow, ← mul_assoc, ← zpow_add₀ (by norm_num)]
      simp
    simp [value, ← power]
    ring

theorem isNearest_self {p : Parts} (positive : 0 < p.significand)
    : IsNearest p (p.significand * 2 ^ p.exponent) := by
  have unit : (0 : ℚ) < 2 ^ (p.exponent - 2) := zpow_pos (by norm_num) _
  have quarters : (p.significand : ℚ) * 2 ^ p.exponent
      = (4 * p.significand : ℕ) * 2 ^ (p.exponent - 2) := by
    rw [zpow_sub₀ (by norm_num)]
    push_cast
    ring
  rw [quarters]
  refine ⟨.inl (mul_lt_mul_of_pos_right ?_ unit), .inl (mul_lt_mul_of_pos_right ?_ unit)⟩
  · have less : quartersBelow p < 4 * p.significand := by
      unfold quartersBelow
      split <;> omega
    exact_mod_cast less
  · have less : 4 * p.significand < quartersAbove p := by
      unfold quartersAbove
      omega
    exact_mod_cast less

/-- What is found on a grid reads back. -/
theorem readsBack_of_onGrid {tie : Tie} {p : Parts} {exponent : ℤ} {d : Decimal}
    (h : onGrid tie p exponent = some d)
    : readsBack p d = true := by
  unfold onGrid at h
  revert h
  simp only
  split
  · simp
  · rintro ⟨⟩
    assumption
  · rintro ⟨⟩
    assumption
  · split
    · rintro ⟨⟩
      assumption
    · rintro ⟨⟩
      assumption
    · rintro ⟨⟩
      assumption
    · split <;> rintro ⟨⟩ <;> assumption

/-- The shortest decimal of a positive double is nearest to it. -/
theorem isNearest_shortest (tie : Tie) {p : Parts} (positive : 0 < p.significand)
    : IsNearest p (shortest tie p).value := by
  rw [shortest, value_withoutTrailingZeros]
  cases found : (List.range 17).findSome? fun n : Nat =>
      onGrid tie p (decimalScale p - (n + 1 : Nat)) with
  | none =>
      rw [Option.getD_none, value_exact]
      exact isNearest_self positive
  | some d =>
      obtain ⟨_, -, onGrid⟩ := List.exists_of_findSome?_eq_some found
      exact isNearest_of_readsBack (readsBack_of_onGrid onGrid)

end FormWizard.Decimal
