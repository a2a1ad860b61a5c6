import FormWizard.Decimal.Layout
import FormWizard.Decimal.Reader
import FormWizard.Proofs.Decimal.Nearest
import FormWizard.Proofs.Text.Numerals

/-! A decimal is read back as the number that was written, in whatever style. So two doubles that
are written alike are the same.
-/

namespace FormWizard

namespace Decimal

open Text (digitsValue naturalDigits)

-----------------------------------------------------------------------------------------
-- Reading numerals
-----------------------------------------------------------------------------------------

/-- A numeral with a point and at least one digit in front of it. -/
theorem unsigned?_point (front back rest : List Char) (nonempty : front ≠ [])
    (frontDigits : ∀ c ∈ front, c.isDigit = true) (backDigits : ∀ c ∈ back, c.isDigit = true)
    (stop : ∀ c ∈ rest.head?, c.isDigit = false)
    : unsigned? (front ++ '.' :: (back ++ rest))
      = (exponent? rest).map fun exponent =>
          ⟨digitsValue (front ++ back), exponent - back.length⟩ := by
  have first := Text.spanDigits_append frontDigits
    (by simp : ∀ c ∈ ('.' :: (back ++ rest)).head?, c.isDigit = false)
  simp [unsigned?, first, Text.spanDigits_append backDigits stop, nonempty]

/-- A numeral without a point. -/
theorem unsigned?_plain {front rest : List Char} (nonempty : front ≠ [])
    (frontDigits : ∀ c ∈ front, c.isDigit = true)
    (stop : ∀ c ∈ rest.head?, c.isDigit = false ∧ c ≠ '.')
    : unsigned? (front ++ rest)
      = (exponent? rest).map fun exponent => ⟨digitsValue front, exponent⟩ := by
  have first := Text.spanDigits_append frontDigits fun c member => (stop c member).1
  have noPoint (after : List Char) : rest ≠ '.' :: after := by
    rintro rfl
    exact (stop '.' rfl).2 rfl
  have filled : front.isEmpty = false := List.isEmpty_eq_false_iff.mpr nonempty
  simp only [unsigned?, first, filled, Bool.false_and, Bool.false_eq_true, if_false]
  simp

/-- An exponent behind its sign. -/
theorem exponent?_written (style : Style) (exponent : ℤ)
    : exponent? ('e' :: (if exponent < 0 then ['-'] else if style.plusSign then ['+'] else [])
        ++ naturalDigits exponent.natAbs) = some exponent := by
  have nonempty : (naturalDigits exponent.natAbs).isEmpty = false :=
    List.isEmpty_eq_false_iff.mpr (Text.naturalDigits_ne_nil _)
  have digits : (naturalDigits exponent.natAbs).all Char.isDigit = true :=
    List.all_eq_true.mpr fun _ => Text.isDigit_of_mem_naturalDigits
  have read := Text.digitsValue_naturalDigits exponent.natAbs
  split
  · rename_i negative
    simp only [exponent?, List.cons_append, List.nil_append, spanSign]
    simp [nonempty, digits, read, abs_of_neg negative]
  · split
    · simp only [exponent?, List.cons_append, List.nil_append, spanSign]
      simp [nonempty, digits, read]
      omega
    · have unsigned : spanSign (naturalDigits exponent.natAbs)
          = (false, naturalDigits exponent.natAbs) := by
        unfold spanSign
        split
        · exact (Text.naturalDigits_ne_cons (c := '-') (by decide) _ _ ‹_›).elim
        · exact (Text.naturalDigits_ne_cons (c := '+') (by decide) _ _ ‹_›).elim
        · rfl
      simp only [exponent?, List.cons_append, List.nil_append, unsigned]
      simp [nonempty, digits, read]
      omega

-----------------------------------------------------------------------------------------
-- Reading what is written
-----------------------------------------------------------------------------------------

/-- A decimal that is written positionally is read as the same number. -/
theorem unsigned?_positional (d : Decimal)
    : ∃ read, read.value = d.value
        ∧ unsigned? (positional (naturalDigits d.digits)
            ((naturalDigits d.digits).length + d.exponent)) = some read := by
  have digit (c : Char) : c ∈ naturalDigits d.digits → c.isDigit = true :=
    Text.isDigit_of_mem_naturalDigits
  have zero (count : ℕ) (c : Char) (member : c ∈ List.replicate count '0') : c.isDigit = true := by
    rw [List.eq_of_mem_replicate member]
    decide
  have nonempty := Text.naturalDigits_ne_nil d.digits
  unfold positional
  split
  · rename_i whole
    -- The zeros and the one behind the point belong to the digits that are read.
    obtain ⟨zeros, exponent⟩ := Int.eq_ofNat_of_zero_le (by omega : 0 ≤ d.exponent)
    have count : ((naturalDigits d.digits).length + d.exponent
        - (naturalDigits d.digits).length).toNat = zeros := by
      omega
    have digits : digitsValue (naturalDigits d.digits ++ List.replicate zeros '0'
        ++ List.replicate 1 '0') = d.digits * 10 ^ zeros * 10 := by
      simp only [Text.digitsValue_append_zeros, Text.digitsValue_naturalDigits, pow_one]
    have read := unsigned?_point (naturalDigits d.digits ++ List.replicate zeros '0')
      (List.replicate 1 '0') [] (List.append_ne_nil_of_left_ne_nil nonempty _)
      (fun c member => (List.mem_append.mp member).elim (digit c) (zero zeros c)) (zero 1)
      (by simp)
    rw [List.append_nil, digits] at read
    refine ⟨⟨d.digits * 10 ^ zeros * 10, -1⟩, ?_, by rw [count]; exact read⟩
    simp [value, exponent]
  · split
    · generalize places : ((naturalDigits d.digits).length + d.exponent).toNat = split
      have read := unsigned?_point ((naturalDigits d.digits).take split)
        ((naturalDigits d.digits).drop split) []
        (by rw [Ne, List.take_eq_nil_iff, not_or]; exact ⟨by omega, nonempty⟩)
        (fun c front => digit c (List.mem_of_mem_take front))
        (fun c back => digit c (List.mem_of_mem_drop back)) (by simp)
      rw [List.append_nil, List.take_append_drop, Text.digitsValue_naturalDigits] at read
      refine ⟨d, rfl, read.trans ?_⟩
      simp only [exponent?, Option.map_some, List.length_drop]
      congr 2
      omega
    · generalize zeros : (-((naturalDigits d.digits).length + d.exponent)).toNat = count
      have read := unsigned?_point ['0'] (List.replicate count '0' ++ naturalDigits d.digits) []
        (by simp) (by simp)
        (fun c member => (List.mem_append.mp member).elim (zero count c) (digit c)) (by simp)
      have digits : digitsValue (['0'] ++ (List.replicate count '0' ++ naturalDigits d.digits))
          = d.digits := by
        exact (Text.digitsValue_zeros_append (count + 1) _).trans
          (Text.digitsValue_naturalDigits d.digits)
      rw [List.append_nil, digits] at read
      refine ⟨d, rfl, read.trans ?_⟩
      simp only [exponent?, Option.map_some, List.length_append, List.length_replicate]
      congr 2
      omega

/-- Digits of which the first stands before the point, in front of an exponent. -/
theorem unsigned?_mantissa {digits tail : List Char} {exponent : ℤ} (nonempty : digits ≠ [])
    (digit : ∀ c ∈ digits, c.isDigit = true) (marked : exponent? tail = some exponent)
    (stop : ∀ c ∈ tail.head?, c = 'e')
    : unsigned? (mantissa digits ++ tail)
      = some ⟨digitsValue digits, exponent - (digits.length - 1 : ℕ)⟩ := by
  match digits with
  | [] => exact absurd rfl nonempty
  | [first] =>
      have read := unsigned?_plain nonempty digit (fun c member => by
        rw [stop c member]
        exact ⟨by decide, by decide⟩)
      rw [marked] at read
      simpa [mantissa] using read
  | first :: second :: rest =>
      have read := unsigned?_point [first] (second :: rest) tail (by simp)
        (fun c member => digit c (by simp_all))
        (fun c member => digit c (List.mem_cons_of_mem _ member))
        (fun c member => by rw [stop c member]; decide)
      rw [marked] at read
      exact read

/-- A decimal that is written with an exponent is read as it is. -/
theorem unsigned?_scientific (style : Style) (d : Decimal)
    : unsigned? (scientific style (naturalDigits d.digits)
        ((naturalDigits d.digits).length + d.exponent - 1)) = some d := by
  have nonempty := Text.naturalDigits_ne_nil d.digits
  have read := unsigned?_mantissa nonempty (fun _ => Text.isDigit_of_mem_naturalDigits)
    (exponent?_written style ((naturalDigits d.digits).length + d.exponent - 1)) (by simp)
  have length := List.length_pos_iff.mpr nonempty
  rw [scientific, List.append_assoc, read, Text.digitsValue_naturalDigits]
  congr 2
  omega

/-- Whatever the style, a decimal that is written is read as the same number. -/
theorem unsigned?_layOut (style : Style) (d : Decimal)
    : ∃ read, read.value = d.value ∧ unsigned? (layOut style d) = some read := by
  unfold layOut
  simp only
  split
  · exact unsigned?_positional d
  · exact ⟨d, rfl, unsigned?_scientific style d⟩

-----------------------------------------------------------------------------------------
-- Doubles that are written alike
-----------------------------------------------------------------------------------------

theorem isDouble_parts (x : Float) : IsDouble (Binary64.parts x) := by
  have fraction : Binary64.fractionField x < 2 ^ 52 := Nat.mod_lt _ (by norm_num)
  simp only [IsDouble, Binary64.parts, Nat.pow_eq]
  split <;> omega

/-- The bits of a double are its sign and its two fields. -/
theorem toNat_toBits (x : Float)
    : x.toBits.toNat
      = (if (Binary64.parts x).negative then 2 ^ 63 else 0) + Binary64.exponentField x * 2 ^ 52
        + Binary64.fractionField x := by
  have small := x.toBits.toNat_lt
  simp only [Binary64.parts, Binary64.exponentField, Binary64.fractionField, Nat.pow_eq,
    decide_eq_true_eq]
  split <;> omega

/-- A double is determined by its parts. -/
theorem parts_injective : Function.Injective Binary64.parts := by
  intro x y same
  have fraction : Binary64.fractionField x < 2 ^ 52 := Nat.mod_lt _ (by norm_num)
  have otherFraction : Binary64.fractionField y < 2 ^ 52 := Nat.mod_lt _ (by norm_num)
  have significand := congrArg Binary64.Parts.significand same
  have exponent := congrArg Binary64.Parts.exponent same
  have fields : Binary64.exponentField x = Binary64.exponentField y
      ∧ Binary64.fractionField x = Binary64.fractionField y := by
    simp only [Binary64.parts, Nat.pow_eq] at significand exponent
    split at exponent <;> split at exponent
    all_goals simp_all
    omega
  have bits : x.toBits = y.toBits := by
    rw [← UInt64.toNat_inj, toNat_toBits, toNat_toBits, same, fields.1, fields.2]
  obtain ⟨⟨_, _⟩⟩ := x
  obtain ⟨⟨_, _⟩⟩ := y
  cases bits
  rfl

/-- The size of a double is read as a number nearest to it. -/
theorem unsigned?_size (style : Style) (x : Float)
    : ∃ read, IsNearest (Binary64.parts x) read.value
        ∧ unsigned? (size style (Binary64.parts x)) = some read := by
  unfold size
  split
  · rename_i zero
    refine ⟨⟨0, -1⟩, ?_, by decide⟩
    have below : quartersBelow (Binary64.parts x) = 0 := by simp [quartersBelow, zero]
    have above : quartersAbove (Binary64.parts x) = 2 := by simp [quartersAbove, zero]
    refine ⟨.inr ⟨by simp [zero], by simp [value, below]⟩, .inl ?_⟩
    rw [above]
    simpa [value] using zpow_pos (by norm_num : (0 : ℚ) < 2) _
  · rename_i nonzero
    obtain ⟨read, same, reads⟩ :=
      unsigned?_layOut style (shortest style.tie (Binary64.parts x))
    exact ⟨read, same ▸ isNearest_shortest _ (by omega), reads⟩

/-- No size starts with a sign. -/
theorem size_ne_minus (style : Style) (x : Float) (rest : List Char)
    : size style (Binary64.parts x) ≠ '-' :: rest := by
  intro same
  obtain ⟨read, -, reads⟩ := unsigned?_size style x
  simp [same, unsigned?, Text.spanDigits] at reads

attribute [ext] Binary64.Parts

/-- Doubles of the same size differ at most in their signs. -/
theorem parts_eq_of_size_eq {style : Style} {x y : Float}
    (sign : (Binary64.parts x).negative = (Binary64.parts y).negative)
    (same : size style (Binary64.parts x) = size style (Binary64.parts y))
    : x = y := by
  obtain ⟨read, nearest, reads⟩ := unsigned?_size style x
  obtain ⟨otherRead, otherNearest, otherReads⟩ := unsigned?_size style y
  rw [same, otherReads] at reads
  cases reads
  obtain ⟨significand, exponent⟩ :=
    nearest.unique (isDouble_parts x) (isDouble_parts y) otherNearest
  exact parts_injective (Binary64.Parts.ext sign significand exponent)

/-- Doubles that are written alike are the same. -/
theorem written_injective (style : Style) : Function.Injective (written style) := by
  intro x y same
  replace same := String.ofList_injective same
  split at same <;> split at same
  · exact parts_eq_of_size_eq (by simp_all) (List.cons.inj same).2
  · exact (size_ne_minus style y _ same.symm).elim
  · exact (size_ne_minus style x _ same).elim
  · exact parts_eq_of_size_eq (by simp_all) same

end Decimal

end FormWizard
