import FormWizard.Text.Numeral
import Mathlib.Algebra.Group.Nat.Defs
import Mathlib.Data.List.Basic

/-! What numerals tell of their numbers: they consist of digits, and they are read as the numbers
that they were written for. And a text with a separator in it tells what was put together.
-/

namespace FormWizard.Text

theorem isDigit_iff {c : Char} : c.isDigit = true ↔ 48 ≤ c.toNat ∧ c.toNat ≤ 57 :=
  Bool.and_eq_true_iff.trans (and_congr decide_eq_true_iff decide_eq_true_iff)

/-- A run of certain characters is split off in front of whatever is none of them. -/
theorem span_append {isPart : Char → Bool} {run rest : List Char} (all : ∀ c ∈ run, isPart c = true)
    (stop : ∀ c ∈ rest.head?, isPart c = false)
    : (run ++ rest).takeWhile isPart = run ∧ (run ++ rest).dropWhile isPart = rest := by
  have none : rest.takeWhile isPart = [] ∧ rest.dropWhile isPart = rest := by
    cases rest with
    | nil => simp
    | cons c rest => simp [stop c rfl]
  rw [List.takeWhile_append_of_pos all, List.dropWhile_append_of_pos all, none.1, none.2,
    List.append_nil]
  exact ⟨rfl, rfl⟩

/-- Digits are split off in front of whatever is no digit. -/
theorem spanDigits_append {digits rest : List Char} (all : ∀ c ∈ digits, c.isDigit = true)
    (stop : ∀ c ∈ rest.head?, c.isDigit = false)
    : spanDigits (digits ++ rest) = (digits, rest) := by
  obtain ⟨front, behind⟩ := span_append all stop
  rw [spanDigits, front, behind]

theorem isDigit_of_mem_naturalDigits {n : Nat} {c : Char} (member : c ∈ naturalDigits n)
    : c.isDigit = true :=
  Nat.isDigit_of_mem_toDigits (by decide) (by decide) member

theorem naturalDigits_ne_nil (n : Nat) : naturalDigits n ≠ [] :=
  Nat.toDigits_ne_nil

theorem digitsValue_naturalDigits (n : Nat) : digitsValue (naturalDigits n) = n :=
  Nat.ofDigitChars_ten_toDigits

theorem naturalDigits_injective : Function.Injective naturalDigits := by
  intro n m same
  rw [← digitsValue_naturalDigits n, same, digitsValue_naturalDigits]

/-- The digits of a number below the word limit are read as that number. -/
theorem natural?_naturalDigits {n : Nat} (h : n < wordLimit)
    : natural? (naturalDigits n) = some n := by
  have digits : (naturalDigits n).all Char.isDigit = true :=
    List.all_eq_true.mpr fun c => isDigit_of_mem_naturalDigits
  have unsigned (rest : List Char) (signed : naturalDigits n = '+' :: rest) : False := by
    simp [signed] at digits
  unfold natural?
  split
  · exact (unsigned _ ‹_›).elim
  · have nonempty : (naturalDigits n).isEmpty = false :=
      List.isEmpty_eq_false_iff.mpr (naturalDigits_ne_nil n)
    simp only [nonempty, digits, digitsValue_naturalDigits, h, Bool.not_true, Bool.or_false,
      if_true, Bool.false_eq_true, if_false]

theorem lt_of_natural? {chars : List Char} {n : Nat} (h : natural? chars = some n)
    : n < wordLimit := by
  simp only [natural?, Option.ite_none_left_eq_some, Option.ite_none_right_eq_some] at h
  obtain ⟨-, small, same⟩ := h
  exact Option.some.inj same ▸ small

/-- Digits in front count for as many powers of ten as digits follow. -/
theorem digitsValue_append (front back : List Char)
    : digitsValue (front ++ back) = digitsValue front * 10 ^ back.length + digitsValue back := by
  have split : digitsValue (front ++ back) = Nat.ofDigitChars 10 back (digitsValue front) :=
    Nat.ofDigitChars_append 0
  rw [split, Nat.ofDigitChars_eq_ofDigitChars_zero, Nat.mul_comm]
  rfl

theorem digitsValue_replicate_zero (count : Nat) : digitsValue (List.replicate count '0') = 0 := by
  have zeros : digitsValue (List.replicate count '0') = 10 ^ count * 0 :=
    Nat.ofDigitChars_replicate_zero
  rw [zeros, Nat.mul_zero]

/-- Zeros in front of a numeral do not change its number. -/
theorem digitsValue_zeros_append (count : Nat) (digits : List Char)
    : digitsValue (List.replicate count '0' ++ digits) = digitsValue digits := by
  rw [digitsValue_append, digitsValue_replicate_zero, Nat.zero_mul, Nat.zero_add]

/-- Zeros behind a numeral multiply its number. -/
theorem digitsValue_append_zeros (digits : List Char) (count : Nat)
    : digitsValue (digits ++ List.replicate count '0') = digitsValue digits * 10 ^ count := by
  rw [digitsValue_append, digitsValue_replicate_zero, List.length_replicate, Nat.add_zero]

theorem isDigit_of_mem_padded {width n : Nat} {c : Char} (member : c ∈ (padded width n).toList)
    : c.isDigit = true := by
  simp only [padded, String.toList_ofList, List.mem_append, List.mem_replicate] at member
  rcases member with ⟨-, rfl⟩ | member
  · decide
  · exact isDigit_of_mem_naturalDigits member

theorem padded_ne_nil (width n : Nat) : (padded width n).toList ≠ [] := by
  simp [padded, naturalDigits_ne_nil]

theorem digitsValue_padded (width n : Nat) : digitsValue (padded width n).toList = n := by
  rw [padded, String.toList_ofList, digitsValue_zeros_append, digitsValue_naturalDigits]

theorem padded_injective (width : Nat) : Function.Injective (padded width) := by
  intro n m same
  rw [← digitsValue_padded width n, same, digitsValue_padded]

/-- A number that has no more digits than that is filled up to the width. -/
theorem length_padded {width n : Nat} (positive : 0 < width) (small : n < 10 ^ width)
    : (padded width n).toList.length = width := by
  have short : (naturalDigits n).length ≤ width :=
    (Nat.length_toDigits_le_iff (by decide) positive).mpr small
  simp only [padded, String.toList_ofList, List.length_append, List.length_replicate]
  omega

theorem toList_integer (n : Int)
    : (integer n).toList
      = if n < 0 then '-' :: naturalDigits n.natAbs else naturalDigits n.natAbs := by
  unfold integer
  split <;> simp

/-- A numeral does not start with a sign. -/
theorem naturalDigits_ne_cons {c : Char} (sign : c.isDigit = false) (n : Nat) (rest : List Char)
    : naturalDigits n ≠ c :: rest := by
  intro same
  have digit := @isDigit_of_mem_naturalDigits n c (by simp [same])
  simp [sign] at digit

theorem integer_injective : Function.Injective integer := by
  intro n m same
  replace same := congrArg String.toList same
  rw [toList_integer, toList_integer] at same
  split at same <;> split at same
  · rename_i left right
    have size := naturalDigits_injective (List.cons.inj same).2
    omega
  · exact (naturalDigits_ne_cons (by decide) _ _ same.symm).elim
  · exact (naturalDigits_ne_cons (by decide) _ _ same).elim
  · have size := naturalDigits_injective same
    omega

/-- A separator that stands in neither first part tells where the second part begins. -/
theorem append_cons_inj {left right rest more : List Char} {mark : Char} (h : mark ∉ left)
    (h' : mark ∉ right) (same : left ++ mark :: rest = right ++ mark :: more)
    : left = right ∧ rest = more := by
  induction left generalizing right with
  | nil =>
      cases right with
      | nil => exact ⟨rfl, (List.cons.inj same).2⟩
      | cons d right =>
          exact absurd (by rw [(List.cons.inj same).1]; exact List.mem_cons_self) h'
  | cons c left ih =>
      cases right with
      | nil => exact absurd (by rw [← (List.cons.inj same).1]; exact List.mem_cons_self) h
      | cons d right =>
          rw [List.mem_cons, not_or] at h h'
          obtain ⟨rfl, later⟩ := List.cons.inj same
          obtain ⟨rfl, rfl⟩ := ih h.2 h'.2 later
          exact ⟨rfl, rfl⟩

end FormWizard.Text
