import FormWizard.Json.Token
import FormWizard.Proofs.Decimal.Reading

/-! The text of a JSON number: it consists of the characters that numbers are made of, and it
determines the number.
-/

namespace FormWizard

open Json (Number)
open Json.Token (isNumeric)

theorem isNumeric_of_isDigit {c : Char} (h : c.isDigit = true) : isNumeric c = true := by
  simp [isNumeric, h]

theorem Text.isNumeric_of_mem_integer {n : Int} {c : Char} (member : c ∈ (Text.integer n).toList)
    : isNumeric c = true ∧ c ≠ '.' ∧ c ≠ 'e' := by
  have digits (digit : c ∈ naturalDigits n.natAbs) : isNumeric c = true ∧ c ≠ '.' ∧ c ≠ 'e' := by
    have isDigit := isDigit_of_mem_naturalDigits digit
    refine ⟨isNumeric_of_isDigit isDigit, ?_, ?_⟩
    · rintro rfl
      exact absurd isDigit (by decide)
    · rintro rfl
      exact absurd isDigit (by decide)
  rw [toList_integer] at member
  split at member
  · rcases List.mem_cons.mp member with rfl | digit
    · decide
    · exact digits digit
  · exact digits member

namespace Decimal

open Text (naturalDigits)

theorem mem_positional {digits : List Char} {places : Int} {c : Char}
    (member : c ∈ positional digits places)
    : c ∈ digits ∨ c = '0' ∨ c = '.' := by
  unfold positional at member
  split at member
  · simp only [List.mem_append, List.mem_replicate, List.mem_cons, List.not_mem_nil,
      or_false] at member
    tauto
  · split at member
    · simp only [List.mem_append, List.mem_cons] at member
      rcases member with front | point | back
      · exact .inl (List.mem_of_mem_take front)
      · exact .inr (.inr point)
      · exact .inl (List.mem_of_mem_drop back)
    · simp only [List.mem_append, List.mem_replicate, List.mem_cons, List.not_mem_nil,
        or_false] at member
      tauto

theorem point_mem_positional (digits : List Char) (places : Int)
    : '.' ∈ positional digits places := by
  unfold positional
  split
  · simp
  · split <;> simp

theorem mem_mantissa {digits : List Char} {c : Char} (member : c ∈ mantissa digits)
    : c ∈ digits ∨ c = '.' := by
  unfold mantissa at member
  split at member
  · simp only [List.mem_cons] at member ⊢
    tauto
  · exact .inl member

theorem isNumeric_of_mem_layOut {style : Style} {d : Decimal} {c : Char}
    (member : c ∈ layOut style d)
    : isNumeric c = true := by
  have digit (n : Nat) (member : c ∈ naturalDigits n) : isNumeric c = true :=
    isNumeric_of_isDigit (Text.isDigit_of_mem_naturalDigits member)
  unfold layOut at member
  simp only at member
  split at member
  · rcases mem_positional member with inDigits | rfl | rfl
    · exact digit _ inDigits
    · decide
    · decide
  · simp only [scientific, List.mem_append, List.mem_cons] at member
    rcases member with (inMantissa | rfl | sign) | inExponent
    · rcases mem_mantissa inMantissa with inDigits | rfl
      · exact digit _ inDigits
      · decide
    · decide
    · split at sign
      · rw [List.mem_singleton.mp sign]
        decide
      · split at sign
        · rw [List.mem_singleton.mp sign]
          decide
        · cases sign
    · exact digit _ inExponent

theorem isNumeric_of_mem_written {style : Style} {x : Float} {c : Char}
    (member : c ∈ (written style x).toList)
    : isNumeric c = true := by
  have inSize (member : c ∈ size style (Binary64.parts x)) : isNumeric c = true := by
    unfold size at member
    split at member
    · have all : ['0', '.', '0'].all isNumeric = true := by decide
      exact List.all_eq_true.mp all c member
    · exact isNumeric_of_mem_layOut member
  simp only [written, String.toList_ofList] at member
  split at member
  · rcases List.mem_cons.mp member with rfl | later
    · decide
    · exact inSize later
  · exact inSize member

/-- A double is written with a point or an exponent. -/
theorem point_or_exponent_mem_written (style : Style) (x : Float)
    : ∃ c ∈ (written style x).toList, c = '.' ∨ c = 'e' := by
  have inSize : ∃ c ∈ size style (Binary64.parts x), c = '.' ∨ c = 'e' := by
    unfold size
    split
    · exact ⟨'.', by decide, .inl rfl⟩
    · unfold layOut
      simp only
      split
      · exact ⟨'.', point_mem_positional _ _, .inl rfl⟩
      · exact ⟨'e', by simp [scientific], .inr rfl⟩
  obtain ⟨c, member, mark⟩ := inSize
  refine ⟨c, ?_, mark⟩
  simp only [written, String.toList_ofList]
  split
  · exact List.mem_cons_of_mem _ member
  · exact member

theorem written_ne_nil (style : Style) (x : Float) : (written style x).toList ≠ [] := by
  obtain ⟨c, member, -⟩ := point_or_exponent_mem_written style x
  exact List.ne_nil_of_mem member

end Decimal

namespace Json

theorem Number.isNumeric_of_mem_text {n : Number} {c : Char} (member : c ∈ n.text.toList)
    : isNumeric c = true := by
  cases n with
  | whole value => exact (Text.isNumeric_of_mem_integer member).1
  | real value => exact Decimal.isNumeric_of_mem_written member

theorem Number.text_ne_nil (n : Number) : n.text.toList ≠ [] := by
  cases n with
  | whole value =>
      have digits := Text.naturalDigits_ne_nil value.natAbs
      rw [text, Text.toList_integer]
      split
      · simp
      · exact digits
  | real value => exact Decimal.written_ne_nil _ _

/-- Numbers with the same text are the same: a whole number has neither point nor exponent. -/
theorem Number.text_injective : Function.Injective Number.text := by
  have apart (value : Int) (x : Float) (same : (whole value).text = (real x).text) : False := by
    obtain ⟨c, member, mark⟩ := Decimal.point_or_exponent_mem_written Number.style x
    have written : c ∈ (Text.integer value).toList := by
      have same : Text.integer value = Decimal.written Number.style x := same
      rwa [same]
    obtain ⟨-, noPoint, noExponent⟩ := Text.isNumeric_of_mem_integer written
    exact mark.elim noPoint noExponent
  intro n m same
  cases n with
  | whole value =>
      cases m with
      | whole other => rw [Text.integer_injective same]
      | real x => exact (apart value x same).elim
  | real x =>
      cases m with
      | whole value => exact (apart value x same.symm).elim
      | real y => rw [Decimal.written_injective _ same]

end Json

end FormWizard
