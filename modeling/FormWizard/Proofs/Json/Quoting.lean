import FormWizard.Json.Printer
import FormWizard.Json.Token
import Mathlib.Data.Nat.Init

/-! A quoted string tells where it ends and which text it quotes, whatever follows it. -/

namespace FormWizard.Json

/-- The first character of what stands in quotes, and what follows it. -/
def unescape? : List Char → Option (Char × List Char)
  | '\\' :: 'u' :: '0' :: '0' :: high :: low :: rest => do
    return (Char.ofNat (16 * (← Token.hexValue? high) + (← Token.hexValue? low)), rest)
  | '\\' :: letter :: rest => (Token.escapedChar? letter).map (·, rest)
  | c :: rest => some (c, rest)
  | [] => none

theorem hexValue?_hexDigit (n : Nat) : Token.hexValue? (hexDigit n) = some (n % 16) := by
  have all : ∀ m < 16, Token.hexValue? (Nat.digitChar m) = some m := by decide
  exact all _ (Nat.mod_lt _ (by decide))

/-- An escaped character is read back. -/
theorem unescape?_escaped (c : Char) (rest : List Char)
    : unescape? (escaped c ++ rest) = some (c, rest) := by
  unfold escaped
  split
  case h_8 =>
    split
    · have value : 16 * (c.toNat / 16 % 16) + c.toNat % 16 = c.toNat := by omega
      simp [unescape?, hexValue?_hexDigit, value]
    · rw [List.singleton_append]
      unfold unescape?
      split <;> simp_all
  all_goals rfl

/-- No escaped character starts with the quote that ends the string. -/
theorem escaped_ne_quote (c : Char) (rest more : List Char)
    : escaped c ++ rest ≠ '"' :: more := by
  unfold escaped
  split
  case h_8 =>
    split
    · simp
    · simp_all
  all_goals simp

/-- What stands in quotes is determined, and so is what follows the closing quote. Witness:
induction on the quoted text, reading one character at a time.
-/
theorem flatMap_escaped_inj {left right rest more : List Char}
    (same : left.flatMap escaped ++ '"' :: rest = right.flatMap escaped ++ '"' :: more)
    : left = right ∧ rest = more := by
  induction left generalizing right with
  | nil =>
      cases right with
      | nil => simpa using same
      | cons c right =>
          simp only [List.flatMap_nil, List.nil_append, List.flatMap_cons,
            List.append_assoc] at same
          exact (escaped_ne_quote _ _ _ same.symm).elim
  | cons c left ih =>
      cases right with
      | nil =>
          simp only [List.flatMap_nil, List.nil_append, List.flatMap_cons,
            List.append_assoc] at same
          exact (escaped_ne_quote _ _ _ same).elim
      | cons d right =>
          simp only [List.flatMap_cons, List.append_assoc] at same
          have read := congrArg unescape? same
          rw [unescape?_escaped, unescape?_escaped] at read
          obtain ⟨rfl, later⟩ := Prod.mk.inj (Option.some.inj read)
          obtain ⟨rfl, rfl⟩ := ih later
          exact ⟨rfl, rfl⟩

theorem toList_quoted (text : String)
    : (quoted text).toList = '"' :: (text.toList.flatMap escaped ++ ['"']) := by
  simp [quoted]

/-- A quoted string is determined, whatever follows it. -/
theorem quoted_append_inj {left right : String} {rest more : List Char}
    (same : (quoted left).toList ++ rest = (quoted right).toList ++ more)
    : left = right ∧ rest = more := by
  simp only [toList_quoted, List.cons_append, List.append_assoc, List.nil_append,
    List.cons.injEq, true_and] at same
  obtain ⟨text, rfl⟩ := flatMap_escaped_inj same
  exact ⟨String.toList_injective text, rfl⟩

/-- A character that is not a control character. -/
def IsPrintable (c : Char) : Prop :=
  32 ≤ c.toNat

instance (c : Char) : Decidable (IsPrintable c) :=
  inferInstanceAs (Decidable (32 ≤ c.toNat))

/-- No control character stands in a quoted string. -/
theorem isPrintable_of_mem_quoted {text : String} {c : Char} (member : c ∈ (quoted text).toList)
    : IsPrintable c := by
  have hex : ∀ m < 16, IsPrintable (Nat.digitChar m) := by decide
  have digit (n : Nat) : IsPrintable (hexDigit n) := hex _ (Nat.mod_lt _ (by decide))
  rw [toList_quoted] at member
  simp only [List.mem_cons, List.mem_append, List.mem_flatMap, List.not_mem_nil, or_false] at member
  rcases member with rfl | ⟨d, -, member⟩ | rfl
  · decide
  · unfold escaped at member
    split at member
    case h_8 =>
      split at member
      · simp only [List.mem_cons, List.not_mem_nil, or_false] at member
        rcases member with rfl | rfl | rfl | rfl | rfl | rfl <;> first | decide | exact digit _
      · rw [List.mem_singleton] at member
        subst member
        exact Nat.le_of_not_lt ‹_›
    all_goals
      simp only [List.mem_cons, List.not_mem_nil, or_false] at member
      rcases member with rfl | rfl <;> decide
  · decide

end FormWizard.Json
