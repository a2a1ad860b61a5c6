import FormWizard.DataPath.Segment
import FormWizard.Proofs.Text.Numerals

/-! The canonical spelling of a path can be read back as long as its keys hold nothing that the
spelling uses itself. So two such paths are spelled alike only if they are the same path.
-/

namespace FormWizard

namespace Text

/-- What is left between blanks does not end with one. -/
theorem isBlank_of_mem_getLast?_trim {chars : List Char} {c : Char}
    (last : c ∈ (trim chars).getLast?)
    : isBlank c = false := by
  rw [trim, List.getLast?_reverse] at last
  have kept := List.head?_dropWhile_not isBlank (chars.dropWhile isBlank).reverse
  rw [Option.mem_def.mp last] at kept
  simpa using kept

/-- Characters with no blank at either end are left as they are. -/
theorem trim_eq_self {chars : List Char} (first : ∀ c ∈ chars.head?, isBlank c = false)
    (last : ∀ c ∈ chars.getLast?, isBlank c = false)
    : trim chars = chars := by
  have front : chars.dropWhile isBlank = chars := by
    cases chars with
    | nil => rfl
    | cons c rest => simp [first c rfl]
  have back : chars.reverse.dropWhile isBlank = chars.reverse := by
    cases h : chars.reverse with
    | nil => rfl
    | cons c rest =>
        have ends : c ∈ chars.getLast? := by
          rw [List.getLast?_eq_head?_reverse, h]
          rfl
        simp [last c ends]
  rw [trim, front, back, List.reverse_reverse]

theorem isBlank_of_isDigit {c : Char} (h : c.isDigit) : isBlank c = false := by
  have range := isDigit_iff.mp h
  simp only [isBlank, Bool.or_eq_false_iff, Bool.and_eq_false_iff, decide_eq_false_iff_not,
    beq_eq_false_iff_ne]
  omega

end Text

namespace DataPath

/-- A key that the canonical spelling can hold: it is not empty, has no blanks around it, and
holds neither of the signs that start the next segment.
-/
structure IsPlainKey (name : String) : Prop where
  nonempty : name.toList ≠ []
  trimmed : Text.trim name.toList = name.toList
  noDot : '.' ∉ name.toList
  noBracket : '[' ∉ name.toList

instance (name : String) : Decidable (IsPlainKey name) :=
  decidable_of_iff
    (name.toList ≠ [] ∧ Text.trim name.toList = name.toList ∧ '.' ∉ name.toList
      ∧ '[' ∉ name.toList)
    ⟨fun ⟨nonempty, trimmed, noDot, noBracket⟩ => ⟨nonempty, trimmed, noDot, noBracket⟩,
      fun h => ⟨h.nonempty, h.trimmed, h.noDot, h.noBracket⟩⟩

/-- A segment that the canonical spelling can hold. -/
def IsPlain : Segment → Prop
  | .key name => IsPlainKey name
  | .index position => position < Text.wordLimit

/-- A plain key is found between its separators. -/
theorem bareKey_of_isPlainKey {name : String} (h : IsPlainKey name)
    : bareKey name.toList = [.key name] := by
  simp [bareKey, h.trimmed, h.nonempty]

/-- The digits of an index are an index in brackets. -/
theorem bracketed_naturalDigits {position : Nat} (h : position < Text.wordLimit)
    : bracketed (Text.naturalDigits position) = .index position := by
  have digit (c : Char) (member : c ∈ Text.naturalDigits position) : c.isDigit = true :=
    Text.isDigit_of_mem_naturalDigits member
  have trimmed : Text.trim (Text.naturalDigits position) = Text.naturalDigits position :=
    Text.trim_eq_self
      (fun c first => Text.isBlank_of_isDigit (digit c (List.mem_of_mem_head? first)))
      (fun c last => Text.isBlank_of_isDigit (digit c (List.mem_of_mem_getLast? last)))
  have unquoted (quote : Char) (h : quote.isDigit = false)
      : unquoted? quote (Text.naturalDigits position) = none := by
    unfold unquoted?
    split
    · rename_i first rest starts
      have : first ≠ quote := by
        rintro rfl
        have := digit first (by simp [starts])
        simp [h] at this
      simp [this]
    · rfl
  simp [bracketed, trimmed, unquoted '\'' (by decide), unquoted '"' (by decide),
    Text.natural?_naturalDigits h]

/-- Characters that are no separators are collected. -/
theorem splitKeys_append {chars : List Char} (noDot : '.' ∉ chars) (noBracket : '[' ∉ chars)
    (pending more : List Char)
    : splitKeys pending (chars ++ more) = splitKeys (chars.reverse ++ pending) more := by
  induction chars generalizing pending with
  | nil => rfl
  | cons c rest ih =>
      simp only [List.mem_cons, not_or] at noDot noBracket
      simp [splitKeys, Ne.symm noDot.1, Ne.symm noBracket.1, ih noDot.2 noBracket.2]

/-- Characters up to the closing bracket are collected. -/
theorem splitBracket_append {chars : List Char} (open' : ']' ∉ chars) (pending more : List Char)
    : splitBracket pending (chars ++ ']' :: more)
      = bracketed (pending.reverse ++ chars) :: splitKeys [] more := by
  induction chars generalizing pending with
  | nil => simp [splitBracket]
  | cons c rest ih =>
      simp only [List.mem_cons, not_or] at open'
      simp [splitBracket, Ne.symm open'.1, ih open'.2]

/-- Behind the root sign, the segments of a canonical spelling are found one by one. Witness:
induction on the path, the characters before its first separator being collected already.
-/
theorem splitKeys_spelling {path : DataPath} (h : ∀ segment ∈ path, IsPlain segment)
    (pending : List Char)
    : splitKeys pending (path.flatMap Segment.spelling) = bareKey pending.reverse ++ path := by
  induction path generalizing pending with
  | nil => simp [splitKeys]
  | cons segment rest ih =>
      have here := h segment List.mem_cons_self
      replace ih := ih fun other member => h other (List.mem_cons_of_mem _ member)
      cases segment with
      | key name =>
          have plain : IsPlainKey name := here
          simp only [List.flatMap_cons, Segment.spelling, List.cons_append, splitKeys, if_true]
          rw [splitKeys_append plain.noDot plain.noBracket, ih]
          simp [bareKey_of_isPlainKey plain]
      | index position =>
          have closed : ']' ∉ Text.naturalDigits position := fun member =>
            absurd (Text.isDigit_of_mem_naturalDigits member) (by decide)
          simp only [List.flatMap_cons, Segment.spelling, List.cons_append, List.append_assoc,
            List.nil_append, splitKeys, if_true]
          rw [splitBracket_append closed, ih]
          simp [bracketed_naturalDigits here, bareKey, Text.trim]

/-- A canonical spelling of plain segments does not end with a blank. -/
theorem isBlank_getLast?_spelling {path : DataPath} (h : ∀ segment ∈ path, IsPlain segment)
    {c : Char} (last : c ∈ (spelling path).getLast?)
    : Text.isBlank c = false := by
  rcases List.eq_nil_or_concat path with rfl | ⟨front, segment, rfl⟩
  · obtain rfl : '$' = c := by simpa [spelling] using last
    rfl
  · have here := h segment (by simp)
    rw [List.concat_eq_append, spelling, List.flatMap_append, List.flatMap_singleton,
      ← List.cons_append, List.getLast?_append] at last
    cases segment with
    | key name =>
        have plain : IsPlainKey name := here
        have ends : (Segment.spelling (.key name)).getLast? = name.toList.getLast? := by
          obtain ⟨c, rest, split⟩ := List.exists_cons_of_ne_nil plain.nonempty
          simp [Segment.spelling, split]
        rw [ends, List.getLast?_eq_some_getLast plain.nonempty, Option.some_or] at last
        refine @Text.isBlank_of_mem_getLast?_trim name.toList _ ?_
        rw [plain.trimmed, List.getLast?_eq_some_getLast plain.nonempty]
        exact last
    | index position =>
        have ends : (Segment.spelling (.index position)).getLast? = some ']' :=
          List.getLast?_concat
        rw [ends, Option.some_or] at last
        cases last
        rfl

/-- The canonical spelling of plain segments is read back as these segments. -/
theorem ofText_text {path : DataPath} (h : ∀ segment ∈ path, IsPlain segment)
    : ofText (text path) = path := by
  have trimmed : Text.trim (spelling path) = spelling path :=
    Text.trim_eq_self (by simp [spelling]; rfl) fun c last => isBlank_getLast?_spelling h last
  rw [ofText, text, String.toList_ofList, split, trimmed]
  simpa [spelling, bareKey, Text.trim] using splitKeys_spelling h []

/-- What stands between separators is no index. -/
theorem index_notMem_bareKey (chars : List Char) (position : Nat)
    : .index position ∉ bareKey chars := by
  rw [bareKey]
  split <;> simp

/-- An index in brackets stays below the word limit. -/
theorem lt_of_bracketed_eq_index {chars : List Char} {position : Nat}
    (h : bracketed chars = .index position)
    : position < Text.wordLimit := by
  simp only [bracketed] at h
  split at h
  · cases h
  · split at h
    · rename_i read
      cases h
      exact Text.lt_of_natural? read
    · cases h

mutual

theorem lt_of_index_mem_splitKeys {pending chars : List Char} {position : Nat}
    (h : .index position ∈ splitKeys pending chars)
    : position < Text.wordLimit := by
  cases chars with
  | nil => exact (index_notMem_bareKey _ _ h).elim
  | cons c rest =>
      rw [splitKeys] at h
      split at h
      · rcases List.mem_append.mp h with key | later
        · exact (index_notMem_bareKey _ _ key).elim
        · exact lt_of_index_mem_splitKeys later
      · split at h
        · rcases List.mem_append.mp h with key | later
          · exact (index_notMem_bareKey _ _ key).elim
          · exact lt_of_index_mem_splitBracket later
        · exact lt_of_index_mem_splitKeys h

theorem lt_of_index_mem_splitBracket {pending chars : List Char} {position : Nat}
    (h : .index position ∈ splitBracket pending chars)
    : position < Text.wordLimit := by
  cases chars with
  | nil => exact lt_of_bracketed_eq_index (List.mem_singleton.mp h).symm
  | cons c rest =>
      rw [splitBracket] at h
      split at h
      · rcases List.mem_cons.mp h with here | later
        · exact lt_of_bracketed_eq_index here.symm
        · exact lt_of_index_mem_splitKeys later
      · exact lt_of_index_mem_splitBracket h

end

/-- The indexes of a path as it is written fit a machine word. -/
theorem lt_of_index_mem_ofText {path : String} {position : Nat}
    (h : .index position ∈ ofText path)
    : position < Text.wordLimit := by
  rw [ofText, split] at h
  split at h <;> exact lt_of_index_mem_splitKeys h

/-- A written path with plain keys and its canonical spelling have the same segments. -/
theorem ofText_normalize {path : String} (h : ∀ name, .key name ∈ ofText path → IsPlainKey name)
    : ofText (normalize path) = ofText path := by
  refine ofText_text fun segment member => ?_
  cases segment with
  | key name => exact h name member
  | index position => exact lt_of_index_mem_ofText member

end DataPath

end FormWizard
