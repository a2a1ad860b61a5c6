import FormWizard.Proofs.DataPath.Spelling
import FormWizard.Proofs.DataPath.Writes

/-! Where the canonical spelling of a path leads. It is read back as the path exactly if all of the
segments are plain. A key in quotes or brackets may be anything but plain, and then the canonical
spelling of the path that was written leads elsewhere.
-/

namespace FormWizard

namespace Text

/-- What is left between blanks stands in the characters in the same order. -/
theorem trim_sublist (chars : List Char) : (trim chars).Sublist chars := by
  rw [trim, ← List.reverse_sublist, List.reverse_reverse]
  refine (List.dropWhile_sublist isBlank).trans ?_
  exact List.reverse_sublist.mpr (List.dropWhile_sublist isBlank)

/-- What is left between blanks does not start with one. -/
theorem isBlank_of_mem_head?_trim {chars : List Char} {c : Char}
    (first : c ∈ (trim chars).head?)
    : isBlank c = false := by
  have kept := List.head?_dropWhile_not isBlank chars
  have leads : trim chars <+: chars.dropWhile isBlank := by
    rw [trim, ← List.reverse_suffix, List.reverse_reverse]
    exact List.dropWhile_suffix isBlank
  obtain ⟨rest, split⟩ := leads
  rw [← split, List.head?_append, Option.mem_def.mp first, Option.some_or] at kept
  simpa using kept

/-- Once the blanks are gone there are none left to drop. -/
theorem trim_trim (chars : List Char) : trim (trim chars) = trim chars :=
  trim_eq_self (fun _ => isBlank_of_mem_head?_trim) (fun _ => isBlank_of_mem_getLast?_trim)

end Text

namespace DataPath

instance (segment : Segment) : Decidable (IsPlain segment) :=
  match segment with
  | .key name => inferInstanceAs (Decidable (IsPlainKey name))
  | .index position => inferInstanceAs (Decidable (position < Text.wordLimit))

-----------------------------------------------------------------------------------------
-- Brackets
-----------------------------------------------------------------------------------------

/-- The opening brackets that it takes to write a path so that it is read as it is: one for each of
those in its canonical spelling, and one for each segment that is not plain.
-/
def openings (path : DataPath) : Nat :=
  (path.flatMap Segment.spelling).count '[' + path.countP (¬IsPlain ·)

theorem openings_append (front back : DataPath)
    : openings (front ++ back) = openings front + openings back := by
  simp only [openings, List.flatMap_append, List.count_append, List.countP_append]
  omega

/-- Between separators a plain key is found or none. -/
theorem isPlainKey_of_mem_bareKey {chars : List Char} (noDot : '.' ∉ chars)
    (noBracket : '[' ∉ chars) {segment : Segment} (member : segment ∈ bareKey chars)
    : ∃ name, segment = .key name ∧ IsPlainKey name := by
  rw [bareKey] at member
  split at member
  · cases member
  · rename_i nonempty
    refine ⟨_, List.mem_singleton.mp member, ?_⟩
    have sub := (Text.trim_sublist chars).subset
    exact {
      nonempty := by simpa using nonempty
      trimmed := by rw [String.toList_ofList, Text.trim_trim]
      noDot := fun dot => noDot (sub (by simpa using dot))
      noBracket := fun bracket => noBracket (sub (by simpa using bracket))
    }

/-- A bare key takes no brackets. -/
theorem openings_bareKey {chars : List Char} (noDot : '.' ∉ chars) (noBracket : '[' ∉ chars)
    : openings (bareKey chars) = 0 := by
  rw [openings, Nat.add_eq_zero_iff, List.count_eq_zero, List.countP_eq_zero]
  constructor
  · intro bracket
    obtain ⟨segment, member, spelled⟩ := List.mem_flatMap.mp bracket
    obtain ⟨name, rfl, plain⟩ := isPlainKey_of_mem_bareKey noDot noBracket member
    rcases List.mem_cons.mp spelled with same | inside
    · exact absurd same (by decide)
    · exact plain.noBracket inside
  · intro segment member
    obtain ⟨name, rfl, plain⟩ := isPlainKey_of_mem_bareKey noDot noBracket member
    have : IsPlain (.key name) := plain
    simp [this]

theorem unquoted?_sublist {quote : Char} {chars name : List Char}
    (h : unquoted? quote chars = some name)
    : name.Sublist chars := by
  unfold unquoted? at h
  split at h
  · rename_i first rest
    obtain ⟨-, same⟩ := Option.ite_none_right_eq_some.mp h
    cases same
    exact (List.dropLast_sublist rest).trans (List.sublist_cons_self first rest)
  · cases h

/-- What stands in brackets takes those, and one more for each that stands among it. -/
theorem openings_bracketed_le (chars : List Char)
    : openings [bracketed chars] ≤ chars.count '[' + 1 := by
  have atKey {name : List Char} (sub : name.Sublist (Text.trim chars))
      : openings [.key (String.ofList name)] ≤ chars.count '[' + 1 := by
    have fewer := (sub.trans (Text.trim_sublist chars)).count_le '['
    simp only [openings, List.flatMap_cons, List.flatMap_nil, List.append_nil, Segment.spelling,
      String.toList_ofList, List.countP_singleton]
    rw [List.count_cons_of_ne (by decide)]
    split <;> omega
  unfold bracketed
  simp only
  split
  · rename_i name found
    rcases Option.or_eq_some_iff.mp found with single | ⟨-, double⟩
    · exact atKey (unquoted?_sublist single)
    · exact atKey (unquoted?_sublist double)
  · split
    · rename_i position read
      have small : IsPlain (.index position) := Text.lt_of_natural? read
      have digits : '[' ∉ Text.naturalDigits position := fun member =>
        absurd (Text.isDigit_of_mem_naturalDigits member) (by decide)
      simp [openings, Segment.spelling, small, List.count_eq_zero.mpr digits]
    · exact atKey (List.Sublist.refl _)

mutual

/-- No more brackets are needed to write the segments again than were there. Witness: induction on
the characters; the ones that are pending hold no separator.
-/
theorem openings_splitKeys_le {pending : List Char} (noDot : '.' ∉ pending)
    (noBracket : '[' ∉ pending) (chars : List Char)
    : openings (splitKeys pending chars) ≤ chars.count '[' := by
  have bare : openings (bareKey pending.reverse) = 0 :=
    openings_bareKey (by simpa using noDot) (by simpa using noBracket)
  cases chars with
  | nil => rw [splitKeys, bare]; exact Nat.zero_le _
  | cons c rest =>
      rw [splitKeys]
      split
      · have later : openings (splitKeys [] rest) ≤ rest.count '[' :=
          openings_splitKeys_le List.not_mem_nil List.not_mem_nil rest
        rw [openings_append, bare, List.count_cons]
        omega
      · split
        · rename_i opens
          have later := openings_splitBracket_le [] rest
          rw [openings_append, bare, opens, List.count_cons_self]
          rw [List.count_nil] at later
          omega
        · rename_i noSeparator noOpening
          have later : openings (splitKeys (c :: pending) rest) ≤ rest.count '[' :=
            openings_splitKeys_le (by simp [noDot, Ne.symm noSeparator])
              (by simp [noBracket, Ne.symm noOpening]) rest
          rwa [List.count_cons_of_ne noOpening]

theorem openings_splitBracket_le (pending chars : List Char)
    : openings (splitBracket pending chars) ≤ pending.count '[' + 1 + chars.count '[' := by
  have here := openings_bracketed_le pending.reverse
  rw [List.count_reverse] at here
  cases chars with
  | nil => rwa [splitBracket]
  | cons c rest =>
      rw [splitBracket]
      split
      · have later : openings (splitKeys [] rest) ≤ rest.count '[' :=
          openings_splitKeys_le List.not_mem_nil List.not_mem_nil rest
        rw [← List.singleton_append, openings_append, List.count_cons]
        omega
      · have later := openings_splitBracket_le (c :: pending) rest
        rw [List.count_cons] at later ⊢
        omega

end

theorem openings_split_le (chars : List Char) : openings (split chars) ≤ chars.count '[' := by
  have trimmed := (Text.trim_sublist chars).count_le '['
  rw [split]
  split
  · rename_i rest body
    have within : openings (splitKeys [] rest) ≤ rest.count '[' :=
      openings_splitKeys_le List.not_mem_nil List.not_mem_nil rest
    rw [body, List.count_cons] at trimmed
    omega
  · exact Nat.le_trans (openings_splitKeys_le List.not_mem_nil List.not_mem_nil _) trimmed

/-- A canonical spelling is read back as its segments exactly if all of them are plain. A segment
that is not plain would take a bracket that the canonical spelling does not have.
-/
theorem ofText_text_iff {path : DataPath}
    : ofText (text path) = path ↔ ∀ segment ∈ path, IsPlain segment := by
  refine ⟨fun same => ?_, ofText_text⟩
  have enough := openings_split_le (spelling path)
  rw [← @String.toList_ofList (spelling path), ← text, ← ofText, same, text,
    String.toList_ofList, spelling, List.count_cons_of_ne (by decide), openings] at enough
  have none : path.countP (¬IsPlain ·) = 0 := by omega
  simpa using List.countP_eq_zero.mp none

-----------------------------------------------------------------------------------------
-- Addresses
-----------------------------------------------------------------------------------------

/-- The least data that hold true at a path. -/
def holding : DataPath → Json
  | [] => .bool true
  | .key name :: rest => .object [(name, holding rest)]
  | .index position :: rest => .array (setItem [] position (holding rest))

theorem get?_holding (path : DataPath) : get? (holding path) path = some (.bool true) := by
  induction path with
  | nil => rfl
  | cons segment rest ih =>
      cases segment with
      | key name => simp [holding, get?, Table.find?, ih]
      | index position => simp [holding, get?, getElem?_setItem, ih]

theorem get?_bool_cons (value : Bool) (segment : Segment) (rest : DataPath)
    : get? (.bool value) (segment :: rest) = none := by
  cases segment <;> rfl

/-- Two paths that find what the other one holds start with the same segment. One of them alone may
have a key in the place of an index.
-/
theorem get?_holding_cons {segment other : Segment} {rest more : DataPath}
    (forth : get? (holding (segment :: rest)) (other :: more) = some (.bool true))
    (back : get? (holding (other :: more)) (segment :: rest) = some (.bool true))
    : segment = other ∧ get? (holding rest) more = some (.bool true) := by
  cases segment with
  | key name =>
      cases other with
      | key another =>
          by_cases same : another = name
          · subst same
            simpa [holding, get?, Table.find?] using forth
          · simp [holding, get?, Table.find?, same] at forth
      | index position => simp [holding, get?] at forth
  | index position =>
      cases other with
      | key name => simp [holding, get?] at back
      | index another =>
          simp only [holding, get?, child?_array_index, getElem?_setItem] at forth
          split at forth
          · rename_i same
            exact ⟨congrArg Segment.index same.symm, forth⟩
          · split at forth
            · cases more with
              | nil => simp [get?] at forth
              | cons next further => simp [get?_null] at forth
            · simp at forth

/-- A path is told from every other one by some data. Witness: induction on both paths, with the
data that the one holds and those that the other holds.
-/
theorem eq_of_get?_holding {left right : DataPath}
    (forth : get? (holding left) right = some (.bool true))
    (back : get? (holding right) left = some (.bool true))
    : left = right := by
  induction left generalizing right with
  | nil =>
      cases right with
      | nil => rfl
      | cons other more => simp [holding, get?_bool_cons] at forth
  | cons segment rest ih =>
      cases right with
      | nil => simp [holding, get?_bool_cons] at back
      | cons other more =>
          obtain ⟨rfl, below⟩ := get?_holding_cons forth back
          obtain ⟨-, above⟩ := get?_holding_cons back forth
          rw [ih below above]

/-- Paths that find the same in all data are the same. -/
theorem eq_of_get?_eq {left right : DataPath} (h : ∀ data, get? data left = get? data right)
    : left = right := by
  refine eq_of_get?_holding ?_ ?_
  · rw [← h, get?_holding]
  · rw [h, get?_holding]

/-- All segments of a written path are plain if its keys are. -/
theorem isPlain_ofText_iff {path : String}
    : (∀ segment ∈ ofText path, IsPlain segment)
      ↔ ∀ name, .key name ∈ ofText path → IsPlainKey name := by
  refine ⟨fun plain name member => plain (.key name) member, fun plain segment member => ?_⟩
  cases segment with
  | key name => exact plain name member
  | index position => exact lt_of_index_mem_ofText member

/-- The canonical spelling of a written path leads to the same place in all data exactly if the keys
of the path are plain. So it does not for a key in quotes or brackets that is empty, has blanks
around it, or holds a separator.
-/
theorem lookUp?_normalize_iff (path : String)
    : (∀ data, lookUp? data (normalize path) = lookUp? data path)
      ↔ ∀ name, .key name ∈ ofText path → IsPlainKey name := by
  rw [← isPlain_ofText_iff, ← ofText_text_iff]
  constructor
  · exact fun same => eq_of_get?_eq same
  · intro same data
    rw [lookUp?, normalize, same, lookUp?]

/-- A key in quotes with a dot in it is found as it is written, and not in the canonical spelling.
-/
theorem lookUp?_normalize_dotted
    : lookUp? (.object [("a.b", .ofInt 1)]) "$['a.b']" = some (.ofInt 1)
      ∧ lookUp? (.object [("a.b", .ofInt 1)]) (normalize "$['a.b']") = none := by
  decide

/-- The canonical spelling of a path is read back as the path exactly if its segments are plain. So
two written paths with plain segments have the same canonical spelling exactly if they have the
same segments, and the canonical spelling is its own.
-/
theorem canonical_decodes
    : (∀ path : DataPath, ofText (text path) = path ↔ ∀ segment ∈ path, IsPlain segment)
      ∧ ∀ left right : String,
        (∀ segment ∈ ofText left, IsPlain segment) → (∀ segment ∈ ofText right, IsPlain segment)
        → (normalize left = normalize right ↔ ofText left = ofText right)
          ∧ normalize (normalize left) = normalize left := by
  refine ⟨fun path => ofText_text_iff, fun left right leftPlain rightPlain => ⟨⟨?_, ?_⟩, ?_⟩⟩
  · intro same
    calc ofText left
      _ = ofText (normalize left) := (ofText_text leftPlain).symm
      _ = ofText (normalize right) := congrArg ofText same
      _ = ofText right := ofText_text rightPlain
  · exact congrArg text
  · rw [normalize, normalize, ofText_text leftPlain]

/-- A path with keys of many kinds, all of them plain. -/
def intricate : DataPath :=
  [.key "$", .key "a]b", .index 12, .key "it's", .key "first name", .key "7"]

theorem canonical_decodes_intricate
    : (∀ segment ∈ intricate, IsPlain segment)
      ∧ ofText (text intricate) = intricate
      ∧ ofText " $.$ .a]b[+012]it's['first name']['7']" = intricate
      ∧ normalize " $.$ .a]b[+012]it's['first name']['7']" = normalize (text intricate)
      ∧ normalize (normalize (text intricate)) = normalize (text intricate) := by
  have plain : ∀ segment ∈ intricate, IsPlain segment := by decide
  obtain ⟨decodes, spelled⟩ := canonical_decodes
  have read : ofText (text intricate) = intricate := (decodes intricate).mpr plain
  have written : ofText " $.$ .a]b[+012]it's['first name']['7']" = intricate := by decide
  obtain ⟨same, own⟩ := spelled (text intricate) " $.$ .a]b[+012]it's['first name']['7']"
    (read ▸ plain) (written ▸ plain)
  exact ⟨plain, read, written, (same.mpr (read.trans written.symm)).symm, own⟩

end DataPath

end FormWizard
