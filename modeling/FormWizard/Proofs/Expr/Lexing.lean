import FormWizard.Proofs.Decimal.Reading
import FormWizard.Proofs.Expr.Soundness
import Mathlib.Data.List.TakeWhile
import Mathlib.Data.String.Basic

/-! What cutting a source into tokens comes to: blanks, and between them the texts of the tokens,
each as long as it can be. Whatever is cut is cut in one way only, and each offset is the place of a
character.
-/

namespace FormWizard.Expr

-----------------------------------------------------------------------------------------
-- Bytes
-----------------------------------------------------------------------------------------

@[simp]
theorem byteSize_nil : byteSize [] = 0 :=
  rfl

@[simp]
theorem byteSize_cons (c : Char) (rest : List Char)
    : byteSize (c :: rest) = c.utf8Size + byteSize rest :=
  rfl

@[simp]
theorem byteSize_append (front back : List Char)
    : byteSize (front ++ back) = byteSize front + byteSize back := by
  induction front with
  | nil => simp
  | cons c front ih => rw [List.cons_append, byteSize_cons, byteSize_cons, ih, Nat.add_assoc]

theorem byteSize_pos {chars : List Char} (nonempty : chars ≠ []) : 0 < byteSize chars := by
  obtain ⟨c, rest, rfl⟩ := List.exists_cons_of_ne_nil nonempty
  have := c.utf8Size_pos
  rw [byteSize_cons]
  omega

theorem byteSize_eq_utf8ByteSize (chars : List Char)
    : byteSize chars = (String.ofList chars).utf8ByteSize := by
  rw [String.utf8ByteSize_ofList]
  induction chars with
  | nil => rfl
  | cons c rest ih => rw [byteSize_cons, ih, String.utf8Len_cons, Nat.add_comm]

/-- The bytes of the front of a source lead to the place of a character. -/
theorem isValid_of_append {source : String} {front back : List Char}
    (split : source.toList = front ++ back)
    : (⟨byteSize front⟩ : String.Pos.Raw).IsValid source := by
  refine String.Pos.Raw.isValid_iff_exists_append.mpr
    ⟨String.ofList front, String.ofList back, ?_, ?_⟩
  · rw [← String.ofList_append, ← split, String.ofList_toList]
  · rw [byteSize_eq_utf8ByteSize]
    rfl

theorem isSpace_iff {c : Char}
    : isSpace c = true ↔ c = ' ' ∨ c = '\t' ∨ c = '\n' ∨ c = '\x0c' ∨ c = '\r' := by
  simp only [isSpace, Bool.or_eq_true, beq_iff_eq, or_assoc]

theorem size_of_isSpace {c : Char} (blank : isSpace c = true) : c.utf8Size = 1 := by
  rcases isSpace_iff.mp blank with rfl | rfl | rfl | rfl | rfl <;> rfl

-----------------------------------------------------------------------------------------
-- Single tokens
-----------------------------------------------------------------------------------------

/-- A number starts with a digit, or with a point in front of one. -/
def startsNumber : List Char → Bool
  | [] => false
  | c :: rest => c.isDigit || (c == '.' && rest.head?.any Char.isDigit)

/-- The quotes of texts. -/
def isQuote (c : Char) : Bool :=
  c == '\'' || c == '"'

/-- Between two such quotes, the first characters are written for the second ones. A backslash takes
away the meaning of a quote or a backslash.
-/
inductive Quotes (quote : Char) : (written content : List Char) → Prop
  | nil : Quotes quote [] []
  | escaped {written content : List Char} (c : Char) (h : Quotes quote written content)
    : Quotes quote ('\\' :: c :: written) (unescaped c :: content)
  | plain {written content : List Char} {c : Char} (noEscape : c ≠ '\\') (inside : c ≠ quote)
    (h : Quotes quote written content)
    : Quotes quote (c :: written) (c :: content)

/-- In front of what follows, the text is that of the token, and is as long as it can be. -/
inductive Stands (behind : List Char) : (text : List Char) → (token : Token) → Prop
  | number {text : List Char} {value : Float} (starts : startsNumber (text ++ behind) = true)
    (whole : spanNumber (text ++ behind) = (text, behind))
    (spelled : Decimal.double? text = some value)
    : Stands behind text (.number value)
  | text {quote : Char} {written content : List Char} (opens : isQuote quote = true)
    (quoted : Quotes quote written content)
    : Stands behind (quote :: written ++ [quote]) (.text (String.ofList content))
  | name {first : Char} {others : List Char} (starts : isNameStart first = true)
    (parts : ∀ c ∈ others, isNamePart c = true) (ends : ∀ c ∈ behind.head?, isNamePart c = false)
    : Stands behind (first :: others) (.ident (String.ofList (first :: others)))
  | sign {sign : Symbol} (noNumber : startsNumber (sign.spelling.toList ++ behind) = false)
    (longest : ∀ other ∈ Symbol.table, other.spelling.toList <+: sign.spelling.toList ++ behind →
      other.spelling.toList.length ≤ sign.spelling.toList.length)
    : Stands behind sign.spelling.toList (.symbol sign)

theorem spanExponent_append (chars : List Char)
    : (spanExponent chars).1 ++ (spanExponent chars).2 = chars := by
  unfold spanExponent
  split
  · split
    · simp only [Text.spanDigits, List.append_assoc, List.cons_append,
        List.takeWhile_append_dropWhile, List.take_append_drop]
    · rfl
  · rfl

theorem spanNumber_append (chars : List Char)
    : (spanNumber chars).1 ++ (spanNumber chars).2 = chars := by
  simp only [spanNumber, List.append_assoc, spanExponent_append, List.takeWhile_append_dropWhile]

theorem spanText?_eq_some_iff {quote : Char} (opens : isQuote quote = true)
    {chars content rest : List Char} {size : Nat}
    : spanText? quote chars = some (content, size, rest)
      ↔ ∃ written, chars = written ++ quote :: rest ∧ Quotes quote written content
        ∧ size = byteSize written + quote.utf8Size := by
  have noEscape : '\\' ≠ quote := by
    rintro rfl
    cases opens
  constructor
  · intro found
    fun_induction spanText? quote chars generalizing content size rest with
    | case1 c tail ih =>
        obtain ⟨⟨content', size', rest'⟩, found', same⟩ := Option.map_eq_some_iff.mp found
        cases same
        obtain ⟨written, rfl, quoted, rfl⟩ := ih found'
        exact ⟨'\\' :: c :: written, rfl, .escaped c quoted, by
          simp only [byteSize_cons]
          have : '\\'.utf8Size = 1 := rfl
          omega⟩
    | case2 tail =>
        cases found
        exact ⟨[], rfl, .nil, by simp⟩
    | case3 c tail notEscaped inside ih =>
        obtain ⟨⟨content', size', rest'⟩, found', same⟩ := Option.map_eq_some_iff.mp found
        cases same
        obtain ⟨written, rfl, quoted, rfl⟩ := ih found'
        refine ⟨c :: written, rfl, .plain ?_ inside quoted, by simp only [byteSize_cons]; omega⟩
        rintro rfl
        cases written with
        | nil => exact notEscaped _ _ rfl rfl
        | cons next written => exact notEscaped _ _ rfl rfl
    | case4 => cases found
  · rintro ⟨written, rfl, quoted, rfl⟩
    induction quoted with
    | nil =>
        rw [List.nil_append, spanText?, if_pos rfl, byteSize_nil, Nat.zero_add]
        exact fun c tail same _ => noEscape same.symm
    | escaped c quoted ih =>
        rw [List.cons_append, List.cons_append, spanText?, ih, Option.map_some]
        simp only [byteSize_cons, Nat.add_assoc]
        rfl
    | plain noEscape inside quoted ih =>
        rw [List.cons_append, spanText?, if_neg inside, ih, Option.map_some, byteSize_cons,
          Nat.add_assoc]
        exact fun c tail same _ => noEscape same

theorem Symbol.mem_table (sign : Symbol) : sign ∈ Symbol.table := by
  cases sign <;> decide

/-- No two signs are written alike. -/
theorem Symbol.eq_of_spelling {sign other : Symbol} (same : sign.spelling = other.spelling)
    : sign = other := by
  have apart : ∀ sign ∈ Symbol.table, ∀ other ∈ Symbol.table,
      sign.spelling = other.spelling → sign = other := by
    decide +kernel
  exact apart sign sign.mem_table other other.mem_table same

theorem longest_of_symbol? {chars : List Char} {sign : Symbol} (found : symbol? chars = some sign)
    : sign.spelling.toList <+: chars
      ∧ ∀ other ∈ Symbol.table, other.spelling.toList <+: chars →
        other.spelling.toList.length ≤ sign.spelling.toList.length := by
  have descending : Symbol.table.Pairwise fun left right =>
      right.spelling.toList.length ≤ left.spelling.toList.length := by
    decide
  obtain ⟨starts, front, back, split, none⟩ := List.find?_eq_some_iff_append.mp found
  refine ⟨List.isPrefixOf_iff_prefix.mp starts, fun other member starts => ?_⟩
  rw [split, List.mem_append, List.mem_cons] at member
  rw [split, List.pairwise_append, List.pairwise_cons] at descending
  rcases member with before | rfl | behind
  · have absent := none other before
    rw [List.isPrefixOf_iff_prefix.mpr starts] at absent
    cases absent
  · exact Nat.le_refl _
  · exact descending.2.1.1 other behind

/-- The sign that is found is the longest one that the text starts with. -/
theorem symbol?_eq_some_iff {chars : List Char} {sign : Symbol}
    : symbol? chars = some sign
      ↔ sign.spelling.toList <+: chars
        ∧ ∀ other ∈ Symbol.table, other.spelling.toList <+: chars →
          other.spelling.toList.length ≤ sign.spelling.toList.length := by
  constructor
  · exact longest_of_symbol?
  · rintro ⟨starts, longest⟩
    cases found : symbol? chars with
    | none =>
        have absent := List.find?_eq_none.mp found sign sign.mem_table
        exact (absent (List.isPrefixOf_iff_prefix.mpr starts)).elim
    | some first =>
        obtain ⟨firstStarts, firstLongest⟩ := longest_of_symbol? found
        have length := Nat.le_antisymm (firstLongest sign sign.mem_table starts)
          (longest first first.mem_table firstStarts)
        have same := List.prefix_of_prefix_length_le starts firstStarts length.le
        rw [Symbol.eq_of_spelling (String.toList_injective (same.eq_of_length length))]

-----------------------------------------------------------------------------------------
-- Scanning
-----------------------------------------------------------------------------------------

/-- Letters are the capital and the small letters of ASCII. -/
theorem isAlpha_iff {c : Char}
    : c.isAlpha = true ↔ (65 ≤ c.toNat ∧ c.toNat ≤ 90) ∨ (97 ≤ c.toNat ∧ c.toNat ≤ 122) := by
  have small : c.isLower = true ↔ 97 ≤ c.toNat ∧ c.toNat ≤ 122 :=
    Bool.and_eq_true_iff.trans (and_congr decide_eq_true_iff decide_eq_true_iff)
  exact Bool.or_eq_true_iff.trans (or_congr decide_eq_true_iff small)

/-- A name starts with neither a digit nor a point, nor with a quote or a blank. -/
theorem apart_of_isNameStart {c : Char} (starts : isNameStart c = true)
    : c.isDigit = false ∧ c ≠ '.' ∧ isQuote c = false ∧ isSpace c = false
      ∧ isNamePart c = true := by
  refine ⟨?_, ?_, ?_, ?_, ?_⟩
  · rw [Bool.eq_false_iff]
    intro digit
    have range := Text.isDigit_iff.mp digit
    simp only [isNameStart, Bool.or_eq_true, isAlpha_iff, beq_iff_eq] at starts
    rcases starts with (letter | rfl) | rfl
    · omega
    · exact absurd digit (by decide)
    · exact absurd digit (by decide)
  · rintro rfl
    cases starts
  · rw [Bool.eq_false_iff]
    intro quote
    simp only [isQuote, Bool.or_eq_true, beq_iff_eq] at quote
    rcases quote with rfl | rfl <;> cases starts
  · rw [Bool.eq_false_iff]
    intro blank
    rcases isSpace_iff.mp blank with rfl | rfl | rfl | rfl | rfl <;> cases starts
  · simp only [isNameStart, isNamePart, Char.isAlphanum, Bool.or_eq_true] at starts ⊢
    rcases starts with (letter | line) | dollar
    · exact .inl (.inl (.inl letter))
    · exact .inl (.inr line)
    · exact .inr dollar

/-- A sign starts with neither a digit nor a quote nor a blank, and not as a name does. -/
theorem Symbol.exists_head (sign : Symbol)
    : ∃ c others, sign.spelling.toList = c :: others ∧ isQuote c = false ∧ isSpace c = false
      ∧ isNameStart c = false := by
  cases sign <;> exact ⟨_, _, rfl, rfl, rfl, rfl⟩

theorem scan_number {c : Char} {rest : List Char} (starts : startsNumber (c :: rest) = true)
    : scan c rest = scanNumber (c :: rest) :=
  if_pos starts

theorem scan_text {c : Char} {rest : List Char} (opens : isQuote c = true)
    : scan c rest = scanText c rest := by
  have noNumber : startsNumber (c :: rest) ≠ true := by
    simp only [isQuote, Bool.or_eq_true, beq_iff_eq] at opens
    rcases opens with rfl | rfl <;> simp [startsNumber]
  exact (if_neg noNumber).trans (if_pos opens)

theorem scan_name {c : Char} {rest : List Char} (starts : isNameStart c = true)
    : scan c rest = .ok (scanName (c :: rest)) := by
  obtain ⟨noDigit, noPoint, noQuote, -⟩ := apart_of_isNameStart starts
  have noNumber : startsNumber (c :: rest) ≠ true := by simp [startsNumber, noDigit, noPoint]
  exact (if_neg noNumber).trans ((if_neg (Bool.eq_false_iff.mp noQuote)).trans (if_pos starts))

theorem scan_sign {c : Char} {rest : List Char} (noNumber : startsNumber (c :: rest) = false)
    (noQuote : isQuote c = false) (noName : isNameStart c = false)
    : scan c rest
      = match symbol? (c :: rest) with
        | some sign =>
            .ok ⟨.symbol sign, byteSize sign.spelling.toList,
              (c :: rest).drop sign.spelling.toList.length⟩
        | none => .error (.unexpectedCharacter c) :=
  (if_neg (Bool.eq_false_iff.mp noNumber)).trans
    ((if_neg (Bool.eq_false_iff.mp noQuote)).trans (if_neg (Bool.eq_false_iff.mp noName)))

/-- No token starts with a blank. -/
theorem Stands.exists_head {behind text : List Char} {token : Token} (h : Stands behind text token)
    : ∃ c rest, text = c :: rest ∧ isSpace c = false := by
  cases h with
  | number starts whole spelled =>
      cases text with
      | nil => cases spelled
      | cons c rest =>
          refine ⟨c, rest, rfl, ?_⟩
          rw [Bool.eq_false_iff]
          intro blank
          rcases isSpace_iff.mp blank with rfl | rfl | rfl | rfl | rfl <;> cases starts
  | @text quote written content opens quoted =>
      refine ⟨quote, written ++ [quote], rfl, ?_⟩
      simp only [isQuote, Bool.or_eq_true, beq_iff_eq] at opens
      rcases opens with rfl | rfl <;> rfl
  | name starts parts ends => exact ⟨_, _, rfl, (apart_of_isNameStart starts).2.2.2.1⟩
  | @sign sign noNumber longest =>
      obtain ⟨c, others, spelled, -, visible, -⟩ := sign.exists_head
      exact ⟨c, others, spelled, visible⟩

/-- What is scanned stands in front of what is left. -/
theorem stands_of_scan {c : Char} {rest : List Char} {scanned : Scanned}
    (found : scan c rest = .ok scanned)
    : ∃ text, c :: rest = text ++ scanned.rest ∧ Stands scanned.rest text scanned.token
      ∧ scanned.size = byteSize text := by
  by_cases number : startsNumber (c :: rest) = true
  · rw [scan_number number, scanNumber] at found
    have split := spanNumber_append (c :: rest)
    dsimp only at found
    cases spelled : Decimal.double? (spanNumber (c :: rest)).1 with
    | none =>
        rw [spelled] at found
        cases found
    | some value =>
        rw [spelled] at found
        cases found
        refine ⟨_, split.symm, .number ?_ ?_ spelled, rfl⟩
        · rw [split, number]
        · rw [split]
  by_cases opens : isQuote c = true
  · rw [scan_text opens, scanText] at found
    cases quoted : spanText? c rest with
    | none =>
        rw [quoted] at found
        cases found
    | some result =>
        obtain ⟨content, size, behind⟩ := result
        rw [quoted] at found
        cases found
        obtain ⟨written, rfl, written_for, rfl⟩ := (spanText?_eq_some_iff opens).mp quoted
        refine ⟨c :: written ++ [c], by simp, .text opens written_for, ?_⟩
        simp [Nat.add_comm]
  by_cases starts : isNameStart c = true
  · rw [scan_name starts] at found
    cases found
    have part := (apart_of_isNameStart starts).2.2.2.2
    have front : (c :: rest).takeWhile isNamePart = c :: rest.takeWhile isNamePart := by
      rw [List.takeWhile_cons, if_pos part]
    have behind : (c :: rest).dropWhile isNamePart = rest.dropWhile isNamePart := by
      rw [List.dropWhile_cons, if_pos part]
    simp only [scanName, front, behind]
    refine ⟨_, ?_, .name starts (fun c member => ?_) ?_, rfl⟩
    · rw [List.cons_append, List.takeWhile_append_dropWhile]
    · exact List.mem_takeWhile_imp member
    · intro next first
      have stop := List.head?_dropWhile_not isNamePart rest
      rw [Option.mem_def.mp first] at stop
      exact stop
  rw [Bool.not_eq_true] at number opens starts
  rw [scan_sign number opens starts] at found
  cases sign : symbol? (c :: rest) with
  | none =>
      rw [sign] at found
      cases found
  | some sign' =>
      rw [sign] at found
      cases found
      obtain ⟨⟨behind, split⟩, longest⟩ := symbol?_eq_some_iff.mp sign
      rw [← split] at longest number
      rw [← split, List.drop_left]
      exact ⟨_, rfl, .sign number longest, rfl⟩

/-- Whatever stands in front of the rest is scanned. -/
theorem Stands.scan {behind text : List Char} {token : Token} (h : Stands behind text token)
    {c : Char} {rest : List Char} (split : c :: rest = text ++ behind)
    : scan c rest = .ok ⟨token, byteSize text, behind⟩ := by
  cases h with
  | number starts whole spelled =>
      rw [← split] at starts whole
      rw [scan_number starts, scanNumber, whole]
      dsimp only
      rw [spelled]
  | @text quote written content opens quoted =>
      rw [List.cons_append, List.cons_append, List.append_assoc, List.cons.injEq] at split
      obtain ⟨rfl, rfl⟩ := split
      have found : spanText? c (written ++ c :: behind)
          = some (content, byteSize written + c.utf8Size, behind) :=
        (spanText?_eq_some_iff opens).mpr ⟨written, rfl, quoted, rfl⟩
      rw [scan_text opens, scanText, List.singleton_append, found]
      simp [Nat.add_comm]
  | @name first others starts parts ends =>
      have all (part : Char) (member : part ∈ first :: others) : isNamePart part = true := by
        rcases List.mem_cons.mp member with rfl | member
        · exact (apart_of_isNameStart starts).2.2.2.2
        · exact parts part member
      obtain ⟨front, back⟩ := Text.span_append all ends
      have same : c = first := (List.cons.inj split).1
      rw [same] at split ⊢
      rw [scan_name starts, scanName, split, front, back]
  | @sign sign noNumber longest =>
      obtain ⟨first, others, spelled, noQuote, -, noName⟩ := sign.exists_head
      rw [← split] at noNumber
      have same : c = first := by
        rw [spelled] at split
        exact (List.cons.inj split).1
      subst same
      have found : symbol? (c :: rest) = some sign := by
        rw [split]
        exact symbol?_eq_some_iff.mpr ⟨List.prefix_append _ _, longest⟩
      rw [scan_sign noNumber noQuote noName, found, split]
      dsimp only
      rw [List.drop_left]

-----------------------------------------------------------------------------------------
-- Sources
-----------------------------------------------------------------------------------------

theorem lexFrom_nil (offset : Nat) : lexFrom offset [] = .ok [] := by
  rw [lexFrom]

theorem lexFrom_blank (offset : Nat) {c : Char} (blank : isSpace c = true) (rest : List Char)
    : lexFrom offset (c :: rest) = lexFrom (offset + 1) rest := by
  rw [lexFrom, if_pos blank]

theorem lexFrom_scanned (offset : Nat) {c : Char} {rest : List Char} {scanned : Scanned}
    (visible : isSpace c = false) (found : scan c rest = .ok scanned)
    : lexFrom offset (c :: rest)
      = (lexFrom (offset + scanned.size) scanned.rest).map (⟨scanned.token, offset⟩ :: ·) := by
  rw [lexFrom, if_neg (Bool.eq_false_iff.mp visible)]
  split
  · rename_i failed
    cases found.symm.trans failed
  · rename_i scanned' found'
    cases found.symm.trans found'
    split
    · rename_i failed
      rw [failed]
      rfl
    · rename_i cut
      rw [cut]
      rfl

theorem lexFrom_error (offset : Nat) {c : Char} {rest : List Char} {fault : Fault}
    (visible : isSpace c = false) (failed : scan c rest = .error fault)
    : lexFrom offset (c :: rest) = .error ⟨offset, fault⟩ := by
  rw [lexFrom, if_neg (Bool.eq_false_iff.mp visible)]
  split
  · rename_i fault' failed'
    cases failed.symm.trans failed'
    rfl
  · rename_i found
    cases failed.symm.trans found

theorem Stands.lexFrom {behind text : List Char} {token : Token} (stands : Stands behind text token)
    (offset : Nat)
    : lexFrom offset (text ++ behind)
      = (lexFrom (offset + byteSize text) behind).map (⟨token, offset⟩ :: ·) := by
  obtain ⟨c, rest, same, visible⟩ := stands.exists_head
  have found : Expr.scan c (rest ++ behind) = .ok ⟨token, byteSize text, behind⟩ :=
    stands.scan (by rw [same, List.cons_append])
  rw [same, List.cons_append, lexFrom_scanned offset visible found, ← same]

/-- Behind an offset, the characters are blanks and the texts of the tokens in turn. The last token
is the end of the source, which stands behind all of them.
-/
inductive IsCut : (offset : Nat) → (chars : List Char) → (tokens : List Lexed) → Prop
  | finish {offset : Nat} : IsCut offset [] [⟨.finish, offset⟩]
  | blank {offset : Nat} {c : Char} {rest : List Char} {tokens : List Lexed}
    (isBlank : isSpace c = true) (h : IsCut (offset + 1) rest tokens)
    : IsCut offset (c :: rest) tokens
  | token {offset : Nat} {text behind : List Char} {token : Token} {tokens : List Lexed}
    (stands : Stands behind text token) (h : IsCut (offset + byteSize text) behind tokens)
    : IsCut offset (text ++ behind) (⟨token, offset⟩ :: tokens)

/-- The tokens behind an offset, and the end. -/
def lexToEndFrom (offset : Nat) (chars : List Char) : Except ParseError (List Lexed) :=
  (lexFrom offset chars).map (· ++ [⟨.finish, offset + byteSize chars⟩])

/-- The tokens of a source, and the end. -/
def lexToEnd (source : String) : Except ParseError (List Lexed) :=
  (lex source).map (· ++ [⟨.finish, source.utf8ByteSize⟩])

/-- The end is what is next where there are no more tokens. -/
theorem head?_append_finish (tokens : List Lexed) (size : Nat)
    : (tokens ++ [(⟨.finish, size⟩ : Lexed)]).head?
      = some ⟨peek tokens, offsetOf size tokens⟩ := by
  cases tokens <;> rfl

theorem lexToEnd_eq (source : String) : lexToEnd source = lexToEndFrom 0 source.toList := by
  rw [lexToEndFrom, Nat.zero_add, byteSize_eq_utf8ByteSize, String.ofList_toList, lexToEnd, lex]

theorem lexToEndFrom_blank (offset : Nat) {c : Char} (blank : isSpace c = true) (rest : List Char)
    : lexToEndFrom offset (c :: rest) = lexToEndFrom (offset + 1) rest := by
  rw [lexToEndFrom, lexFrom_blank offset blank, byteSize_cons, size_of_isSpace blank,
    ← Nat.add_assoc, lexToEndFrom]

theorem Stands.lexToEndFrom {behind text : List Char} {token : Token}
    (stands : Stands behind text token) (offset : Nat)
    : lexToEndFrom offset (text ++ behind)
      = (lexToEndFrom (offset + byteSize text) behind).map (⟨token, offset⟩ :: ·) := by
  rw [Expr.lexToEndFrom, Expr.lexToEndFrom, byteSize_append, ← Nat.add_assoc, stands.lexFrom]
  cases Expr.lexFrom (offset + byteSize text) behind <;> rfl

theorem lexToEndFrom_error (offset : Nat) {c : Char} {rest : List Char} {fault : Fault}
    (visible : isSpace c = false) (failed : scan c rest = .error fault)
    : lexToEndFrom offset (c :: rest) = .error ⟨offset, fault⟩ := by
  rw [lexToEndFrom, lexFrom_error offset visible failed]
  rfl

/-- A source starts with a blank, or with the text of a token, or with what cannot be scanned. -/
theorem lexing_induction {motive : Nat → List Char → Prop} (finish : ∀ offset, motive offset [])
    (blank : ∀ offset c rest, isSpace c = true → motive (offset + 1) rest →
      motive offset (c :: rest))
    (token : ∀ offset text behind token, Stands behind text token →
      motive (offset + byteSize text) behind → motive offset (text ++ behind))
    (failed : ∀ offset c rest fault, isSpace c = false → scan c rest = .error fault →
      motive offset (c :: rest))
    (offset : Nat) (chars : List Char)
    : motive offset chars := by
  have scanned (offset : Nat) (c : Char) (rest : List Char) (scanned : Scanned)
      (found : scan c rest = .ok scanned) (ih : motive (offset + scanned.size) scanned.rest)
      : motive offset (c :: rest) := by
    obtain ⟨text, split, stands, sized⟩ := stands_of_scan found
    rw [sized] at ih
    exact split ▸ token offset text scanned.rest scanned.token stands ih
  induction offset, chars using lexFrom.induct with
  | case1 offset => exact finish offset
  | case2 offset c rest isBlank ih => exact blank offset c rest isBlank ih
  | case3 offset c rest visible fault error =>
      exact failed offset c rest fault (Bool.eq_false_iff.mpr visible) error
  | case4 offset c rest _ found scan _ _ ih => exact scanned offset c rest found scan ih
  | case5 offset c rest _ found scan _ _ ih => exact scanned offset c rest found scan ih

/-- A source is cut into tokens exactly as the relation says. -/
theorem lexToEndFrom_eq_ok_iff {offset : Nat} {chars : List Char} {tokens : List Lexed}
    : lexToEndFrom offset chars = .ok tokens ↔ IsCut offset chars tokens := by
  constructor
  · intro cut
    induction offset, chars using lexing_induction generalizing tokens with
    | finish offset =>
        rw [lexToEndFrom, lexFrom_nil] at cut
        cases cut
        exact .finish
    | blank offset c rest isBlank ih =>
        rw [lexToEndFrom_blank offset isBlank] at cut
        exact .blank isBlank (ih cut)
    | token offset text behind token stands ih =>
        rw [stands.lexToEndFrom] at cut
        cases later : lexToEndFrom (offset + byteSize text) behind with
        | error error =>
            rw [later] at cut
            cases cut
        | ok others =>
            rw [later] at cut
            cases cut
            exact .token stands (ih later)
    | failed offset c rest fault visible stuck =>
        rw [lexToEndFrom_error offset visible stuck] at cut
        cases cut
  · intro cut
    induction cut with
    | finish =>
        rw [lexToEndFrom, lexFrom_nil]
        rfl
    | blank isBlank h ih => rw [lexToEndFrom_blank _ isBlank, ih]
    | token stands h ih =>
        rw [stands.lexToEndFrom, ih]
        rfl

/-- What cannot be cut is stuck at one of its characters, where no token stands. -/
theorem stuck_of_lexToEndFrom {offset : Nat} {chars : List Char} {error : ParseError}
    (stuck : lexToEndFrom offset chars = .error error)
    : ∃ front c rest, chars = front ++ c :: rest ∧ error.offset = offset + byteSize front
      ∧ isSpace c = false ∧ scan c rest = .error error.fault := by
  induction offset, chars using lexing_induction with
  | finish offset =>
      rw [lexToEndFrom, lexFrom_nil] at stuck
      cases stuck
  | blank offset c rest isBlank ih =>
      rw [lexToEndFrom_blank offset isBlank] at stuck
      obtain ⟨front, next, behind, rfl, at_, visible, failed⟩ := ih stuck
      refine ⟨c :: front, next, behind, rfl, ?_, visible, failed⟩
      rw [at_, byteSize_cons, size_of_isSpace isBlank, Nat.add_assoc]
  | token offset text behind token stands ih =>
      rw [stands.lexToEndFrom] at stuck
      cases later : lexToEndFrom (offset + byteSize text) behind with
      | error error' =>
          rw [later] at stuck
          cases stuck
          obtain ⟨front, next, rest, rfl, at_, visible, failed⟩ := ih later
          refine ⟨text ++ front, next, rest, by rw [List.append_assoc], ?_, visible, failed⟩
          rw [at_, byteSize_append, Nat.add_assoc]
      | ok others =>
          rw [later] at stuck
          cases stuck
  | failed offset c rest fault visible failed =>
      rw [lexToEndFrom_error offset visible failed] at stuck
      cases stuck
      exact ⟨[], c, rest, rfl, rfl, visible, failed⟩

-----------------------------------------------------------------------------------------
-- Tokens without their offsets
-----------------------------------------------------------------------------------------

/-- A text is cut into the tokens, wherever it stands. -/
def IsCutInto (tokens : List Token) (text : List Char) : Prop :=
  ∀ offset, ∃ lexed, lexFrom offset text = .ok lexed ∧ bare lexed = tokens

theorem isCutInto_nil : IsCutInto [] [] := by
  intro offset
  exact ⟨[], lexFrom_nil offset, rfl⟩

theorem IsCutInto.cons {c : Char} {rest : List Char} {tokens : List Token} (scanned : Scanned)
    (h : IsCutInto tokens scanned.rest) (visible : isSpace c = false)
    (found : scan c rest = .ok scanned)
    : IsCutInto (scanned.token :: tokens) (c :: rest) := by
  intro offset
  obtain ⟨lexed, cut, spelled⟩ := h (offset + scanned.size)
  refine ⟨⟨scanned.token, offset⟩ :: lexed, ?_, by simp [spelled]⟩
  rw [lexFrom_scanned offset visible found, cut]
  rfl

theorem IsCutInto.stands {behind text : List Char} {token : Token} {tokens : List Token}
    (h : IsCutInto tokens behind) (stands : Stands behind text token)
    : IsCutInto (token :: tokens) (text ++ behind) := by
  obtain ⟨c, rest, rfl, visible⟩ := stands.exists_head
  exact IsCutInto.cons ⟨token, byteSize (c :: rest), behind⟩ h visible (stands.scan rfl)

-----------------------------------------------------------------------------------------
-- Offsets
-----------------------------------------------------------------------------------------

/-- Tokens stand behind the offset at which the cut begins, in front of a part of the text. -/
theorem IsCut.exists_split {offset : Nat} {chars : List Char} {tokens : List Lexed}
    (cut : IsCut offset chars tokens) {lexed : Lexed} (member : lexed ∈ tokens)
    : ∃ front back, chars = front ++ back ∧ lexed.offset = offset + byteSize front := by
  induction cut with
  | finish =>
      rw [List.mem_singleton.mp member]
      exact ⟨[], [], rfl, rfl⟩
  | @blank offset c rest tokens isBlank h ih =>
      obtain ⟨front, back, rfl, at_⟩ := ih member
      refine ⟨c :: front, back, rfl, ?_⟩
      rw [at_, byteSize_cons, size_of_isSpace isBlank, Nat.add_assoc]
  | @token offset text behind token tokens stands h ih =>
      rcases List.mem_cons.mp member with rfl | member
      · exact ⟨[], text ++ behind, rfl, rfl⟩
      · obtain ⟨front, back, rfl, at_⟩ := ih member
        refine ⟨text ++ front, back, by rw [List.append_assoc], ?_⟩
        rw [at_, byteSize_append, Nat.add_assoc]

/-- No two tokens start at the same place, and each stands in front of those behind it. -/
theorem IsCut.increasing {offset : Nat} {chars : List Char} {tokens : List Lexed}
    (cut : IsCut offset chars tokens)
    : tokens.Pairwise fun left right => left.offset < right.offset := by
  induction cut with
  | finish => exact List.pairwise_singleton _ _
  | blank isBlank h ih => exact ih
  | @token offset text behind token tokens stands h ih =>
      refine List.pairwise_cons.mpr ⟨fun lexed member => ?_, ih⟩
      obtain ⟨front, back, -, at_⟩ := h.exists_split member
      obtain ⟨c, rest, rfl, -⟩ := stands.exists_head
      have filled := byteSize_pos (List.cons_ne_nil c rest)
      dsimp only
      omega

end FormWizard.Expr
