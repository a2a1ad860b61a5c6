import FormWizard.Decimal.Reader
import FormWizard.Expr.Fault

/-! Cutting the source of an expression into tokens. -/

namespace FormWizard.Expr

/-- The blanks that may stand between tokens. -/
def isSpace (c : Char) : Bool :=
  c == ' ' || c == '\t' || c == '\n' || c == '\x0c' || c == '\r'

/-- Names start with an ASCII letter, an underscore or a dollar sign. -/
def isNameStart (c : Char) : Bool :=
  c.isAlpha || c == '_' || c == '$'

/-- Names go on with the same characters and digits. -/
def isNamePart (c : Char) : Bool :=
  c.isAlphanum || c == '_' || c == '$'

/-- The bytes of a run of characters. -/
def byteSize (chars : List Char) : Nat :=
  chars.foldr (fun c size => c.utf8Size + size) 0

/-- A token at the front of a text, the bytes that it takes, and what follows it. -/
structure Scanned where
  token : Token
  size : Nat
  rest : List Char

/-- The exponent of a number at the front: the letter e, an optional sign and digits, of which
there may be none.
-/
def spanExponent (chars : List Char) : List Char × List Char :=
  match chars with
  | mark :: rest =>
    if mark == 'e' || mark == 'E' then
      let signSize := if rest.head? == some '+' || rest.head? == some '-' then 1 else 0
      let (digits, behind) := Text.spanDigits (rest.drop signSize)
      (mark :: rest.take signSize ++ digits, behind)
    else ([], chars)
  | [] => ([], [])

/-- The text of a number at the front: digits and points in any mix, and an exponent. -/
def spanNumber (chars : List Char) : List Char × List Char :=
  let isBody := fun c : Char => c.isDigit || c == '.'
  let (exponent, rest) := spanExponent (chars.dropWhile isBody)
  (chars.takeWhile isBody ++ exponent, rest)

/-- A number at the front. -/
def scanNumber (chars : List Char) : Except Fault Scanned :=
  let (text, rest) := spanNumber chars
  match Decimal.double? text with
  | some value => .ok ⟨.number value, byteSize text, rest⟩
  | none => .error (.invalidNumber (String.ofList text))

/-- The character that a backslash and the given character stand for. -/
def unescaped (c : Char) : Char :=
  if c = 'n' then '\n' else if c = 't' then '\t' else c

/-- The contents of a text up to its closing quote, their bytes with that quote, and what
follows.
-/
def spanText? (quote : Char) : List Char → Option (List Char × Nat × List Char)
  | '\\' :: c :: rest =>
    (spanText? quote rest).map fun (chars, size, rest) =>
      (unescaped c :: chars, 1 + c.utf8Size + size, rest)
  | c :: rest =>
    if c = quote then some ([], c.utf8Size, rest)
    else
      (spanText? quote rest).map fun (chars, size, rest) => (c :: chars, c.utf8Size + size, rest)
  | [] => none

/-- A quoted text, behind its opening quote. -/
def scanText (quote : Char) (chars : List Char) : Except Fault Scanned :=
  match spanText? quote chars with
  | some (chars, size, rest) => .ok ⟨.text (String.ofList chars), quote.utf8Size + size, rest⟩
  | none => .error .unterminatedText

/-- A name at the front. -/
def scanName (chars : List Char) : Scanned :=
  let name := chars.takeWhile isNamePart
  ⟨.ident (String.ofList name), byteSize name, chars.dropWhile isNamePart⟩

/-- The longest sign at the front. -/
def symbol? (chars : List Char) : Option Symbol :=
  Symbol.table.find? fun sign => sign.spelling.toList.isPrefixOf chars

/-- The token that starts with the given character, which is no blank. -/
def scan (c : Char) (rest : List Char) : Except Fault Scanned :=
  if c.isDigit || (c == '.' && rest.head?.any Char.isDigit) then scanNumber (c :: rest)
  else if c == '\'' || c == '"' then scanText c rest
  else if isNameStart c then .ok (scanName (c :: rest))
  else
    match symbol? (c :: rest) with
    | some sign =>
      let spelling := sign.spelling.toList
      .ok ⟨.symbol sign, byteSize spelling, (c :: rest).drop spelling.length⟩
    | none => .error (.unexpectedCharacter c)

theorem spanDigits_length (chars : List Char)
    : (Text.spanDigits chars).2.length ≤ chars.length :=
  (List.dropWhile_suffix _).length_le

theorem spanExponent_length (chars : List Char)
    : (spanExponent chars).2.length ≤ chars.length := by
  unfold spanExponent
  split
  next mark rest =>
    split
    · refine Nat.le_trans (spanDigits_length _) ?_
      simp only [List.length_drop, List.length_cons]
      omega
    · exact Nat.le_refl _
  next => exact Nat.le_refl _

theorem spanText?_length {quote : Char} {chars content rest : List Char} {size : Nat}
    (h : spanText? quote chars = some (content, size, rest))
    : rest.length < chars.length := by
  fun_induction spanText? quote chars generalizing content rest size with
  | case1 c tail ih =>
    obtain ⟨⟨content', size', rest'⟩, h', e⟩ := Option.map_eq_some_iff.1 h
    obtain ⟨-, -, rfl⟩ : _ ∧ _ ∧ rest' = rest := by simpa using e
    have := ih h'
    simp
    omega
  | case2 tail =>
    obtain ⟨-, -, rfl⟩ : _ ∧ _ ∧ tail = rest := by simpa using h
    simp
  | case3 c tail _ _ ih =>
    obtain ⟨⟨content', size', rest'⟩, h', e⟩ := Option.map_eq_some_iff.1 h
    obtain ⟨-, -, rfl⟩ : _ ∧ _ ∧ rest' = rest := by simpa using e
    have := ih h'
    simp
    omega
  | case4 => simp at h

/-- Every sign has at least one character. -/
theorem Symbol.spelling_length_pos (sign : Symbol) : 0 < sign.spelling.toList.length := by
  cases sign <;> decide

/-- A token takes at least its first character. -/
theorem scan_length {c : Char} {rest : List Char} {scanned : Scanned}
    (h : scan c rest = .ok scanned)
    : scanned.rest.length ≤ rest.length := by
  unfold scan at h
  split at h
  next start =>
    unfold scanNumber at h
    simp only at h
    split at h
    · cases h
      have isBody : (c.isDigit || c == '.') = true := by
        simp only [Bool.or_eq_true, Bool.and_eq_true] at start ⊢
        rcases start with h | ⟨h, _⟩ <;> simp [h]
      refine Nat.le_trans (spanExponent_length _) ?_
      simp only [List.dropWhile_cons, isBody, if_true]
      exact (List.dropWhile_suffix _).length_le
    · cases h
  split at h
  · unfold scanText at h
    split at h
    next found =>
      cases h
      exact Nat.le_of_lt (spanText?_length found)
    next => cases h
  split at h
  next start =>
    cases h
    have isPart : isNamePart c = true := by
      simp only [isNameStart, isNamePart, Char.isAlphanum, Bool.or_eq_true] at start ⊢
      rcases start with (h | h) | h <;> simp [h]
    simp only [scanName]
    simp only [List.dropWhile_cons, isPart, if_true]
    exact (List.dropWhile_suffix _).length_le
  split at h
  next sign _ =>
    cases h
    have := sign.spelling_length_pos
    simp only [List.length_drop, List.length_cons]
    omega
  next => cases h

/-- The tokens of a text that starts at the given offset. -/
def lexFrom (offset : Nat) (chars : List Char) : Except ParseError (List Lexed) :=
  match chars with
  | [] => .ok []
  | c :: rest =>
    if isSpace c then lexFrom (offset + 1) rest
    else
      match _h : scan c rest with
      | .error fault => .error ⟨offset, fault⟩
      | .ok scanned =>
        match lexFrom (offset + scanned.size) scanned.rest with
        | .error error => .error error
        | .ok tokens => .ok (⟨scanned.token, offset⟩ :: tokens)
termination_by chars.length
decreasing_by
  · simp
  · exact Nat.lt_succ_of_le (scan_length ‹_›)

/-- The tokens of a source, without the end. -/
def lex (source : String) : Except ParseError (List Lexed) :=
  lexFrom 0 source.toList

end FormWizard.Expr
