import FormWizard.Proofs.Expr.Lexing

/-! Tokens as they are written: signs, names, texts between quotes and decimal numerals. Written
with single spaces between them, they are what a source is cut into again.
-/

namespace FormWizard.Expr

open Text (digitsValue)

-----------------------------------------------------------------------------------------
-- Numerals
-----------------------------------------------------------------------------------------

/-- At least one digit. -/
structure Digits where
  chars : List Char
  nonempty : chars ≠ []
  digits : ∀ c ∈ chars, c.isDigit = true

theorem Digits.exists_head (d : Digits)
    : ∃ first others, d.chars = first :: others ∧ first.isDigit = true := by
  obtain ⟨first, others, same⟩ := List.exists_cons_of_ne_nil d.nonempty
  exact ⟨first, others, same, d.digits first (by rw [same]; exact List.mem_cons_self)⟩

/-- A decimal numeral. The sign of the exponent is true for minus. -/
structure Numeral where
  whole : Digits
  fraction : Option Digits
  exponent : Option (Option Bool × Digits)

namespace Numeral

/-- The digits behind the point. -/
def fractionDigits (n : Numeral) : List Char :=
  (n.fraction.map Digits.chars).getD []

/-- The point, if there is one, and the digits behind it. -/
def fractionText : Option Digits → List Char
  | some d => '.' :: d.chars
  | none => []

/-- A sign in front of an exponent. -/
def signText : Option Bool → List Char
  | some true => ['-']
  | some false => ['+']
  | none => []

/-- The exponent, if there is one, behind its mark. -/
def exponentText : Option (Option Bool × Digits) → List Char
  | some (sign, d) => 'e' :: (signText sign ++ d.chars)
  | none => []

/-- The power of ten that the numeral is scaled by. -/
def exponentValue : Option (Option Bool × Digits) → Int
  | some (some true, d) => -(digitsValue d.chars : Int)
  | some (_, d) => digitsValue d.chars
  | none => 0

/-- The numeral as text. -/
def written (n : Numeral) : List Char :=
  n.whole.chars ++ fractionText n.fraction ++ exponentText n.exponent

/-- The decimal that the numeral stands for. -/
def decimal (n : Numeral) : Decimal :=
  ⟨digitsValue (n.whole.chars ++ n.fractionDigits),
    exponentValue n.exponent - n.fractionDigits.length⟩

/-- The double nearest to the numeral. -/
def value (n : Numeral) : Float :=
  n.decimal.toDouble false

end Numeral

/-- The text does not go on with anything that a numeral in front of it could take in. -/
def EndsNumeral (text : List Char) : Prop :=
  ∀ c ∈ text.head?, c.isDigit = false ∧ c ≠ '.' ∧ c ≠ 'e' ∧ c ≠ 'E'

theorem isDigit_ne_sign {c : Char} (digit : c.isDigit = true) : c ≠ '-' ∧ c ≠ '+' := by
  constructor <;> rintro rfl <;> cases digit

theorem spanSign_of_isDigit {c : Char} (digit : c.isDigit = true) (rest : List Char)
    : Decimal.spanSign (c :: rest) = (false, c :: rest) := by
  obtain ⟨noMinus, noPlus⟩ := isDigit_ne_sign digit
  unfold Decimal.spanSign
  split <;> simp_all

theorem spanSign_signText (sign : Option Bool) (d : Digits)
    : Decimal.spanSign (Numeral.signText sign ++ d.chars) = (sign == some true, d.chars) := by
  obtain ⟨first, others, same, digit⟩ := d.exists_head
  match sign with
  | some true | some false => rfl
  | none =>
      rw [Numeral.signText, List.nil_append, same]
      exact spanSign_of_isDigit digit others

/-- An exponent is read as the power that it stands for. -/
theorem exponent?_exponentText (exponent : Option (Option Bool × Digits))
    : Decimal.exponent? (Numeral.exponentText exponent)
      = some (Numeral.exponentValue exponent) := by
  match exponent with
  | none => rfl
  | some (sign, d) =>
      have filled : d.chars.isEmpty = false := List.isEmpty_eq_false_iff.mpr d.nonempty
      have digits : d.chars.all Char.isDigit = true := List.all_eq_true.mpr d.digits
      rw [Numeral.exponentText, Decimal.exponent?.eq_def]
      dsimp only
      rw [spanSign_signText]
      match sign with
      | some true | some false | none => simp [filled, digits, Numeral.exponentValue]

/-- The digits in front of an exponent do not go on with it, nor with what ends the numeral. -/
theorem head?_exponentText_append (exponent : Option (Option Bool × Digits)) {behind : List Char}
    (ends : EndsNumeral behind) {c : Char}
    (first : c ∈ (Numeral.exponentText exponent ++ behind).head?)
    : c.isDigit = false ∧ c ≠ '.' := by
  match exponent with
  | none => exact ⟨(ends c first).1, (ends c first).2.1⟩
  | some (sign, d) =>
      cases first
      exact ⟨rfl, by decide⟩

/-- A numeral is read as the decimal that it stands for. -/
theorem unsigned?_written (n : Numeral) : Decimal.unsigned? n.written = some n.decimal := by
  have stop (c : Char) (first : c ∈ (Numeral.exponentText n.exponent).head?)
      : c.isDigit = false ∧ c ≠ '.' :=
    @head?_exponentText_append n.exponent [] (fun _ none => by cases none) c
      (by rw [List.append_nil]; exact first)
  match same : n.fraction with
  | some back =>
      have read := Decimal.unsigned?_point n.whole.chars back.chars
        (Numeral.exponentText n.exponent) n.whole.nonempty n.whole.digits back.digits
        (fun c first => (stop c first).1)
      rw [exponent?_exponentText] at read
      rw [Numeral.written, same, Numeral.fractionText, List.append_assoc, List.cons_append, read,
        Numeral.decimal, Numeral.fractionDigits, same]
      rfl
  | none =>
      have read := Decimal.unsigned?_plain n.whole.nonempty n.whole.digits stop
      rw [exponent?_exponentText] at read
      rw [Numeral.written, same, Numeral.fractionText, List.append_nil, read, Numeral.decimal,
        Numeral.fractionDigits, same]
      simp

/-- What starts with a digit has no sign and is no name. -/
theorem double?_of_isDigit {c : Char} (digit : c.isDigit = true) (rest : List Char)
    : Decimal.double? (c :: rest)
      = (Decimal.unsigned? (c :: rest)).map (Decimal.toDouble false) := by
  have lower : c.toLower = c := by
    refine dif_neg fun capital => ?_
    have least : 65 ≤ c.toNat := capital.1
    have most := (Text.isDigit_iff.mp digit).2
    omega
  have noName (first : Char) (others : List Char) (letter : first.isDigit = false)
      : (String.ofList ((c :: rest).map Char.toLower) == String.ofList (first :: others))
        = false := by
    rw [beq_eq_false_iff_ne]
    intro same
    have head := (List.cons.inj (String.ofList_injective same)).1
    rw [lower] at head
    rw [head, letter] at digit
    cases digit
  have noInf : (String.ofList ((c :: rest).map Char.toLower) == "inf") = false :=
    noName 'i' ['n', 'f'] rfl
  have noInfinity : (String.ofList ((c :: rest).map Char.toLower) == "infinity") = false :=
    noName 'i' ['n', 'f', 'i', 'n', 'i', 't', 'y'] rfl
  have noNan : (String.ofList ((c :: rest).map Char.toLower) == "nan") = false :=
    noName 'n' ['a', 'n'] rfl
  rw [Decimal.double?, spanSign_of_isDigit digit]
  dsimp only
  rw [noInf, noInfinity, noNan]
  rfl

theorem spanExponent_exponentText (exponent : Option (Option Bool × Digits)) {behind : List Char}
    (ends : EndsNumeral behind)
    : spanExponent (Numeral.exponentText exponent ++ behind)
      = (Numeral.exponentText exponent, behind) := by
  match exponent with
  | none =>
      rw [Numeral.exponentText, List.nil_append]
      unfold spanExponent
      split
      · rename_i mark rest
        obtain ⟨-, -, noMark, noCapital⟩ := ends mark rfl
        simp [noMark, noCapital]
      · rfl
  | some (sign, d) =>
      obtain ⟨first, others, same, digit⟩ := d.exists_head
      have split := Text.spanDigits_append d.digits fun c first => (ends c first).1
      match sign with
      | some true | some false =>
          simp [Numeral.exponentText, Numeral.signText, spanExponent, split]
      | none =>
          obtain ⟨noMinus, noPlus⟩ := isDigit_ne_sign digit
          have unsigned : ((d.chars ++ behind).head? == some '+'
              || (d.chars ++ behind).head? == some '-') = false := by
            simp [same, noMinus, noPlus]
          simp only [Numeral.exponentText, Numeral.signText, spanExponent, List.nil_append,
            List.cons_append, unsigned]
          simp [split]

/-- A numeral is split off as a whole. -/
theorem spanNumber_written (n : Numeral) {behind : List Char} (ends : EndsNumeral behind)
    : spanNumber (n.written ++ behind) = (n.written, behind) := by
  have body (c : Char) (member : c ∈ n.whole.chars ++ Numeral.fractionText n.fraction)
      : (c.isDigit || c == '.') = true := by
    rcases List.mem_append.mp member with front | back
    · rw [n.whole.digits c front, Bool.true_or]
    · match same : n.fraction with
      | none =>
          rw [same] at back
          cases back
      | some d =>
          rw [same] at back
          rcases List.mem_cons.mp back with rfl | digit
          · rfl
          · rw [d.digits c digit, Bool.true_or]
  have stop (c : Char) (first : c ∈ (Numeral.exponentText n.exponent ++ behind).head?)
      : (c.isDigit || c == '.') = false := by
    have apart := head?_exponentText_append n.exponent ends first
    rw [apart.1, beq_false_of_ne apart.2]
    rfl
  obtain ⟨front, back⟩ := Text.span_append body stop
  rw [Numeral.written, List.append_assoc _ _ behind, spanNumber]
  dsimp only
  rw [front, back, spanExponent_exponentText n.exponent ends]

theorem Numeral.exists_head (n : Numeral)
    : ∃ first others, n.written = first :: others ∧ first.isDigit = true := by
  obtain ⟨first, others, same, digit⟩ := n.whole.exists_head
  exact ⟨first, _, by rw [written, same, List.append_assoc, List.cons_append], digit⟩

theorem Numeral.stands (n : Numeral) {behind : List Char} (ends : EndsNumeral behind)
    : Stands behind n.written (.number n.value) := by
  obtain ⟨first, others, same, digit⟩ := n.exists_head
  refine .number ?_ (spanNumber_written n ends) ?_
  · rw [same, List.cons_append, startsNumber, digit, Bool.true_or]
  · have read := double?_of_isDigit digit others
    rw [← same, unsigned?_written] at read
    exact read

-----------------------------------------------------------------------------------------
-- Words
-----------------------------------------------------------------------------------------

/-- What is written for one token. -/
inductive Word where
  | symbol (sign : Symbol)
  | name (first : Char) (others : List Char) (starts : isNameStart first = true)
    (parts : ∀ c ∈ others, isNamePart c = true)
  | text (quote : Char) (opens : isQuote quote = true) (content : String)
  | number (numeral : Numeral)

/-- A character between two quotes. Behind a backslash the quote and the backslash mean themselves.
-/
def escapedIn (quote c : Char) : List Char :=
  if c = quote ∨ c = '\\' then ['\\', c] else [c]

namespace Word

/-- The token of a word. -/
def token : Word → Token
  | .symbol sign => .symbol sign
  | .name first others _ _ => .ident (String.ofList (first :: others))
  | .text _ _ content => .text content
  | .number numeral => .number numeral.value

/-- The text of a word. -/
def written : Word → List Char
  | .symbol sign => sign.spelling.toList
  | .name first others _ _ => first :: others
  | .text quote _ content => quote :: content.toList.flatMap (escapedIn quote) ++ [quote]
  | .number numeral => numeral.written

end Word

/-- Words with a single space between each two. -/
def spaced : List Word → List Char
  | [] => []
  | [word] => word.written
  | word :: next :: rest => word.written ++ ' ' :: spaced (next :: rest)

/-- The tokens of words that are spaced, from an offset on, and the end. -/
def laidOut (offset : Nat) : List Word → List Lexed
  | [] => [⟨.finish, offset⟩]
  | [word] => [⟨word.token, offset⟩, ⟨.finish, offset + byteSize word.written⟩]
  | word :: next :: rest =>
    ⟨word.token, offset⟩ :: laidOut (offset + byteSize word.written + 1) (next :: rest)

theorem quotes_escapedIn {quote : Char} (opens : isQuote quote = true) (content : List Char)
    : Quotes quote (content.flatMap (escapedIn quote)) content := by
  induction content with
  | nil => exact .nil
  | cons c content ih =>
      rw [List.flatMap_cons, escapedIn]
      split
      · rename_i special
        have plain : unescaped c = c := by
          rcases special with rfl | rfl
          · simp only [isQuote, Bool.or_eq_true, beq_iff_eq] at opens
            rcases opens with rfl | rfl <;> rfl
          · rfl
        have quoted := Quotes.escaped c ih
        rw [plain] at quoted
        exact quoted
      · rename_i plain
        rw [not_or] at plain
        exact .plain plain.2 plain.1 ih

/-- No sign is written with a space. -/
theorem Symbol.space_not_mem (sign : Symbol) : ' ' ∉ sign.spelling.toList := by
  cases sign <;> decide

/-- No sign goes on where a space stands behind it, or nothing. -/
theorem Symbol.stands_spaced (sign : Symbol) {behind : List Char}
    (apart : ∀ c ∈ behind.head?, c = ' ')
    : Stands behind sign.spelling.toList (.symbol sign) := by
  refine .sign ?_ fun other _ starts => ?_
  · cases behind with
    | nil => cases sign <;> rfl
    | cons c rest =>
        obtain rfl := apart c rfl
        cases sign <;> rfl
  · obtain ⟨rest, same⟩ := starts
    rcases List.append_eq_append_iff.mp same with ⟨more, longer, -⟩ | ⟨more, shorter, split⟩
    · rw [longer, List.length_append]
      omega
    · cases more with
      | nil => rw [shorter, List.append_nil]
      | cons c more =>
          obtain rfl := apart c (by rw [split]; rfl)
          exact (other.space_not_mem (by simp [shorter])).elim

/-- A word stands where a space is behind it, or nothing. -/
theorem Word.stands (word : Word) {behind : List Char} (apart : ∀ c ∈ behind.head?, c = ' ')
    : Stands behind word.written word.token := by
  cases word with
  | symbol sign => exact sign.stands_spaced apart
  | name first others starts parts =>
      refine .name starts parts fun c next => ?_
      rw [apart c next]
      rfl
  | text quote opens content =>
      have stands := @Stands.text behind quote _ content.toList opens (quotes_escapedIn opens _)
      rw [String.ofList_toList] at stands
      exact stands
  | number numeral =>
      refine numeral.stands fun c next => ?_
      rw [apart c next]
      decide

/-- Spaced words are cut into their tokens. -/
theorem isCut_spaced (offset : Nat) (words : List Word)
    : IsCut offset (spaced words) (laidOut offset words) := by
  fun_induction laidOut offset words with
  | case1 offset => exact .finish
  | case2 offset word =>
      have ends := @IsCut.finish (offset + byteSize word.written)
      have cut := IsCut.token (word.stands (by simp)) ends
      rw [List.append_nil] at cut
      exact cut
  | case3 offset word next rest ih =>
      exact .token (word.stands (by simp)) (.blank rfl ih)

/-- Nothing is lost when a source is cut into tokens. Words come back from their text, each at its
offset. Any source is cut into the texts of tokens and blanks between them, the offsets of the
tokens increasing from one place of a character to another, or is stuck at the place of one of its
characters.
-/
theorem lexing_is_faithful
    : (∀ words, lexToEnd (String.ofList (spaced words)) = .ok (laidOut 0 words))
      ∧ ∀ source,
        (∃ tokens, lexToEnd source = .ok tokens ∧ IsCut 0 source.toList tokens
          ∧ (tokens.Pairwise fun left right => left.offset < right.offset)
          ∧ ∀ lexed ∈ tokens, (⟨lexed.offset⟩ : String.Pos.Raw).IsValid source)
        ∨ ∃ error, lexToEnd source = .error error ∧ error.offset < source.utf8ByteSize
          ∧ (⟨error.offset⟩ : String.Pos.Raw).IsValid source := by
  constructor
  · intro words
    rw [lexToEnd_eq, String.toList_ofList]
    exact lexToEndFrom_eq_ok_iff.mpr (isCut_spaced 0 words)
  · intro source
    rw [lexToEnd_eq]
    cases outcome : lexToEndFrom 0 source.toList with
    | ok tokens =>
        have cut := lexToEndFrom_eq_ok_iff.mp outcome
        refine .inl ⟨tokens, rfl, cut, cut.increasing, fun lexed member => ?_⟩
        obtain ⟨front, back, split, at_⟩ := cut.exists_split member
        rw [at_, Nat.zero_add]
        exact isValid_of_append split
    | error error =>
        obtain ⟨front, c, rest, split, at_, -, -⟩ := stuck_of_lexToEndFrom outcome
        rw [Nat.zero_add] at at_
        refine .inr ⟨error, rfl, ?_, ?_⟩
        · have filled := byteSize_pos (List.cons_ne_nil c rest)
          rw [← String.ofList_toList (s := source), ← byteSize_eq_utf8ByteSize, split, at_,
            byteSize_append]
          omega
        · rw [at_]
          exact isValid_of_append split

end FormWizard.Expr
