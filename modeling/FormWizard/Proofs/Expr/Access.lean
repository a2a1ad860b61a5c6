import FormWizard.DataPath.Access
import FormWizard.Expr.Eval
import FormWizard.Proofs.Binary64.WholeNumbers
import FormWizard.Proofs.DataPath.Spelling
import FormWizard.Proofs.Expr.Completeness
import FormWizard.Proofs.Expr.Words

/-! Members and indexes in an expression are written as the segments of a data path are. Behind the
name of the data they lead to what the path leads to.
-/

namespace FormWizard.Expr

open Binary64 (ofInt rounded_of_lt whole?_ofInt isFinite_ofInt)
open DataPath (child? get? lookUp?)

-----------------------------------------------------------------------------------------
-- Indexes
-----------------------------------------------------------------------------------------

/-- A whole number below `2 ^ 53` in size is exact as a double, and is taken for whole again. -/
theorem ofDouble?_ofInt {n : ℤ} (small : n.natAbs < 2 ^ 53)
    : Json.Number.ofDouble? (ofInt n) = some (.whole n) := by
  have word : n.natAbs < 2 ^ 64 := by omega
  have exact : Json.Number.exactWhole? (ofInt n) = some n := by
    rw [Json.Number.exactWhole?, whole?_ofInt word, rounded_of_lt small]
    exact if_pos (decide_eq_true small)
  rw [Json.Number.ofDouble?, isFinite_ofInt word, exact]
  rfl

/-- The digits of a number are read as the double nearest to it. -/
theorem toDouble_natural {n : ℕ} (small : n < 2 ^ 53)
    : Decimal.toDouble false ⟨n, 0⟩ = ofInt n := by
  have short : n.log2 < 1100 := by
    rcases Nat.eq_zero_or_pos n with rfl | positive
    · decide
    · exact lt_trans ((Nat.log2_lt positive.ne').mpr small) (by norm_num)
  have whole : ofInt n = Binary64.nearest false n 1 := by
    rw [Binary64.ofInt, decide_eq_false (by omega), Int.natAbs_natCast]
  rw [whole, Decimal.toDouble]
  split
  · rename_i zero
    simp only at zero
    rw [zero]
  · rw [if_neg (by simp; omega), if_neg (by simp)]
    simp [Decimal.fraction]

/-- The numeral of an index. -/
def indexNumeral (position : ℕ) : Numeral where
  whole := ⟨Text.naturalDigits position, Text.naturalDigits_ne_nil position,
    fun _ => Text.isDigit_of_mem_naturalDigits⟩
  fraction := none
  exponent := none

theorem value_indexNumeral {position : ℕ} (small : position < 2 ^ 53)
    : (indexNumeral position).value = ofInt position := by
  rw [← toDouble_natural small, Numeral.value, Numeral.decimal]
  simp [indexNumeral, Numeral.fractionDigits, Numeral.exponentValue,
    Text.digitsValue_naturalDigits]

theorem written_indexNumeral (position : ℕ)
    : (indexNumeral position).written = Text.naturalDigits position := by
  simp [indexNumeral, Numeral.written, Numeral.fractionText, Numeral.exponentText]

-----------------------------------------------------------------------------------------
-- Text and tokens
-----------------------------------------------------------------------------------------

/-- A name that is one token. -/
def IsIdentifier (name : String) : Prop :=
  ∃ first others, name.toList = first :: others ∧ isNameStart first = true
    ∧ ∀ c ∈ others, isNamePart c = true

/-- A segment that an expression can hold as a path does. A length is a member of its own, and
greater positions are rounded.
-/
def IsAccess : Segment → Prop
  | .key name => IsIdentifier name ∧ name ≠ "length"
  | .index position => position < 2 ^ 53

/-- The tokens of a segment. -/
def accessTokens : Segment → List Token
  | .key name => [.symbol .dot, .ident name]
  | .index position => [.symbol .openBracket, .number (ofInt position), .symbol .closeBracket]

/-- The access of a segment behind an expression. -/
def accessed (target : Expr) : Segment → Expr
  | .key name => .member target name
  | .index position => .index target (.literal (.ofNat position))

/-- The segments of a path as text. -/
def segmentsText (path : DataPath) : List Char :=
  path.flatMap DataPath.Segment.spelling

/-- The name of the data and the segments behind it. -/
def accessText (path : DataPath) : String :=
  String.ofList ("data".toList ++ segmentsText path)

theorem toList_accessText (path : DataPath)
    : (accessText path).toList = "data".toList ++ segmentsText path :=
  String.toList_ofList

theorem IsIdentifier.stands {name : String} (h : IsIdentifier name) {behind : List Char}
    (ends : ∀ c ∈ behind.head?, isNamePart c = false)
    : Stands behind name.toList (.ident name) := by
  obtain ⟨first, others, same, starts, parts⟩ := h
  have stands := @Stands.name behind first others starts parts ends
  rw [← same, String.ofList_toList] at stands
  exact stands

/-- The points and brackets of accesses stand for themselves, whatever is behind them, but for a
digit behind a point.
-/
theorem stands_access {sign : Symbol} {c : Char} {behind : List Char}
    (spelled : sign.spelling.toList = [c]) (found : symbol? (c :: behind) = some sign)
    (noNumber : startsNumber (c :: behind) = false)
    : Stands behind [c] (.symbol sign) := by
  have longest := (symbol?_eq_some_iff.mp found).2
  have stands := @Stands.sign behind sign
  rw [spelled] at stands longest
  exact stands noNumber longest

/-- Neither a name nor a numeral goes on where a segment begins, or where nothing is left. -/
theorem isNamePart_head?_segmentsText {path : DataPath} {c : Char}
    (first : c ∈ (segmentsText path).head?)
    : isNamePart c = false := by
  cases path with
  | nil => cases first
  | cons segment rest =>
      cases segment with
      | key name =>
          cases first
          rfl
      | index position =>
          cases first
          rfl

/-- The segments of a path are cut into their tokens. -/
theorem isCutInto_segments {path : DataPath} (segments : ∀ segment ∈ path, IsAccess segment)
    : IsCutInto (path.flatMap accessTokens) (segmentsText path) := by
  induction path with
  | nil => exact isCutInto_nil
  | cons segment rest ih =>
      rw [List.forall_mem_cons] at segments
      have behind := ih segments.2
      rw [segmentsText, List.flatMap_cons, List.flatMap_cons, ← segmentsText]
      cases segment with
      | key name =>
          obtain ⟨identifier, -⟩ := segments.1
          have named := behind.stands (identifier.stands fun c => isNamePart_head?_segmentsText)
          obtain ⟨first, others, same, starts, -⟩ := identifier
          have noNumber : startsNumber ('.' :: (name.toList ++ segmentsText rest)) = false := by
            simp [startsNumber, same, (apart_of_isNameStart starts).1]
          have point : Stands (name.toList ++ segmentsText rest) ['.'] (.symbol .dot) :=
            stands_access rfl rfl noNumber
          exact named.stands point
      | index position =>
          have close : Stands (segmentsText rest) [']'] (.symbol .closeBracket) :=
            stands_access rfl rfl rfl
          have numeral := (indexNumeral position).stands
            (by simp [EndsNumeral] : EndsNumeral (']' :: segmentsText rest))
          rw [written_indexNumeral, value_indexNumeral segments.1] at numeral
          have opening : Stands (Text.naturalDigits position ++ ']' :: segmentsText rest) ['[']
              (.symbol .openBracket) :=
            stands_access rfl rfl rfl
          have cut := ((behind.stands close).stands numeral).stands opening
          simpa [DataPath.Segment.spelling, accessTokens] using cut

/-- The data and the segments behind it are cut into their tokens. -/
theorem isCutInto_accessText {path : DataPath} (segments : ∀ segment ∈ path, IsAccess segment)
    : IsCutInto (.ident "data" :: path.flatMap accessTokens) (accessText path).toList := by
  have identifier : IsIdentifier "data" :=
    ⟨'d', ['a', 't', 'a'], rfl, rfl, List.all_eq_true.mp rfl⟩
  rw [toList_accessText]
  exact (isCutInto_segments segments).stands
    (identifier.stands fun c => isNamePart_head?_segmentsText)

-----------------------------------------------------------------------------------------
-- Trees
-----------------------------------------------------------------------------------------

/-- A number that is a whole one below `2 ^ 53` is read as the position that it spells. -/
theorem whole_index {depth links position : ℕ} (small : position < 2 ^ 53) {number : Lexed}
    (isNumber : number.token = .number (ofInt position)) {back : List Lexed}
    (closing : (peek back).IsClosing)
    : (level (depth + 1)).whole links (number :: back)
      = .ok (.literal (.ofNat position), back) := by
  refine whole_of_operation (operation_of_operand ?_ (closing.stops _)) closing
  have literal : Json.Number.ofDouble? (ofInt position) = some (.whole position) :=
    ofDouble?_ofInt (by omega)
  have atom (inner : Parse Expr)
      : primary inner (number :: back) = .ok (.literal (.ofNat position), back) := by
    rw [primary, isNumber]
    dsimp only
    rw [literal]
    rfl
  rw [operand_eq_postfixed _ _ (by simp [peek, isNumber, unaryOp?]), postfixed, atom]
  exact resumeAccess_of_stops _ links (.literal (.ofNat position)) (closing.stops 0)

/-- Segments take one link each. Witness: induction on the path. -/
theorem accesses_segments {depth links : ℕ} {path : DataPath} (le : path.length ≤ links)
    (segments : ∀ segment ∈ path, IsAccess segment) (target : Expr) {front : List Lexed}
    (spelled : bare front = path.flatMap accessTokens)
    : accesses (level (depth + 1)).whole links target front
      = .ok (path.foldl accessed target, []) := by
  induction path generalizing links target front with
  | nil =>
      obtain rfl := List.map_eq_nil_iff.mp spelled
      rw [accesses.eq_def]
      rfl
  | cons segment rest ih =>
      rw [List.forall_mem_cons] at segments
      rw [List.flatMap_cons] at spelled
      cases links with
      | zero => simp at le
      | succ links =>
          have fewer : rest.length ≤ links := Nat.le_of_succ_le_succ le
          cases segment with
          | key name =>
              obtain ⟨dot, front, rfl, isDot, spelled⟩ := List.map_eq_cons_iff.mp spelled
              obtain ⟨named, front, rfl, isName, spelled⟩ := List.map_eq_cons_iff.mp spelled
              rw [accesses.eq_def]
              simp only [peek, isDot, List.tail_cons, isName]
              exact ih fewer segments.2 _ spelled
          | index position =>
              obtain ⟨opening, front, rfl, opens, spelled⟩ := List.map_eq_cons_iff.mp spelled
              obtain ⟨number, front, rfl, isNumber, spelled⟩ := List.map_eq_cons_iff.mp spelled
              obtain ⟨close, front, rfl, closes, spelled⟩ := List.map_eq_cons_iff.mp spelled
              have closing : (peek (close :: front)).IsClosing := by
                simp [peek, closes, Token.IsClosing]
              rw [accesses.eq_def]
              simp only [peek, opens, List.tail_cons, bind, Except.bind,
                whole_index segments.1 isNumber closing,
                expect_ok_iff.mpr ⟨close, rfl, closes⟩]
              exact ih fewer segments.2 _ spelled

/-- No segment is a call. -/
theorem ne_openParen_of_segments {path : DataPath} {front : List Lexed}
    (spelled : bare front = path.flatMap accessTokens)
    : peek front ≠ .symbol .openParen := by
  cases path with
  | nil =>
      obtain rfl := List.map_eq_nil_iff.mp spelled
      simp [peek]
  | cons segment rest =>
      cases segment with
      | key name =>
          obtain ⟨dot, front, rfl, isDot, -⟩ := List.map_eq_cons_iff.mp spelled
          simp [peek, isDot]
      | index position =>
          obtain ⟨opening, front, rfl, opens, -⟩ := List.map_eq_cons_iff.mp spelled
          simp [peek, opens]

/-- The data and the segments of a path behind it are an expression. -/
theorem parse_accessText {path : DataPath} (short : path.length ≤ maxLinks)
    (segments : ∀ segment ∈ path, IsAccess segment)
    : parse (accessText path) = .ok (path.foldl accessed (.ident "data")) := by
  obtain ⟨lexed, cut, spelled⟩ := isCutInto_accessText segments 0
  obtain ⟨name, front, rfl, isName, spelled⟩ := List.map_eq_cons_iff.mp spelled
  have atom (inner : Parse Expr) : primary inner (name :: front) = .ok (.ident "data", front) := by
    rw [primary, isName]
    rfl
  have operand : (level 63).operand maxLinks (name :: front)
      = .ok (path.foldl accessed (.ident "data"), []) := by
    rw [operand_eq_postfixed _ _ (by simp [peek, isName, unaryOp?]), postfixed, atom]
    exact (resumeAccess_of_ne (ne_openParen_of_segments spelled)).trans
      (accesses_segments short segments (.ident "data") spelled)
  have closing : (peek []).IsClosing := .inl rfl
  have whole : (level maxDepth).whole maxLinks (name :: front)
      = .ok (path.foldl accessed (.ident "data"), []) :=
    whole_of_operation (operation_of_operand operand (closing.stops _)) closing
  have accepted : ofTokens (name :: front) = .ok (path.foldl accessed (.ident "data")) := by
    rw [ofTokens, whole]
    rfl
  rw [parse, lex, cut]
  simp only [bind, Except.bind, accepted]
  rfl

-----------------------------------------------------------------------------------------
-- Values
-----------------------------------------------------------------------------------------

/-- There is nothing to go on with: the value is null, or there is none. -/
def IsMissing (result : Except EvalError Json) : Prop :=
  result = .ok .null ∨ ∃ error, result = .error error

/-- An expression has the value that was looked up, or misses it as well. -/
inductive Agrees : (found : Option Json) → (result : Except EvalError Json) → Prop
  | found (value : Json) : Agrees (some value) (.ok value)
  | missing {result : Except EvalError Json} (h : IsMissing result) : Agrees none result

theorem Agrees.eq_ok {value : Json} {result : Except EvalError Json}
    (h : Agrees (some value) result)
    : result = .ok value := by
  cases h
  rfl

theorem Agrees.isMissing {result : Except EvalError Json} (h : Agrees none result)
    : IsMissing result := by
  cases h with
  | missing nothing => exact nothing

/-- Where a missing member is null, an expression agrees with the lookup. -/
theorem agrees_getD (found : Option Json) : Agrees found (.ok (found.getD .null)) := by
  cases found with
  | none => exact .missing (.inl rfl)
  | some value => exact .found value

theorem IsIdentifier.natural? {name : String} (h : IsIdentifier name)
    : Text.natural? name.toList = none := by
  obtain ⟨first, others, same, starts, -⟩ := h
  obtain ⟨noDigit, -⟩ := apart_of_isNameStart starts
  have noPlus : first ≠ '+' := by
    rintro rfl
    cases starts
  rw [same, Text.natural?.eq_def]
  split
  · rename_i sign
    exact (noPlus (List.cons.inj sign).1).elim
  · simp [noDigit]

/-- An access leads to what the segment leads to. -/
theorem agrees_accessed {scope : Scope} {target : Expr} {value : Json} {segment : Segment}
    (evaluated : eval scope target = .ok value) (access : IsAccess segment)
    : Agrees (child? value segment) (eval scope (accessed target segment)) := by
  cases segment with
  | key name =>
      obtain ⟨identifier, noLength⟩ := access
      have step : eval scope (.member target name) = memberOf value name := by
        rw [eval, evaluated]
        rfl
      rw [accessed, step]
      cases value with
      | object members => exact agrees_getD _
      | array items =>
          rw [DataPath.child?_array_key, identifier.natural?, Option.bind_none, memberOf,
            if_neg noLength]
          exact .missing (.inl rfl)
      | string text =>
          rw [memberOf, if_neg noLength]
          exact .missing (.inl rfl)
      | null => exact .missing (.inr ⟨_, rfl⟩)
      | bool _ | number _ => exact .missing (.inl rfl)
  | index position =>
      have small : position < 2 ^ 53 := access
      have step : eval scope (.index target (.literal (.ofNat position)))
          = indexOf value (.ofNat position) := by
        rw [eval, evaluated, eval]
        rfl
      rw [accessed, step]
      cases value with
      | array items =>
          have whole : Binary64.whole? (Json.Number.whole position).toDouble
              = some (position : ℤ) := by
            rw [Json.Number.toDouble, whole?_ofInt (by omega), rounded_of_lt (by omega)]
          have item : itemOf items (.whole position) = (items[position]?).getD .null := by
            rw [itemOf, whole]
            simp
          change Agrees (items[position]?) (.ok (itemOf items (.whole position)))
          rw [item]
          exact agrees_getD _
      | null => exact .missing (.inr ⟨_, rfl⟩)
      | bool _ | number _ | string _ | object _ => exact .missing (.inl rfl)

/-- Behind what is missing nothing else is found. -/
theorem isMissing_accesses {scope : Scope} {target : Expr} (path : DataPath)
    (missing : IsMissing (eval scope target))
    : IsMissing (eval scope (path.foldl accessed target)) := by
  induction path generalizing target with
  | nil => exact missing
  | cons segment rest ih =>
      refine ih ?_
      rcases missing with isNull | ⟨error, failed⟩
      · cases segment with
        | key name => exact .inr ⟨.propertyOfNull name, by rw [accessed, eval, isNull]; rfl⟩
        | index position =>
            exact .inr ⟨.indexOfNull (.ofNat position), by rw [accessed, eval, isNull, eval]; rfl⟩
      · cases segment with
        | key name => exact .inr ⟨error, by rw [accessed, eval, failed]; rfl⟩
        | index position => exact .inr ⟨error, by rw [accessed, eval, failed]; rfl⟩

/-- Accesses lead to what the path leads to. Witness: induction on the path. -/
theorem agrees_accesses {scope : Scope} {target : Expr} {value : Json} {path : DataPath}
    (evaluated : eval scope target = .ok value) (segments : ∀ segment ∈ path, IsAccess segment)
    : Agrees (get? value path) (eval scope (path.foldl accessed target)) := by
  induction path generalizing target value with
  | nil =>
      rw [get?, List.foldl_nil, evaluated]
      exact .found value
  | cons segment rest ih =>
      rw [List.forall_mem_cons] at segments
      have step := agrees_accessed evaluated segments.1
      rw [List.foldl_cons, get?]
      cases child : child? value segment with
      | some inner =>
          rw [child] at step
          exact ih step.eq_ok segments.2
      | none =>
          rw [child] at step
          exact .missing (isMissing_accesses rest step.isMissing)

/-- Names have no blanks, no points and no brackets. -/
theorem plain_of_isNamePart {c : Char} (part : isNamePart c = true)
    : Text.isBlank c = false ∧ c ≠ '.' ∧ c ≠ '[' := by
  refine ⟨?_, ?_, ?_⟩
  · simp only [isNamePart, Char.isAlphanum, Bool.or_eq_true, isAlpha_iff, Text.isDigit_iff,
      beq_iff_eq] at part
    have range : 36 ≤ c.toNat ∧ c.toNat ≤ 122 := by
      rcases part with ((letter | digit) | rfl) | rfl
      · omega
      · omega
      · decide
      · decide
    simp only [Text.isBlank, Bool.or_eq_false_iff, Bool.and_eq_false_iff, decide_eq_false_iff_not,
      beq_eq_false_iff_ne]
    omega
  · rintro rfl
    cases part
  · rintro rfl
    cases part

theorem IsIdentifier.isPlainKey {name : String} (h : IsIdentifier name)
    : DataPath.IsPlainKey name := by
  obtain ⟨first, others, same, starts, parts⟩ := h
  have plain (c : Char) (member : c ∈ name.toList)
      : Text.isBlank c = false ∧ c ≠ '.' ∧ c ≠ '[' := by
    rw [same] at member
    rcases List.mem_cons.mp member with rfl | member
    · exact plain_of_isNamePart (apart_of_isNameStart starts).2.2.2.2
    · exact plain_of_isNamePart (parts c member)
  exact
    { nonempty := by simp [same]
      trimmed := Text.trim_eq_self (fun c first => (plain c (List.mem_of_mem_head? first)).1)
        fun c last => (plain c (List.mem_of_mem_getLast? last)).1
      noDot := fun member => (plain '.' member).2.1 rfl
      noBracket := fun member => (plain '[' member).2.2 rfl }

/-- A segment that an expression can hold as a path does is plain. -/
theorem IsAccess.isPlain {segment : Segment} (h : IsAccess segment) : DataPath.IsPlain segment := by
  cases segment with
  | key name => exact h.1.isPlainKey
  | index position =>
      have small : position < 2 ^ 53 := h
      have limit : Text.wordLimit = 2 ^ 64 := rfl
      rw [DataPath.IsPlain, limit]
      omega

/-- Where no local hides the data, an expression that is the name of the data with members and
indexes behind it is accepted, and has the value at the data path with the same segments. If there
is none, it has no value either, or null.
-/
theorem access_agrees_with_lookUp {scope : Scope} {path : DataPath}
    (free : Table.find? "data" scope.locals = none) (short : path.length ≤ 256)
    (segments : ∀ segment ∈ path, IsAccess segment)
    : ∃ expr, parse (accessText path) = .ok expr
      ∧ (∀ value, lookUp? scope.data (DataPath.text path) = some value →
        eval scope expr = .ok value)
      ∧ (lookUp? scope.data (DataPath.text path) = none →
        eval scope expr = .ok .null ∨ ∃ error, eval scope expr = .error error) := by
  have root : eval scope (.ident "data") = .ok scope.data := by
    rw [eval, Scope.lookUp, free]
  have agrees := agrees_accesses root segments
  have plain : DataPath.ofText (DataPath.text path) = path :=
    DataPath.ofText_text fun segment member => (segments segment member).isPlain
  rw [lookUp?, plain]
  refine ⟨_, parse_accessText short segments, ?_, ?_⟩
  · intro value found
    rw [found] at agrees
    exact agrees.eq_ok
  · intro none
    rw [none] at agrees
    exact agrees.isMissing

/-- Two orders, of which one has a member with the name of a constant. -/
def orders : Json :=
  .object [("orders", .array [.object [("true", .ofInt 7)], .null])]

/-- The path to that member of one of the orders. -/
def orderPath (position : ℕ) : DataPath :=
  [.key "orders", .index position, .key "true"]

/-- A scope in which only the data can be referred to. -/
def dataScope (data : Json) : Scope where
  locals := []
  data := data
  user := none
  functions := []
  now := default

/-- The member of the first order is found, and nothing behind the second, which is null. -/
theorem access_agrees_with_lookUp_orders
    : (∃ expr, parse "data.orders[0].true" = .ok expr
        ∧ eval (dataScope orders) expr = .ok (.ofInt 7))
      ∧ ∃ expr, parse "data.orders[1].true" = .ok expr
        ∧ (eval (dataScope orders) expr = .ok .null
          ∨ ∃ error, eval (dataScope orders) expr = .error error) := by
  have segments (position : ℕ) (small : position < 2 ^ 53)
      : ∀ segment ∈ orderPath position, IsAccess segment := by
    have orders : IsIdentifier "orders" := ⟨'o', "rders".toList, rfl, rfl, List.all_eq_true.mp rfl⟩
    have truth : IsIdentifier "true" := ⟨'t', "rue".toList, rfl, rfl, List.all_eq_true.mp rfl⟩
    intro segment member
    simp only [orderPath, List.mem_cons, List.not_mem_nil, or_false] at member
    rcases member with rfl | rfl | rfl
    · exact ⟨orders, by decide⟩
    · exact small
    · exact ⟨truth, by decide⟩
  have firstText : accessText (orderPath 0) = "data.orders[0].true" := by decide
  have secondText : accessText (orderPath 1) = "data.orders[1].true" := by decide
  have found : lookUp? orders (DataPath.text (orderPath 0)) = some (.ofInt 7) := by decide
  have missing : lookUp? orders (DataPath.text (orderPath 1)) = none := by decide
  obtain ⟨first, firstParsed, value, -⟩ := @access_agrees_with_lookUp (dataScope orders)
    (orderPath 0) rfl (by decide) (segments 0 (by decide))
  obtain ⟨second, secondParsed, -, nothing⟩ := @access_agrees_with_lookUp (dataScope orders)
    (orderPath 1) rfl (by decide) (segments 1 (by decide))
  exact ⟨⟨first, firstText ▸ firstParsed, value _ found⟩,
    second, secondText ▸ secondParsed, nothing missing⟩

end FormWizard.Expr
