import FormWizard.Proofs.Expr.Soundness

/-! Whatever the grammar derives, the parser accepts, with the tree of the derivation, unless it
reaches one of its two bounds first. So the parser accepts exactly its grammar within its bounds.
-/

namespace FormWizard.Expr

-----------------------------------------------------------------------------------------
-- Bounds
-----------------------------------------------------------------------------------------

/-- The fault is that a bound on the height of trees was reached. -/
def Fault.IsBound (fault : Fault) : Prop :=
  fault = .nestedTooDeeply ∨ fault = .chainTooLong

/-- The result is the expected one, unless a bound was reached. -/
def Attains {α : Type} (result expected : Except Stuck α) : Prop :=
  result = expected ∨ ∃ stuck, result = .error stuck ∧ stuck.fault.IsBound

section

variable {α β : Type} {result middle expected : Except Stuck α}

theorem Attains.refl (result : Except Stuck α) : Attains result result :=
  Or.inl rfl

theorem Attains.trans (h : Attains result middle) (h' : Attains middle expected)
    : Attains result expected := by
  rcases h with rfl | bound
  · exact h'
  · exact Or.inr bound

theorem attains_error {stuck : Stuck} (h : stuck.fault.IsBound)
    : Attains (.error stuck) expected :=
  Or.inr ⟨stuck, rfl, h⟩

/-- A bound that is reached by a step ends all that would follow it. -/
theorem Attains.bind {first : Except Stuck β} {value : β} {next : β → Except Stuck α}
    (h : Attains first (.ok value)) (h' : Attains (next value) expected)
    : Attains (first >>= next) expected := by
  rcases h with rfl | ⟨stuck, rfl, bound⟩
  · exact h'
  · exact attains_error bound

end

-----------------------------------------------------------------------------------------
-- Where phrases start and stop
-----------------------------------------------------------------------------------------

/-- No phrase is empty or starts with a closing sign, and only operands start with a sign in front
of them.
-/
theorem Derives.starts {phrase : Phrase} {tokens : List Token} {tree : Expr}
    (h : Derives phrase tokens tree)
    : ∃ first rest, tokens = first :: rest
      ∧ first ≠ .symbol .closeParen ∧ first ≠ .symbol .closeBracket
      ∧ (phrase = .access ∨ phrase = .atom → unaryOp? first = none) := by
  induction h with
  | conditional _ _ _ ih _ _ | binary _ _ _ ih _ =>
      obtain ⟨first, rest, rfl, notParen, notBracket, -⟩ := ih
      exact ⟨first, _, rfl, notParen, notBracket, by simp⟩
  | plain _ ih | tighter _ ih | single _ ih | unsigned _ ih =>
      obtain ⟨first, rest, rfl, notParen, notBracket, -⟩ := ih
      exact ⟨first, rest, rfl, notParen, notBracket, by simp⟩
  | unary before _ _ =>
      refine ⟨_, _, rfl, ?_, ?_, by simp⟩ <;> rintro ⟨⟩ <;> simp [signsBefore] at before
  | member _ _ ih | index _ _ ih _ | call _ _ _ ih _ =>
      obtain ⟨first, rest, rfl, notParen, notBracket, unsigned⟩ := ih
      exact ⟨first, _, rfl, notParen, notBracket, fun _ => unsigned (.inl rfl)⟩
  | alone _ ih =>
      obtain ⟨first, rest, rfl, notParen, notBracket, unsigned⟩ := ih
      exact ⟨first, rest, rfl, notParen, notBracket, fun _ => unsigned (.inr rfl)⟩
  | number _ _ | text _ | constant _ | name _ | group _ _ | array _ _ _ =>
      exact ⟨_, _, rfl, by simp, by simp, fun _ => rfl⟩

/-- What is read takes a token at least. -/
theorem IsSound.length_lt {phrase : Phrase} {parse : Parse Expr} (sound : IsSound phrase parse)
    {tokens rest : List Lexed} {tree : Expr} (h : parse tokens = .ok (tree, rest))
    : rest.length < tokens.length := by
  obtain ⟨read, rfl, derived⟩ := sound h
  obtain ⟨first, others, split, -⟩ := derived.starts
  obtain ⟨lexed, read, rfl, -⟩ := List.map_eq_cons_iff.mp split
  rw [List.length_append, List.length_cons]
  omega

/-- The token ends a condition: it closes what the condition stands in, or separates the condition
from the next one.
-/
def Token.IsClosing (token : Token) : Prop :=
  token = .finish ∨ token = .symbol .closeParen ∨ token = .symbol .closeBracket
    ∨ token = .symbol .comma ∨ token = .symbol .colon

/-- The token goes on neither with an operand nor with an operation below the degree. -/
structure Token.Stops (degree : Nat) (token : Token) : Prop where
  notDot : token ≠ .symbol .dot
  notBracket : token ≠ .symbol .openBracket
  notParen : token ≠ .symbol .openParen
  noOperator : ∀ lower < degree, binaryOp? lower token = none

theorem Token.Stops.mono {degree lower : Nat} {token : Token} (h : token.Stops degree)
    (le : lower ≤ degree)
    : token.Stops lower :=
  { h with noOperator := fun least lt => h.noOperator least (by omega) }

theorem Token.IsClosing.stops {token : Token} (h : token.IsClosing) (degree : Nat)
    : token.Stops degree := by
  have noSign (lower : Nat) : binaryOp? lower token = none := by
    rcases h with rfl | rfl | rfl | rfl | rfl <;> rfl
  rcases h with rfl | rfl | rfl | rfl | rfl <;>
    exact ⟨by simp, by simp, by simp, fun lower _ => noSign lower⟩

/-- A sign between operands has one degree only, and goes on with nothing below it. -/
theorem stops_of_mem_signsBetween {degree : Nat} {sign : Symbol} {op : BinaryOp}
    (h : (sign, op) ∈ signsBetween degree)
    : (Token.symbol sign).Stops degree := by
  have read : binaryOp? degree (.symbol sign) = some op :=
    binaryOp?_eq_some_iff.mpr ⟨sign, rfl, h⟩
  refine ⟨?_, ?_, ?_, ?_⟩
  · rintro ⟨⟩
    cases read
  · rintro ⟨⟩
    cases read
  · rintro ⟨⟩
    cases read
  · intro lower lt
    simp only [binaryOp?] at read ⊢
    split at read
    · split at read
      · rename_i found _ same
        rw [if_neg (by omega)]
      · cases read
    · cases read

theorem stops_question (degree : Nat) : (Token.symbol .question).Stops degree :=
  ⟨by simp, by simp, by simp, fun _ _ => rfl⟩

-----------------------------------------------------------------------------------------
-- What is left to do
-----------------------------------------------------------------------------------------

/-- What is left to do of an operation of a degree when an operation was read that it may start
with.
-/
def resumeOperation (operand : ParseWithin Expr) : (degree links : Nat) → Expr → Parse Expr
  | 0, _, tree, tokens => .ok (tree, tokens)
  | degree + 1, links, tree, tokens =>
    chain degree (operation operand degree) links tree tokens

/-- What is left to do when an atom was read, or an atom and something behind it. -/
def resumeAccess (inner : ParseWithin Expr) (links : Nat) (tree : Expr) : Parse Expr :=
  fun tokens =>
    match tree, peek tokens with
    | .ident name, .symbol .openParen => do
      let (args, tokens) ← list .closeParen (inner links) tokens.tail
      accesses inner links (.call name args) tokens
    | _, _ => accesses inner links tree tokens

/-- Nothing is left to do in front of a token that stops the operation. -/
theorem resumeOperation_of_stops (operand : ParseWithin Expr) {degree : Nat} (links : Nat)
    (tree : Expr) {back : List Lexed} (h : (peek back).Stops degree)
    : resumeOperation operand degree links tree back = .ok (tree, back) := by
  cases degree with
  | zero => rfl
  | succ degree =>
      rw [resumeOperation, chain]
      exact h.noOperator degree (Nat.lt_succ_self degree)

/-- Where no sign of a lower degree is next, the first operand is all of an operation. -/
theorem operation_of_operand {operand : ParseWithin Expr} {links degree : Nat}
    {tokens back : List Lexed} {tree : Expr} (read : operand links tokens = .ok (tree, back))
    (ends : (peek back).Stops degree)
    : operation operand degree links tokens = .ok (tree, back) := by
  induction degree with
  | zero => exact read
  | succ degree ih =>
      rw [operation]
      dsimp only
      rw [ih (ends.mono (Nat.le_succ degree))]
      exact resumeOperation_of_stops operand links tree ends

/-- An operation that ends the condition is all of it. -/
theorem whole_of_operation {depth links : Nat} {tokens back : List Lexed} {tree : Expr}
    (read : operation (level depth).operand looseness links tokens = .ok (tree, back))
    (closing : (peek back).IsClosing)
    : (level (depth + 1)).whole links tokens = .ok (tree, back) := by
  have ends : peek back ≠ .symbol .question := by
    intro question
    simp [Token.IsClosing, question] at closing
  simp only [level, branching, read, bind, Except.bind, if_neg ends]
  rfl

/-- Where something else than a call follows, members and indexes do. -/
theorem resumeAccess_of_ne {inner : ParseWithin Expr} {links : Nat} {tree : Expr}
    {tokens : List Lexed} (h : peek tokens ≠ .symbol .openParen)
    : resumeAccess inner links tree tokens = accesses inner links tree tokens := by
  unfold resumeAccess
  split
  · rename_i opens
    exact (h opens).elim
  · rfl

/-- Only a bare name can be called. -/
theorem resumeAccess_of_notName {inner : ParseWithin Expr} {target : Expr}
    (other : ∀ name, target ≠ .ident name) (links : Nat)
    : resumeAccess inner links target = accesses inner links target := by
  funext tokens
  unfold resumeAccess
  split
  · exact (other _ rfl).elim
  · rfl

theorem resumeAccess_of_stops (inner : ParseWithin Expr) {degree : Nat} (links : Nat)
    (tree : Expr) {back : List Lexed} (h : (peek back).Stops degree)
    : resumeAccess inner links tree back = .ok (tree, back) := by
  obtain ⟨notDot, notBracket, notParen, -⟩ := h
  have done : accesses inner links tree back = .ok (tree, back) := by
    unfold accesses
    split <;> simp_all
  rw [resumeAccess_of_ne notParen, done]

/-- A sign and its right operand bring a chain one link further. -/
theorem attains_resumeOperation_binary {operand : ParseWithin Expr} {degree : Nat} (links : Nat)
    {op : BinaryOp} (left : Expr) {right : Expr} {lexed : Lexed} {tokens back : List Lexed}
    (between : binaryOp? degree lexed.token = some op)
    (second : ∀ links, Attains (operation operand degree links tokens) (.ok (right, back)))
    : ∃ links', Attains
        (resumeOperation operand (degree + 1) links left (lexed :: tokens))
        (resumeOperation operand (degree + 1) links' (.binary op left right) back) := by
  simp only [resumeOperation]
  rw [chain.eq_def]
  cases links with
  | zero =>
      simp only [peek, between]
      exact ⟨0, attains_error (.inr rfl)⟩
  | succ links =>
      simp only [peek, between]
      exact ⟨links, (second links).bind (.refl _)⟩

section

variable {inner : ParseWithin Expr} {target : Expr} {lexed : Lexed} {back : List Lexed}

/-- A point and a name bring a chain of accesses one link further. -/
theorem attains_resumeAccess_member (links : Nat) {named : Lexed} {name : String}
    (isDot : lexed.token = .symbol .dot) (isName : named.token = .ident name)
    : ∃ links', Attains (resumeAccess inner links target (lexed :: named :: back))
        (resumeAccess inner links' (.member target name) back) := by
  have step : resumeAccess inner links target (lexed :: named :: back)
      = accesses inner links target (lexed :: named :: back) := by
    simp [resumeAccess, peek, isDot]
  rw [step, accesses.eq_def]
  cases links with
  | zero =>
      simp only [peek, isDot]
      exact ⟨0, attains_error (.inr rfl)⟩
  | succ links =>
      simp only [peek, isDot, List.tail_cons, isName]
      exact ⟨links, .refl _⟩

/-- A position in brackets brings a chain of accesses one link further. -/
theorem attains_resumeAccess_index (links : Nat) {position : Expr} {last : Lexed}
    {tokens : List Lexed} (opens : lexed.token = .symbol .openBracket)
    (closes : last.token = .symbol .closeBracket)
    (inside : ∀ links, Attains (inner links tokens) (.ok (position, last :: back)))
    : ∃ links', Attains (resumeAccess inner links target (lexed :: tokens))
        (resumeAccess inner links' (.index target position) back) := by
  have step : resumeAccess inner links target (lexed :: tokens)
      = accesses inner links target (lexed :: tokens) := by
    simp [resumeAccess, peek, opens]
  rw [step, accesses.eq_def]
  cases links with
  | zero =>
      simp only [peek, opens]
      exact ⟨0, attains_error (.inr rfl)⟩
  | succ links =>
      simp only [peek, opens, List.tail_cons]
      refine ⟨links, (inside links).bind ?_⟩
      exact Attains.bind (.inl (expect_ok_iff.mpr ⟨last, rfl, closes⟩)) (.refl _)

end

-----------------------------------------------------------------------------------------
-- Lists
-----------------------------------------------------------------------------------------

/-- The parser reads the tokens as a whole, up to a token that ends a condition. -/
def Accepts (item : Parse Expr) (tokens : List Token) (tree : Expr) : Prop :=
  ∀ {front back : List Lexed}, bare front = tokens → (peek back).IsClosing →
    Attains (item (front ++ back)) (.ok (tree, back))

theorem attains_items {close : Symbol} {item : Parse Expr}
    (closes : (Token.symbol close).IsClosing) (notComma : close ≠ .comma)
    (parts : List (List Token × Expr)) (each : ∀ part ∈ parts, Accepts item part.1 part.2)
    (nonempty : parts ≠ []) {count : Nat} (enough : parts.length ≤ count) {front back : List Lexed}
    {last : Lexed} (spelled : bare front = commaSeparated (parts.map Prod.fst))
    (isLast : last.token = .symbol close)
    : Attains (items close item count (front ++ last :: back)) (.ok (parts.map Prod.snd, back)) := by
  induction parts generalizing front count with
  | nil => exact (nonempty rfl).elim
  | cons part rest ih =>
      obtain ⟨count, rfl⟩ : ∃ less, count = less + 1 := ⟨count - 1, by simp at enough; omega⟩
      rw [List.forall_mem_cons] at each
      rw [items]
      cases rest with
      | nil =>
          have spelled : bare front = part.1 := by simpa [commaSeparated] using spelled
          refine (each.1 spelled (by simpa [peek, isLast] using closes)).bind ?_
          simp only [peek, isLast, if_true]
          exact .refl _
      | cons next rest =>
          obtain ⟨first, others, rfl, isFirst, areOthers⟩ := List.map_eq_append_iff.mp spelled
          obtain ⟨comma, behind, rfl, isComma, areBehind⟩ := List.map_eq_cons_iff.mp areOthers
          rw [List.append_assoc]
          refine (each.1 isFirst (by simp [peek, isComma, Token.IsClosing])).bind ?_
          have another : Token.symbol .comma ≠ .symbol close := by simpa [eq_comm] using notComma
          simp only [List.cons_append, peek, isComma, if_neg another]
          refine Attains.bind (.inl (expect_ok_iff.mpr ⟨comma, rfl, isComma⟩)) ?_
          have tail := ih each.2 (by simp) (Nat.le_of_succ_le_succ enough) areBehind
          exact tail.bind (.refl _)

/-- A list of phrases has no more of them than tokens. -/
theorem length_le_commaSeparated {parts : List (List Token)} (h : ∀ part ∈ parts, part ≠ [])
    : parts.length ≤ (commaSeparated parts).length := by
  induction parts with
  | nil => simp
  | cons part rest ih =>
      rw [List.forall_mem_cons] at h
      have first := List.length_pos_iff.mpr h.1
      cases rest with
      | nil => simpa [commaSeparated, Nat.succ_le_iff] using first
      | cons next rest =>
          have more := ih h.2
          simp only [commaSeparated, List.length_cons, List.length_append] at more ⊢
          omega

/-- A list of conditions is more than its closing sign, which starts none of them, and it has no more
items than are tried.
-/
theorem exists_list_eq_items {close : Symbol} (item : Parse Expr)
    (closes : close = .closeParen ∨ close = .closeBracket) {parts : List (List Token × Expr)}
    (each : ∀ part ∈ parts, Derives .condition part.1 part.2) (nonempty : parts ≠ [])
    {front : List Lexed} (spelled : bare front = commaSeparated (parts.map Prod.fst))
    (back : List Lexed)
    : ∃ count, parts.length ≤ count
      ∧ list close item (front ++ back) = items close item count (front ++ back) := by
  obtain ⟨part, rest, rfl⟩ := List.exists_cons_of_ne_nil nonempty
  obtain ⟨token, tokens, starts, notParen, notBracket, -⟩ := (each part List.mem_cons_self).starts
  obtain ⟨more, whole⟩ : ∃ more, bare front = token :: more := by
    rw [spelled]
    cases rest <;> simp [commaSeparated, starts]
  obtain ⟨lexed, behind, rfl, isFirst, -⟩ := List.map_eq_cons_iff.mp whole
  have opens : peek (lexed :: behind ++ back) ≠ .symbol close := by
    rcases closes with rfl | rfl
    · simpa [peek, isFirst] using notParen
    · simpa [peek, isFirst] using notBracket
  have nonempty : ∀ tokens ∈ (part :: rest).map Prod.fst, tokens ≠ [] := by
    intro tokens listed
    obtain ⟨part, member, rfl⟩ := List.mem_map.mp listed
    obtain ⟨first, others, split, -⟩ := (each part member).starts
    simp [split]
  have enough := length_le_commaSeparated nonempty
  rw [← spelled] at enough
  refine ⟨(lexed :: behind ++ back).length + 1, ?_, if_neg opens⟩
  simp only [List.length_map, List.length_append, List.length_cons] at enough ⊢
  omega

/-- A list of conditions is read up to its closing sign. -/
theorem attains_list {close : Symbol} {item : Parse Expr}
    (closes : close = .closeParen ∨ close = .closeBracket) {parts : List (List Token × Expr)}
    (each : ∀ part ∈ parts, Derives .condition part.1 part.2)
    (accepts : ∀ part ∈ parts, Accepts item part.1 part.2) {front back : List Lexed}
    {last : Lexed} (spelled : bare front = commaSeparated (parts.map Prod.fst))
    (isLast : last.token = .symbol close)
    : Attains (list close item (front ++ last :: back)) (.ok (parts.map Prod.snd, back)) := by
  cases parts with
  | nil =>
      obtain rfl : front = [] := by simpa [commaSeparated] using spelled
      rw [list, if_pos (by simpa [peek] using isLast)]
      exact .refl _
  | cons part rest =>
      obtain ⟨count, enough, same⟩ :=
        exists_list_eq_items item closes each (by simp) spelled (last :: back)
      rw [same]
      refine attains_items ?_ ?_ _ accepts (by simp) enough spelled isLast
      · rcases closes with rfl | rfl <;> simp [Token.IsClosing]
      · rcases closes with rfl | rfl <;> simp

-----------------------------------------------------------------------------------------
-- Derivations
-----------------------------------------------------------------------------------------

/-- The parsers of all levels read phrases of the given kind. An operation, or an atom with
something behind it, may go on behind the tokens that were read: what is left to do then may have
fewer links left.
-/
def Completes : Phrase → List Token → Expr → Prop
  | .condition, tokens, tree =>
    ∀ depth links, Accepts ((level depth).whole links) tokens tree
  | .operation degree, tokens, tree =>
    ∀ depth links {front back : List Lexed}, bare front = tokens →
      (peek back).Stops (degree - 1) →
      ∃ links', Attains (operation (level depth).operand degree links (front ++ back))
        (resumeOperation (level depth).operand degree links' tree back)
  | .operand, tokens, tree =>
    ∀ depth links {front back : List Lexed}, bare front = tokens → (peek back).Stops 0 →
      Attains ((level depth).operand links (front ++ back)) (.ok (tree, back))
  | .access, tokens, tree =>
    ∀ depth links {front : List Lexed} (back : List Lexed), bare front = tokens →
      ∃ links', Attains (postfixed (level depth).whole links (front ++ back))
        (resumeAccess (level depth).whole links' tree back)
  | .atom, tokens, tree =>
    ∀ depth links {front : List Lexed} (back : List Lexed), bare front = tokens →
      Attains (primary ((level depth).whole links) (front ++ back)) (.ok (tree, back))

/-- An operation is read as a whole in front of a token that stops it. -/
theorem Completes.attains_operation {degree : Nat} {tokens : List Token} {tree : Expr}
    (h : Completes (.operation degree) tokens tree) (depth links : Nat) {front back : List Lexed}
    (spelled : bare front = tokens) (stops : (peek back).Stops degree)
    : Attains (operation (level depth).operand degree links (front ++ back))
        (.ok (tree, back)) := by
  obtain ⟨links', read⟩ := h depth links spelled (stops.mono (Nat.sub_le degree 1))
  rwa [resumeOperation_of_stops _ links' tree stops] at read

/-- With no level of nesting left no condition is read. -/
theorem attains_whole_zero (links : Nat) (tokens : List Lexed)
    {expected : Except Stuck (Expr × List Lexed)}
    : Attains ((level 0).whole links tokens) expected :=
  attains_error (.inl rfl)

theorem completes_plain {tokens : List Token} {tree : Expr}
    (whole : Completes (.operation 6) tokens tree)
    : Completes .condition tokens tree := by
  intro depth links front back spelled closing
  cases depth with
  | zero => exact attains_whole_zero links _
  | succ depth =>
      refine (whole.attains_operation depth links spelled (closing.stops 6)).bind ?_
      have unasked : peek back ≠ .symbol .question := by
        rcases closing with h | h | h | h | h <;> simp [h]
      simp only [if_neg unasked]
      exact .refl _

theorem completes_conditional {asked yes no : List Token} {condition whenTrue whenFalse : Expr}
    (test : Completes (.operation 6) asked condition)
    (first : Completes .condition yes whenTrue) (second : Completes .condition no whenFalse)
    : Completes .condition (asked ++ .symbol .question :: (yes ++ .symbol .colon :: no))
        (.conditional condition whenTrue whenFalse) := by
  intro depth links front back spelled closing
  cases depth with
  | zero => exact attains_whole_zero links _
  | succ depth =>
      obtain ⟨asks, behind, rfl, areAsked, spelled⟩ := List.map_eq_append_iff.mp spelled
      obtain ⟨mark, behind, rfl, isMark, spelled⟩ := List.map_eq_cons_iff.mp spelled
      obtain ⟨ones, behind, rfl, areYes, spelled⟩ := List.map_eq_append_iff.mp spelled
      obtain ⟨colon, others, rfl, isColon, areNo⟩ := List.map_eq_cons_iff.mp spelled
      have stops : (peek (mark :: (ones ++ colon :: others) ++ back)).Stops 6 := by
        simpa [peek, isMark] using stops_question 6
      rw [List.append_assoc]
      refine (test.attains_operation depth links areAsked stops).bind ?_
      simp only [List.cons_append, peek, isMark, if_true, List.tail_cons, List.append_assoc]
      refine (first depth links areYes (by simp [peek, isColon, Token.IsClosing])).bind ?_
      refine Attains.bind (.inl (expect_ok_iff.mpr ⟨colon, rfl, isColon⟩)) ?_
      exact (second depth links areNo closing).bind (.refl _)

theorem completes_binary {degree : Nat} {sign : Symbol} {op : BinaryOp}
    {before behind : List Token} {left right : Expr}
    (between : (sign, op) ∈ signsBetween degree)
    (first : Completes (.operation (degree + 1)) before left)
    (second : Completes (.operation degree) behind right)
    : Completes (.operation (degree + 1)) (before ++ .symbol sign :: behind)
        (.binary op left right) := by
  intro depth links front back spelled stops
  obtain ⟨operand, rest, rfl, isLeft, spelled⟩ := List.map_eq_append_iff.mp spelled
  obtain ⟨lexed, other, rfl, isSign, isRight⟩ := List.map_eq_cons_iff.mp spelled
  rw [List.append_assoc]
  have stopped : (peek (lexed :: other ++ back)).Stops degree := by
    simpa [peek, isSign] using stops_of_mem_signsBetween between
  obtain ⟨links₁, read⟩ := first depth links isLeft stopped
  have operator : binaryOp? degree lexed.token = some op :=
    binaryOp?_eq_some_iff.mpr ⟨sign, isSign, between⟩
  obtain ⟨links₂, further⟩ := attains_resumeOperation_binary links₁ left operator
    fun links => second.attains_operation depth links isRight stops
  exact ⟨links₂, read.trans further⟩

theorem completes_tighter {degree : Nat} {tokens : List Token} {tree : Expr}
    (whole : Completes (.operation degree) tokens tree)
    : Completes (.operation (degree + 1)) tokens tree := by
  intro depth links front back spelled stops
  exact ⟨links, (whole.attains_operation depth links spelled stops).bind (.refl _)⟩

theorem completes_unary {sign : Symbol} {op : UnaryOp} {tokens : List Token} {tree : Expr}
    (before : (sign, op) ∈ signsBefore) (rest : Completes .operand tokens tree)
    : Completes .operand (.symbol sign :: tokens) (.unary op tree) := by
  intro depth links front back spelled stops
  obtain ⟨lexed, others, rfl, isSign, areOthers⟩ := List.map_eq_cons_iff.mp spelled
  have operator : unaryOp? lexed.token = some op :=
    unaryOp?_eq_some_iff.mpr ⟨sign, isSign, before⟩
  cases depth with
  | zero =>
      simp only [level, signed, List.cons_append, peek, operator]
      exact attains_error (.inl rfl)
  | succ depth =>
      simp only [level, signed, List.cons_append, peek, operator]
      exact (rest depth links areOthers stops).bind (.refl _)

/-- Without a sign in front an operand is an atom and what stands behind it. -/
theorem operand_eq_postfixed (depth links : Nat) {tokens : List Lexed}
    (h : unaryOp? (peek tokens) = none)
    : (level depth).operand links tokens = postfixed (level depth).whole links tokens := by
  cases depth <;> simp only [level, signed, h]

theorem completes_unsigned {tokens : List Token} {tree : Expr}
    (derived : Derives .access tokens tree) (whole : Completes .access tokens tree)
    : Completes .operand tokens tree := by
  intro depth links front back spelled stops
  obtain ⟨first, rest, rfl, -, -, unsigned⟩ := derived.starts
  obtain ⟨lexed, others, rfl, isFirst, -⟩ := List.map_eq_cons_iff.mp spelled
  have bareFirst : unaryOp? (peek (lexed :: others ++ back)) = none := by
    simpa [peek, isFirst] using unsigned
  rw [operand_eq_postfixed depth links bareFirst]
  obtain ⟨links', read⟩ := whole depth links back spelled
  rwa [resumeAccess_of_stops _ links' tree stops] at read

/-- Tokens between an opening and a closing one come from lexemes of this shape. -/
theorem exists_enclosed {first final : Token} {inside : List Token} {front : List Lexed}
    (h : bare front = first :: (inside ++ [final]))
    : ∃ opening within' closing, front = opening :: (within' ++ [closing])
      ∧ opening.token = first ∧ bare within' = inside ∧ closing.token = final := by
  obtain ⟨opening, rest, rfl, opens, spelled⟩ := List.map_eq_cons_iff.mp h
  obtain ⟨within', rest, rfl, areWithin, spelled⟩ := List.map_eq_append_iff.mp spelled
  obtain ⟨closing, rest, rfl, closes, spelled⟩ := List.map_eq_cons_iff.mp spelled
  obtain rfl := List.map_eq_nil_iff.mp spelled
  exact ⟨opening, within', closing, rfl, opens, areWithin, closes⟩

theorem completes_member {tokens : List Token} {target : Expr}
    (front : Completes .access tokens target) (name : String)
    : Completes .access (tokens ++ [.symbol .dot, .ident name]) (.member target name) := by
  intro depth links front' back spelled
  obtain ⟨start, rest, rfl, isStart, spelled⟩ := List.map_eq_append_iff.mp spelled
  obtain ⟨dot, rest, rfl, isDot, spelled⟩ := List.map_eq_cons_iff.mp spelled
  obtain ⟨named, rest, rfl, isName, spelled⟩ := List.map_eq_cons_iff.mp spelled
  obtain rfl := List.map_eq_nil_iff.mp spelled
  rw [List.append_assoc]
  obtain ⟨links₁, read⟩ := front depth links (dot :: named :: back) isStart
  obtain ⟨links₂, further⟩ := attains_resumeAccess_member links₁ isDot isName
  exact ⟨links₂, read.trans further⟩

theorem completes_index {tokens inside : List Token} {target position : Expr}
    (front : Completes .access tokens target) (inner : Completes .condition inside position)
    : Completes .access
        (tokens ++ .symbol .openBracket :: (inside ++ [.symbol .closeBracket]))
        (.index target position) := by
  intro depth links front' back spelled
  obtain ⟨start, rest, rfl, isStart, spelled⟩ := List.map_eq_append_iff.mp spelled
  obtain ⟨lexed, within', last, rfl, opens, areWithin, closes⟩ := exists_enclosed spelled
  simp only [List.append_assoc, List.cons_append, List.nil_append]
  obtain ⟨links₁, read⟩ :=
    front depth links (lexed :: (within' ++ last :: back)) isStart
  obtain ⟨links₂, further⟩ := attains_resumeAccess_index links₁ opens closes fun links =>
    inner depth links areWithin (by simp [peek, closes, Token.IsClosing])
  exact ⟨links₂, read.trans further⟩

theorem completes_call {tokens : List Token} {function : String}
    (front : Completes .access tokens (.ident function)) {args : List (List Token × Expr)}
    (each : ∀ arg ∈ args, Derives .condition arg.1 arg.2)
    (accepts : ∀ arg ∈ args, Completes .condition arg.1 arg.2)
    : Completes .access
        (tokens ++ .symbol .openParen
          :: (commaSeparated (args.map Prod.fst) ++ [.symbol .closeParen]))
        (.call function (args.map Prod.snd)) := by
  intro depth links front' back spelled
  obtain ⟨start, rest, rfl, isStart, spelled⟩ := List.map_eq_append_iff.mp spelled
  obtain ⟨lexed, within', last, rfl, opens, areWithin, closes⟩ := exists_enclosed spelled
  simp only [List.append_assoc, List.cons_append, List.nil_append]
  obtain ⟨links', read⟩ :=
    front depth links (lexed :: (within' ++ last :: back)) isStart
  refine ⟨links', read.trans ?_⟩
  have listed : Attains (list .closeParen ((level depth).whole links') (within' ++ last :: back))
      (.ok (args.map Prod.snd, back)) :=
    attains_list (.inl rfl) each (fun arg member => accepts arg member depth links') areWithin
      closes
  simp only [resumeAccess, peek, opens, List.tail_cons]
  exact listed.bind (.refl _)

theorem completes_alone {tokens : List Token} {tree : Expr} (whole : Completes .atom tokens tree)
    : Completes .access tokens tree := by
  intro depth links front back spelled
  exact ⟨links, (whole depth links back spelled).bind (.refl _)⟩

/-- A single token is read as the tree that it has as an atom. -/
theorem completes_token {token : Token} {tree : Expr}
    (h : ∀ inner lexed rest, lexed.token = token →
      primary inner (lexed :: rest) = .ok (tree, rest))
    : Completes .atom [token] tree := by
  intro depth links front back spelled
  obtain ⟨lexed, rest, rfl, isToken, spelled⟩ := List.map_eq_cons_iff.mp spelled
  obtain rfl := List.map_eq_nil_iff.mp spelled
  exact .inl (h _ lexed back isToken)

theorem ofName_of_constant {name : String} {value : Json} (h : (name, value) ∈ constants)
    : ofName name = .literal value := by
  simp only [constants, List.mem_cons, Prod.mk.injEq, List.not_mem_nil, or_false] at h
  rcases h with ⟨rfl, rfl⟩ | ⟨rfl, rfl⟩ | ⟨rfl, rfl⟩ | ⟨rfl, rfl⟩ <;> rfl

theorem ofName_of_free {name : String} (h : name ∉ constants.map Prod.fst)
    : ofName name = .ident name := by
  unfold ofName
  split <;> simp_all [constants]

theorem completes_group {tokens : List Token} {tree : Expr}
    (inner : Completes .condition tokens tree)
    : Completes .atom (.symbol .openParen :: (tokens ++ [.symbol .closeParen])) tree := by
  intro depth links front back spelled
  obtain ⟨lexed, within', last, rfl, opens, areWithin, closes⟩ := exists_enclosed spelled
  simp only [List.append_assoc, List.cons_append, List.nil_append, primary, opens]
  refine (inner depth links areWithin (by simp [peek, closes, Token.IsClosing])).bind ?_
  exact Attains.bind (.inl (expect_ok_iff.mpr ⟨last, rfl, closes⟩)) (.refl _)

theorem completes_array {items : List (List Token × Expr)}
    (each : ∀ item ∈ items, Derives .condition item.1 item.2)
    (accepts : ∀ item ∈ items, Completes .condition item.1 item.2)
    : Completes .atom
        (.symbol .openBracket
          :: (commaSeparated (items.map Prod.fst) ++ [.symbol .closeBracket]))
        (.array (items.map Prod.snd)) := by
  intro depth links front back spelled
  obtain ⟨lexed, within', last, rfl, opens, areWithin, closes⟩ := exists_enclosed spelled
  simp only [List.append_assoc, List.cons_append, List.nil_append, primary, opens]
  have listed : Attains (list .closeBracket ((level depth).whole links) (within' ++ last :: back))
      (.ok (items.map Prod.snd, back)) :=
    attains_list (.inr rfl) each (fun item member => accepts item member depth links) areWithin
      closes
  exact listed.bind (.refl _)

/-- Every phrase is read by its parsers on all levels, by induction on its derivation. -/
theorem Derives.completes {phrase : Phrase} {tokens : List Token} {tree : Expr}
    (h : Derives phrase tokens tree)
    : Completes phrase tokens tree := by
  induction h with
  | conditional _ _ _ test first second => exact completes_conditional test first second
  | plain _ whole => exact completes_plain whole
  | binary between _ _ first second => exact completes_binary between first second
  | tighter _ whole => exact completes_tighter whole
  | single _ whole =>
      intro depth links front back spelled stops
      exact ⟨links, whole depth links spelled stops⟩
  | unary before _ rest => exact completes_unary before rest
  | unsigned derived whole => exact completes_unsigned derived whole
  | member _ name front => exact completes_member front name
  | index _ _ front inner => exact completes_index front inner
  | call _ args each front accepts => exact completes_call front each accepts
  | alone _ whole => exact completes_alone whole
  | number _ same => exact completes_token (by simp_all [primary])
  | text value => exact completes_token (by simp_all [primary])
  | constant named => exact completes_token (by simp_all [primary, ofName_of_constant named])
  | name free => exact completes_token (by simp_all [primary, ofName_of_free free])
  | group _ inner => exact completes_group inner
  | array items each accepts => exact completes_array each accepts

-----------------------------------------------------------------------------------------
-- Sources
-----------------------------------------------------------------------------------------

section

variable {source : String} {tokens : List Lexed} {tree : Expr}

/-- A source is parsed by its tokens. -/
theorem parse_of_lex (h : lex source = .ok tokens)
    : parse source = (ofTokens tokens).mapError fun stuck =>
        ⟨offsetOf source.utf8ByteSize stuck.tokens, stuck.fault⟩ := by
  rw [parse, h]
  rfl

theorem derives_of_parse (h : lex source = .ok tokens) (accepted : parse source = .ok tree)
    : Derives .condition (bare tokens) tree := by
  rw [parse_of_lex h] at accepted
  cases found : ofTokens tokens with
  | ok whole =>
      rw [found] at accepted
      cases accepted
      exact derives_of_ofTokens found
  | error stuck =>
      rw [found] at accepted
      cases accepted

/-- A source whose tokens derive a tree is parsed to that tree, unless a bound is reached. -/
theorem Derives.parse_or_bound (derived : Derives .condition (bare tokens) tree)
    (h : lex source = .ok tokens)
    : parse source = .ok tree
      ∨ ∃ error, parse source = .error error ∧ error.fault.IsBound := by
  have read : Attains (ofTokens tokens) (.ok tree) := by
    have whole : Attains ((level maxDepth).whole maxLinks (tokens ++ [])) (.ok (tree, [])) :=
      derived.completes maxDepth maxLinks rfl (.inl rfl)
    rw [List.append_nil] at whole
    exact whole.bind (.refl _)
  rw [parse_of_lex h]
  rcases read with found | ⟨stuck, found, bound⟩
  · exact .inl (by rw [found]; rfl)
  · refine .inr ⟨⟨offsetOf source.utf8ByteSize stuck.tokens, stuck.fault⟩, ?_, bound⟩
    rw [found]
    rfl

end

/-- The parser accepts exactly its grammar, within its bounds: a tree that it returns is derived by
the tokens of the source, and if the tokens derive a tree, the parser returns that tree or fails by
one of its two bounds.
-/
theorem parse_exact {source : String} {tokens : List Lexed} (h : lex source = .ok tokens)
    : (∀ tree, parse source = .ok tree → Derives .condition (tokens.map Lexed.token) tree)
      ∧ ∀ tree, Derives .condition (tokens.map Lexed.token) tree →
        parse source = .ok tree
        ∨ ∃ error, parse source = .error error
          ∧ (error.fault = .nestedTooDeeply ∨ error.fault = .chainTooLong) :=
  ⟨fun _ => derives_of_parse h, fun _ derived => derived.parse_or_bound h⟩

/-- The tokens of a difference of three operands, the last one with a sign and a call. -/
def differenceTokens : List Lexed := [
  ⟨.ident "a", 0⟩, ⟨.symbol .minus, 1⟩, ⟨.ident "b", 2⟩, ⟨.symbol .minus, 3⟩, ⟨.symbol .bang, 4⟩,
  ⟨.ident "f", 5⟩, ⟨.symbol .openParen, 6⟩, ⟨.ident "c", 7⟩, ⟨.symbol .dot, 8⟩, ⟨.ident "d", 9⟩,
  ⟨.symbol .closeParen, 10⟩]

/-- The only tree of these tokens: the first two operands belong together. -/
def difference : Expr :=
  .binary .sub (.binary .sub (.ident "a") (.ident "b"))
    (.unary .negation (.call "f" [.member (.ident "c") "d"]))

theorem parse_exact_difference
    : lex "a-b-!f(c.d)" = .ok differenceTokens
      ∧ parse "a-b-!f(c.d)" = .ok difference
      ∧ Derives .condition (differenceTokens.map Lexed.token) difference
      ∧ ∀ tree, Derives .condition (differenceTokens.map Lexed.token) tree
        → tree = difference := by
  have lexed : lex "a-b-!f(c.d)" = .ok differenceTokens := by
    have found : (lex "a-b-!f(c.d)").toOption = some differenceTokens := by decide +kernel
    cases h : lex "a-b-!f(c.d)" with
    | ok tokens => simpa [h, Except.toOption] using found
    | error error => simp [h, Except.toOption] at found
  have parsed : parse "a-b-!f(c.d)" = .ok difference := by
    rw [parse, lexed]
    rfl
  refine ⟨lexed, parsed, (parse_exact lexed).1 difference parsed, ?_⟩
  intro tree derived
  rcases (parse_exact lexed).2 tree derived with same | ⟨error, failed, -⟩
  · exact Except.ok.inj (same.symm.trans parsed)
  · cases parsed.symm.trans failed

end FormWizard.Expr
