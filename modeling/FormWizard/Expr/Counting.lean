import FormWizard.Expr.Parser

/-! Recursive descent with two counters instead of two budgets. One counts the levels of nesting
that are open, the other one the links of all chains that are not complete. Whoever counts something
up counts it down again, and no count must fall below zero.
-/

namespace FormWizard.Expr.Counting

/-- The tokens that are left, the levels of nesting that are open, and the links of the chains that
are not complete.
-/
structure Counters where
  tokens : List Lexed
  depth : Nat
  chain : Nat

/-- Why a parser stops: the source is no expression, or a counter would fall below zero. -/
inductive Halt where
  | stuck (cause : Stuck)
  | underflow

/-- Something done to the counters, unless the steps that are allowed do not suffice. -/
abbrev Machine := StateT Counters Option

/-- Reads something off the tokens, unless it stops before. What was done to the counters stays. -/
abbrev Counted := ExceptT Halt Machine

/-- The next token. -/
def next : Counted Token := return peek (← get).tokens

/-- Takes the next token. -/
def advance : Counted Unit :=
  modify fun counters => { counters with tokens := counters.tokens.tail }

/-- Stops at the tokens that are left. -/
def fail {α : Type} (fault : Fault) : Counted α := do
  throw (.stuck ⟨(← get).tokens, fault⟩)

/-- Takes a sign if it comes next. -/
def eat (sign : Symbol) : Counted Bool := do
  if (← next) = .symbol sign then
    advance
    return true
  else return false

/-- Takes a sign that must come next. -/
def expect (sign : Symbol) : Counted Unit := do
  if !(← eat sign) then fail (.expected sign (← next))

/-- Opens one more level of nesting. -/
def enter : Counted Unit := do
  modify fun counters => { counters with depth := counters.depth + 1 }
  if maxDepth < (← get).depth then fail .nestedTooDeeply

/-- Closes a level of nesting. -/
def leave : Counted Unit := do
  if (← get).depth = 0 then throw .underflow
  modify fun counters => { counters with depth := counters.depth - 1 }

/-- Counts one more link of a chain. -/
def link : Counted Unit := do
  modify fun counters => { counters with chain := counters.chain + 1 }
  if maxLinks < (← get).chain then fail .chainTooLong

/-- Gives the links of a complete chain back. -/
def release (links : Nat) : Counted Unit := do
  if (← get).chain < links then throw .underflow
  modify fun counters => { counters with chain := counters.chain - links }

/-- Parses one level further down. A level that was opened is closed again even if the parser stops
inside it; one that must not be opened stays counted.
-/
def nested {α : Type} (parse : Counted α) : Counted α :=
  (do
    match ← enter.run with
    | .error halt => return .error halt
    | .ok () =>
      let outcome ← parse.run
      match ← leave.run with
      | .error halt => return .error halt
      | .ok () => return outcome : Machine (Except Halt α))

/-- The name that an expression is. -/
def nameOf? : Expr → Option String
  | .ident name => some name
  | _ => none

/-- No more steps are allowed. -/
def exhausted {α : Type} : Counted α := (fun _ => none : Machine (Except Halt α))

mutual

/-- A condition with two branches, or an operation alone. -/
def condition : (steps : Nat) → Counted Expr
  | 0 => exhausted
  | steps + 1 => nested do
    let tested ← operation steps looseness
    if ← eat .question then
      let yes ← condition steps
      expect .colon
      let no ← condition steps
      return .conditional tested yes no
    else return tested

/-- An expression of operators below a degree of looseness. -/
def operation : (steps degree : Nat) → Counted Expr
  | 0, _ => exhausted
  | steps + 1, 0 => operand steps
  | steps + 1, degree + 1 => do
    let left ← operation steps degree
    operators steps degree 0 left

/-- The operators of one degree behind a left operand, when some links of them were counted. -/
def operators : (steps degree links : Nat) → (left : Expr) → Counted Expr
  | 0, _, _, _ => exhausted
  | steps + 1, degree, links, left => do
    match binaryOp? degree (← next) with
    | some op =>
      advance
      link
      let right ← operation steps degree
      operators steps degree (links + 1) (.binary op left right)
    | none =>
      release links
      return left

/-- An operand behind any number of signs. -/
def operand : (steps : Nat) → Counted Expr
  | 0 => exhausted
  | steps + 1 => do
    match unaryOp? (← next) with
    | some op =>
      advance
      nested do return .unary op (← operand steps)
    | none => postfixed steps

/-- An atom and what stands behind it. -/
def postfixed : (steps : Nat) → Counted Expr
  | 0 => exhausted
  | steps + 1 => do
    let target ← atom steps
    accesses steps 0 target

/-- The calls, members and indexes behind an expression, when some links of them were counted. -/
def accesses : (steps links : Nat) → (target : Expr) → Counted Expr
  | 0, _, _ => exhausted
  | steps + 1, links, target => do
    match ← next with
    | .symbol .dot =>
      link
      advance
      let token ← next
      advance
      match token with
      | .ident name => accesses steps (links + 1) (.member target name)
      | token => fail (.expectedProperty token)
    | .symbol .openBracket =>
      link
      advance
      let position ← condition steps
      expect .closeBracket
      accesses steps (links + 1) (.index target position)
    | .symbol .openParen =>
      match nameOf? target with
      | some name =>
        advance
        let args ← list steps .closeParen
        accesses steps links (.call name args)
      | none => fail .notCallable
    | _ =>
      release links
      return target

/-- A list of expressions between commas, behind its opening sign. -/
def list : (steps : Nat) → (close : Symbol) → Counted (List Expr)
  | 0, _ => exhausted
  | steps + 1, close => do
    if ← eat close then return [] else items steps close

/-- The items of a list that has at least one, up to its closing sign. -/
def items : (steps : Nat) → (close : Symbol) → Counted (List Expr)
  | 0, _ => exhausted
  | steps + 1, close => do
    let first ← condition steps
    if ← eat close then return [first]
    else
      expect .comma
      let others ← items steps close
      return first :: others

/-- A number, a text, a name, an expression in parentheses or an array. -/
def atom : (steps : Nat) → Counted Expr
  | 0 => exhausted
  | steps + 1 => do
    match (← get).tokens with
    | [] => fail .unexpectedEnd
    | lexed :: _ =>
      advance
      match lexed.token with
      | .number value =>
        match Json.Number.ofDouble? value with
        | some number => return .literal (.number number)
        | none => fail (.notFinite value)
      | .text value => return .literal (.string value)
      | .ident name => return ofName name
      | .symbol .openParen =>
        let inner ← condition steps
        expect .closeParen
        return inner
      | .symbol .openBracket => return .array (← list steps .closeBracket)
      | token => fail (.unexpected token)

end

/-- A whole expression, with nothing behind it. -/
def whole (steps : Nat) : Counted Expr := do
  let expr ← condition steps
  if (← get).tokens.isEmpty then return expr else fail (.trailing (← next))

/-- The tree of a list of tokens, or why there is none, if the steps suffice. -/
def ofTokens (steps : Nat) (tokens : List Lexed) : Option (Except Halt Expr) :=
  ((whole steps).run.run ⟨tokens, 0, 0⟩).map Prod.fst

end FormWizard.Expr.Counting
