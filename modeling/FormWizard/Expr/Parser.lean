import FormWizard.Expr.Lexer
import FormWizard.Expr.Syntax

/-! From tokens to trees by recursive descent. Two budgets bound the height of the tree: the
levels of nesting that may still be opened, and the links that may still be added to the chains
of operators, members and indexes around a place. Both are handed down, so what one part of an
expression uses up is there again for the next.
-/

namespace FormWizard.Expr

/-- The levels of nesting that an expression may have. -/
def maxDepth : Nat := 64

/-- The links that the chains around a place in an expression may have together. -/
def maxLinks : Nat := 256

/-- The place at which the parser gives up, as the tokens from there on, and the reason. -/
structure Stuck where
  tokens : List Lexed
  fault : Fault

/-- Reads something off the front of the tokens. -/
abbrev Parse (α : Type) := List Lexed → Except Stuck (α × List Lexed)

/-- Reads something within a budget of links. -/
abbrev ParseWithin (α : Type) := (links : Nat) → Parse α

/-- The next token. -/
def peek : List Lexed → Token
  | [] => .finish
  | lexed :: _ => lexed.token

/-- Takes a sign that must come next. -/
def expect (sign : Symbol) (tokens : List Lexed) : Except Stuck (List Lexed) :=
  if peek tokens = .symbol sign then .ok tokens.tail
  else .error ⟨tokens, .expected sign (peek tokens)⟩

/-- Refuses to open one more level of nesting. -/
def tooDeep : ParseWithin Expr := fun _ tokens =>
  .error ⟨tokens, .nestedTooDeeply⟩

/-- The items of a list that has at least one, up to its closing sign. The count bounds the
number of items; a list never has more of them than there are tokens, and one more is tried.
-/
def items (close : Symbol) (item : Parse Expr) : (count : Nat) → Parse (List Expr)
  | 0, tokens => .error ⟨tokens, .expected close (peek tokens)⟩
  | count + 1, tokens => do
    let (first, tokens) ← item tokens
    if peek tokens = .symbol close then return ([first], tokens.tail)
    let tokens ← expect .comma tokens
    let (others, tokens) ← items close item count tokens
    return (first :: others, tokens)

/-- A list of expressions between commas, behind its opening sign. -/
def list (close : Symbol) (item : Parse Expr) : Parse (List Expr) := fun tokens =>
  if peek tokens = .symbol close then .ok ([], tokens.tail)
  else items close item (tokens.length + 1) tokens

/-- A number, a text, a name, an expression in parentheses or an array. -/
def primary (inner : Parse Expr) : Parse Expr := fun tokens =>
  match tokens with
  | [] => .error ⟨[], .unexpectedEnd⟩
  | lexed :: rest =>
    match lexed.token with
    | .number value =>
      match Json.Number.ofDouble? value with
      | some number => .ok (.literal (.number number), rest)
      | none => .error ⟨rest, .notFinite value⟩
    | .text value => .ok (.literal (.string value), rest)
    | .ident name => .ok (ofName name, rest)
    | .symbol .openParen => do
      let (expr, rest) ← inner rest
      return (expr, ← expect .closeParen rest)
    | .symbol .openBracket => do
      let (exprs, rest) ← list .closeBracket inner rest
      return (.array exprs, rest)
    | token => .error ⟨rest, .unexpected token⟩

/-- The members and indexes behind an expression. Each is one link. -/
def accesses (inner : ParseWithin Expr) : (links : Nat) → Expr → Parse Expr
  | links, target, tokens =>
    match peek tokens, links with
    | .symbol .dot, 0 | .symbol .openBracket, 0 => .error ⟨tokens, .chainTooLong⟩
    | .symbol .dot, links + 1 =>
      match peek tokens.tail with
      | .ident name => accesses inner links (.member target name) tokens.tail.tail
      | token => .error ⟨tokens.tail.tail, .expectedProperty token⟩
    | .symbol .openBracket, links + 1 => do
      let (position, tokens) ← inner links tokens.tail
      let tokens ← expect .closeBracket tokens
      accesses inner links (.index target position) tokens
    | .symbol .openParen, _ => .error ⟨tokens, .notCallable⟩
    | _, _ => .ok (target, tokens)

/-- A primary expression, called if it is a name with parentheses behind it, and the members and
indexes behind that.
-/
def postfixed (inner : ParseWithin Expr) : ParseWithin Expr := fun links tokens => do
  let (expr, tokens) ← primary (inner links) tokens
  match expr, peek tokens with
  | .ident name, .symbol .openParen =>
    let (args, tokens) ← list .closeParen (inner links) tokens.tail
    accesses inner links (.call name args) tokens
  | _, _ => accesses inner links expr tokens

/-- The operator that a token is in front of an operand. -/
def unaryOp? : Token → Option UnaryOp
  | .symbol sign => sign.unary?
  | _ => none

/-- The operator that a token is at a degree of looseness. -/
def binaryOp? (degree : Nat) : Token → Option BinaryOp
  | .symbol sign =>
    match sign.binary? with
    | some (found, op) => if found = degree then some op else none
    | none => none
  | _ => none

/-- An operand behind any number of signs. Behind each sign a level of nesting is opened. -/
def signed (inner nested : ParseWithin Expr) : ParseWithin Expr := fun links tokens =>
  match unaryOp? (peek tokens) with
  | some op => do
    let (operand, tokens) ← nested links tokens.tail
    return (.unary op operand, tokens)
  | none => postfixed inner links tokens

/-- The operators of one degree behind a left operand, each with its right operand. Each is one
link.
-/
def chain (degree : Nat) (operand : ParseWithin Expr) : (links : Nat) → Expr → Parse Expr
  | links, left, tokens =>
    match binaryOp? degree (peek tokens), links with
    | none, _ => .ok (left, tokens)
    | some _, 0 => .error ⟨tokens.tail, .chainTooLong⟩
    | some op, links + 1 => do
      let (right, tokens) ← operand links tokens.tail
      chain degree operand links (.binary op left right) tokens

/-- An expression of operators below a degree of looseness. -/
def operation (operand : ParseWithin Expr) : (degree : Nat) → ParseWithin Expr
  | 0 => operand
  | degree + 1 => fun links tokens => do
    let (left, tokens) ← operation operand degree links tokens
    chain degree (operation operand degree) links left tokens

/-- A condition with two branches, or an operation alone. -/
def branching (operand inner : ParseWithin Expr) : ParseWithin Expr := fun links tokens => do
  let (condition, tokens) ← operation operand looseness links tokens
  if peek tokens = .symbol .question then
    let (yes, tokens) ← inner links tokens.tail
    let tokens ← expect .colon tokens
    let (no, tokens) ← inner links tokens
    return (.conditional condition yes no, tokens)
  else return (condition, tokens)

/-- The parsers of whole expressions and of operands at one level of nesting. -/
structure Level where
  whole : ParseWithin Expr
  operand : ParseWithin Expr

/-- The parsers with the given number of levels of nesting left. -/
def level : (depth : Nat) → Level
  | 0 => ⟨tooDeep, signed tooDeep tooDeep⟩
  | depth + 1 =>
    let below := level depth
    let whole := branching below.operand below.whole
    ⟨whole, signed whole below.operand⟩

/-- The byte offset at which the given tokens start. -/
def offsetOf (sourceSize : Nat) : List Lexed → Nat
  | [] => sourceSize
  | lexed :: _ => lexed.offset

/-- The tree of a list of tokens. -/
def ofTokens (tokens : List Lexed) : Except Stuck Expr := do
  let (expr, rest) ← (level maxDepth).whole maxLinks tokens
  if rest.isEmpty then return expr else .error ⟨rest, .trailing (peek rest)⟩

/-- The tree of a source. -/
def parse (source : String) : Except ParseError Expr := do
  let tokens ← lex source
  (ofTokens tokens).mapError fun stuck =>
    ⟨offsetOf source.utf8ByteSize stuck.tokens, stuck.fault⟩

end FormWizard.Expr
