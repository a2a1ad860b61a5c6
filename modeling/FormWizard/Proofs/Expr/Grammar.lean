import FormWizard.Expr.Syntax

/-! The grammar of expressions, as rules over their tokens. Nothing in it knows of the parser: the
rules say which tokens make up a phrase of which kind, and which tree the phrase has.
-/

namespace FormWizard.Expr

/-- The signs that may stand in front of an operand. -/
def signsBefore : List (Symbol × UnaryOp) :=
  [(.minus, .minus), (.plus, .plus), (.bang, .negation)]

/-- The signs that may stand between operands. Those of the lowest degree bind tightest. -/
def signsBetween : (degree : Nat) → List (Symbol × BinaryOp)
  | 0 => [(.star, .mul), (.slash, .div), (.percent, .rem)]
  | 1 => [(.plus, .add), (.minus, .sub)]
  | 2 => [(.less, .lt), (.lessEqual, .lte), (.greater, .gt), (.greaterEqual, .gte)]
  | 3 => [(.equal, .eq), (.notEqual, .neq), (.identical, .eq), (.notIdentical, .neq)]
  | 4 => [(.both, .both)]
  | 5 => [(.either, .either)]
  | _ => []

/-- The names that are no names of anything but values themselves. -/
def constants : List (String × Json) :=
  [("true", .bool true), ("false", .bool false), ("null", .null), ("undefined", .null)]

/-- The kinds of phrases, from the widest to the narrowest. -/
inductive Phrase where
  | condition
  | operation (degree : Nat)
  | operand
  | access
  | atom

/-- The tokens of several phrases with a comma between each two. -/
def commaSeparated : List (List Token) → List Token
  | [] => []
  | [last] => last
  | first :: next :: rest => first ++ .symbol .comma :: commaSeparated (next :: rest)

/-- The tokens are a phrase of the given kind that has the given tree. -/
inductive Derives : Phrase → List Token → Expr → Prop
  /-- A condition with its two branches. The branches are conditions again. -/
  | conditional {asked yes no : List Token} {condition whenTrue whenFalse : Expr}
    (test : Derives (.operation 6) asked condition) (first : Derives .condition yes whenTrue)
    (second : Derives .condition no whenFalse)
    : Derives .condition (asked ++ .symbol .question :: (yes ++ .symbol .colon :: no))
        (.conditional condition whenTrue whenFalse)
  | plain {tokens : List Token} {tree : Expr} (whole : Derives (.operation 6) tokens tree)
    : Derives .condition tokens tree
  /-- The left operand may hold signs of the same degree, the right one may not. So signs of one
  degree associate to the left.
  -/
  | binary {degree : Nat} {sign : Symbol} {op : BinaryOp} {before behind : List Token}
    {left right : Expr} (between : (sign, op) ∈ signsBetween degree)
    (first : Derives (.operation (degree + 1)) before left)
    (second : Derives (.operation degree) behind right)
    : Derives (.operation (degree + 1)) (before ++ .symbol sign :: behind)
        (.binary op left right)
  | tighter {degree : Nat} {tokens : List Token} {tree : Expr}
    (whole : Derives (.operation degree) tokens tree)
    : Derives (.operation (degree + 1)) tokens tree
  | single {tokens : List Token} {tree : Expr} (whole : Derives .operand tokens tree)
    : Derives (.operation 0) tokens tree
  | unary {sign : Symbol} {op : UnaryOp} {tokens : List Token} {tree : Expr}
    (before : (sign, op) ∈ signsBefore) (rest : Derives .operand tokens tree)
    : Derives .operand (.symbol sign :: tokens) (.unary op tree)
  | unsigned {tokens : List Token} {tree : Expr} (whole : Derives .access tokens tree)
    : Derives .operand tokens tree
  | member {tokens : List Token} {target : Expr} (front : Derives .access tokens target)
    (name : String)
    : Derives .access (tokens ++ [.symbol .dot, .ident name]) (.member target name)
  | index {tokens inside : List Token} {target position : Expr}
    (front : Derives .access tokens target) (inner : Derives .condition inside position)
    : Derives .access
        (tokens ++ .symbol .openBracket :: (inside ++ [.symbol .closeBracket]))
        (.index target position)
  /-- Only a bare name can be called. -/
  | call {tokens : List Token} {function : String} (front : Derives .access tokens (.ident function))
    (args : List (List Token × Expr)) (each : ∀ arg ∈ args, Derives .condition arg.1 arg.2)
    : Derives .access
        (tokens ++ .symbol .openParen
          :: (commaSeparated (args.map Prod.fst) ++ [.symbol .closeParen]))
        (.call function (args.map Prod.snd))
  | alone {tokens : List Token} {tree : Expr} (whole : Derives .atom tokens tree)
    : Derives .access tokens tree
  | number {value : Float} {number : Json.Number} (finite : Binary64.isFinite value = true)
    (same : Json.Number.ofDouble? value = some number)
    : Derives .atom [.number value] (.literal (.number number))
  | text (value : String) : Derives .atom [.text value] (.literal (.string value))
  | constant {name : String} {value : Json} (named : (name, value) ∈ constants)
    : Derives .atom [.ident name] (.literal value)
  | name {name : String} (free : name ∉ constants.map Prod.fst)
    : Derives .atom [.ident name] (.ident name)
  | group {tokens : List Token} {tree : Expr} (inner : Derives .condition tokens tree)
    : Derives .atom (.symbol .openParen :: (tokens ++ [.symbol .closeParen])) tree
  | array (items : List (List Token × Expr))
    (each : ∀ item ∈ items, Derives .condition item.1 item.2)
    : Derives .atom
        (.symbol .openBracket
          :: (commaSeparated (items.map Prod.fst) ++ [.symbol .closeBracket]))
        (.array (items.map Prod.snd))

end FormWizard.Expr
