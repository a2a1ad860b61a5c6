import FormWizard.Expr.Token
import FormWizard.Json.Basic

/-! The trees of expressions. -/

namespace FormWizard

namespace Expr

/-- The operators with one operand. -/
inductive UnaryOp where
  | minus
  | plus
  | negation
deriving DecidableEq, Repr

/-- The operators with two operands. -/
inductive BinaryOp where
  | add
  | sub
  | mul
  | div
  | rem
  | lt
  | lte
  | gt
  | gte
  | eq
  | neq
  | both
  | either
deriving DecidableEq, Repr

end Expr

/-- An expression. -/
inductive Expr where
  | literal (value : Json)
  | array (items : List Expr)
  | ident (name : String)
  | member (target : Expr) (name : String)
  | index (target : Expr) (position : Expr)
  | call (function : String) (args : List Expr)
  | unary (op : Expr.UnaryOp) (operand : Expr)
  | binary (op : Expr.BinaryOp) (left right : Expr)
  | conditional (condition yes no : Expr)
deriving Inhabited

namespace Expr

/-- The operator that a sign in front of an operand is. -/
def Symbol.unary? : Symbol → Option UnaryOp
  | .minus => some .minus
  | .plus => some .plus
  | .bang => some .negation
  | _ => none

/-- The operator that a sign between operands is, and how loosely it binds. -/
def Symbol.binary? : Symbol → Option (Nat × BinaryOp)
  | .star => some (0, .mul)
  | .slash => some (0, .div)
  | .percent => some (0, .rem)
  | .plus => some (1, .add)
  | .minus => some (1, .sub)
  | .less => some (2, .lt)
  | .lessEqual => some (2, .lte)
  | .greater => some (2, .gt)
  | .greaterEqual => some (2, .gte)
  | .equal => some (3, .eq)
  | .identical => some (3, .eq)
  | .notEqual => some (3, .neq)
  | .notIdentical => some (3, .neq)
  | .both => some (4, .both)
  | .either => some (5, .either)
  | _ => none

/-- The number of degrees of looseness. -/
def looseness : Nat := 6

/-- The tree of a name: some names are literals. -/
def ofName (name : String) : Expr :=
  match name with
  | "true" => .literal (.bool true)
  | "false" => .literal (.bool false)
  | "null" => .literal .null
  | "undefined" => .literal .null
  | _ => .ident name

end Expr

end FormWizard
