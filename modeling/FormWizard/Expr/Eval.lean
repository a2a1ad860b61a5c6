import FormWizard.Expr.Builtin
import FormWizard.Expr.Syntax

/-! The values of expressions. -/

namespace FormWizard.Expr

open Calendar (Instant)

/-- A function of the host. It answers its arguments with a value or with a message. -/
abbrev HostFunction := List Json → Except String Json

/-- What an expression can refer to. A name is looked up among the locals, then it may be `data`
or `user`.
-/
structure Scope where
  locals : Table Json
  data : Json
  user : Option Json
  functions : Table HostFunction
  now : Instant

/-- Why an expression has no value. -/
inductive EvalError where
  | unknownIdentifier (name : String)
  | unknownFunction (name : String)
  | argument (function : String) (cause : ArgumentError)
  | host (function : String) (message : String)
  | propertyOfNull (name : String)
  | indexOfNull (position : Json)
  | divisionByZero
  | notANumber (value : Json)
  | notFinite (value : Float)
deriving DecidableEq

/-- The wording of an evaluation error. -/
def EvalError.message : EvalError → String
  | .unknownIdentifier name => "unknown identifier '" ++ name ++ "'"
  | .unknownFunction name => "unknown function '" ++ name ++ "'"
  | .argument function cause => function ++ ": " ++ cause.message
  | .host function message => function ++ ": " ++ message
  | .propertyOfNull name => "cannot read property '" ++ name ++ "' of null"
  | .indexOfNull position => "cannot read index " ++ position.text ++ " of null"
  | .divisionByZero => "division by zero"
  | .notANumber value => value.text ++ " is not a number"
  | .notFinite value => "result " ++ Decimal.nonFinite value ++ " is not a finite number"

/-- The value of a calculation, if it is finite. -/
def calculated (x : Float) : Except EvalError Json :=
  match Json.Number.ofDouble? x with
  | some number => .ok (.number number)
  | none => .error (.notFinite x)

/-- A value as an operand of a calculation. -/
def operandOf (value : Json) : Except EvalError Float :=
  let x := Json.quantity (some value)
  if x.isNaN then .error (.notANumber value) else .ok x

/-- A member of a value. Arrays and texts have a length; whatever else is missing is null. -/
def memberOf (target : Json) (name : String) : Except EvalError Json :=
  match target with
  | .object members => .ok ((Table.find? name members).getD .null)
  | .array items => .ok (if name = "length" then .ofNat items.length else .null)
  | .string text => .ok (if name = "length" then .ofNat text.length else .null)
  | .null => .error (.propertyOfNull name)
  | _ => .ok .null

/-- The item of an array at a position given by a number; positions that are not whole or lie
outside give null.
-/
def itemOf (items : List Json) (position : Json.Number) : Json :=
  match Binary64.whole? position.toDouble with
  | some n => if 0 ≤ n then (items[n.toNat]?).getD .null else .null
  | none => .null

/-- The part of a value at an index: an item by a number or a member by a text. -/
def indexOf (target position : Json) : Except EvalError Json :=
  match target, position with
  | .array items, .number n => .ok (itemOf items n)
  | .object members, .string key => .ok ((Table.find? key members).getD .null)
  | .null, _ => .error (.indexOfNull position)
  | _, _ => .ok .null

/-- Whether an ordering holds: of two texts by code points, of all else by quantity. -/
def ordered (ofTexts : Ordering → Bool) (ofDoubles : Float → Float → Bool) (left right : Json)
    : Bool :=
  match left, right with
  | .string a, .string b => ofTexts (compare a b)
  | _, _ => ofDoubles (Json.quantity (some left)) (Json.quantity (some right))

/-- The value of an operator on the values of both operands. -/
def binaryOf (op : BinaryOp) (left right : Json) : Except EvalError Json :=
  match op with
  | .add =>
    match left, right with
    | .string _, _ | _, .string _ => .ok (.string (left.plainText ++ right.plainText))
    | _, _ => do calculated ((← operandOf left) + (← operandOf right))
  | .sub => do calculated ((← operandOf left) - (← operandOf right))
  | .mul => do calculated ((← operandOf left) * (← operandOf right))
  | .div => do
    let dividend ← operandOf left
    let divisor ← operandOf right
    if divisor == 0.0 then .error .divisionByZero else calculated (dividend / divisor)
  | .rem => do
    let dividend ← operandOf left
    let divisor ← operandOf right
    if divisor == 0.0 then .error .divisionByZero
    else calculated (Binary64.remainder dividend divisor)
  | .lt => .ok (.bool (ordered Ordering.isLT (fun a b => a < b) left right))
  | .lte => .ok (.bool (ordered Ordering.isLE (fun a b => a ≤ b) left right))
  | .gt => .ok (.bool (ordered Ordering.isGT (fun a b => b < a) left right))
  | .gte => .ok (.bool (ordered Ordering.isGE (fun a b => b ≤ a) left right))
  | .eq => .ok (.bool (left.equals right))
  | .neq => .ok (.bool !(left.equals right))
  | .both => .ok (if left.isTruthy then right else left)
  | .either => .ok (if left.isTruthy then left else right)

/-- The value of an operator on the value of its operand. -/
def unaryOf (op : UnaryOp) (value : Json) : Except EvalError Json :=
  match op with
  | .minus => do calculated (-(← operandOf value))
  | .plus => do calculated (← operandOf value)
  | .negation => .ok (.bool !value.isTruthy)

namespace Scope

/-- The value of a name. -/
def lookUp (scope : Scope) (name : String) : Except EvalError Json :=
  match Table.find? name scope.locals with
  | some value => .ok value
  | none =>
    match name with
    | "data" => .ok scope.data
    | "user" => .ok (scope.user.getD .null)
    | _ => .error (.unknownIdentifier name)

/-- The value of a call. A host function goes before a built-in one of the same name. -/
def call (scope : Scope) (name : String) (args : List Json) : Except EvalError Json :=
  match Table.find? name scope.functions with
  | some function => (function args).mapError (.host name)
  | none =>
    match Builtin.find? scope.now name with
    | some function => (function args).mapError (.argument name)
    | none => .error (.unknownFunction name)

end Scope

mutual

/-- The value of an expression. Only the operand that decides is evaluated behind `&&` and `||`,
and only the branch that is taken.
-/
def eval (scope : Scope) : Expr → Except EvalError Json
  | .literal value => .ok value
  | .array items => do return .array (← evalAll scope items)
  | .ident name => scope.lookUp name
  | .member target name => do memberOf (← eval scope target) name
  | .index target position => do
    let target ← eval scope target
    indexOf target (← eval scope position)
  | .call name args => do scope.call name (← evalAll scope args)
  | .unary op operand => do unaryOf op (← eval scope operand)
  | .binary .both left right => do
    let left ← eval scope left
    if left.isTruthy then eval scope right else .ok left
  | .binary .either left right => do
    let left ← eval scope left
    if left.isTruthy then .ok left else eval scope right
  | .binary op left right => do
    let left ← eval scope left
    binaryOf op left (← eval scope right)
  | .conditional condition yes no => do
    let condition ← eval scope condition
    if condition.isTruthy then eval scope yes else eval scope no

/-- The values of a list of expressions, from the first to the last. -/
def evalAll (scope : Scope) : List Expr → Except EvalError (List Json)
  | [] => .ok []
  | expr :: rest => do
    let value ← eval scope expr
    return value :: (← evalAll scope rest)

end

end FormWizard.Expr
