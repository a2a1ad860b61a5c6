import FormWizard.Calendar.Reader
import FormWizard.Json.Coercion
import FormWizard.Unicode.Case

/-! The functions that every expression can call. -/

namespace FormWizard.Expr

open Calendar (Instant)

/-- What is wrong with the arguments or the result of a function. -/
inductive ArgumentError where
  | noNumber (function : String) (value : Json)
  | noText (function : String)
  | noDate (function : String) (value : Json)
  | noArray (function : String) (value : Json)
  | noValues (function : String)
  | notFinite (value : Float)
deriving DecidableEq

/-- The wording of an argument error. -/
def ArgumentError.message : ArgumentError → String
  | .noNumber function value => function ++ " expects a number, got " ++ value.text
  | .noText function => function ++ " expects a string, got null"
  | .noDate function value => function ++ " expects a date, got " ++ value.text
  | .noArray function value => function ++ " expects an array, got " ++ value.text
  | .noValues function => function ++ " expects at least one value"
  | .notFinite value => "result " ++ Decimal.nonFinite value ++ " is not a finite number"

/-- The value of a calculation, if it is finite. -/
def finite (x : Float) : Except ArgumentError Json :=
  match Json.Number.ofDouble? x with
  | some number => .ok (.number number)
  | none => .error (.notFinite x)

/-- Rounds to a number of decimal places, of which at most fifteen count. -/
def roundTo (value : Float) (places : Nat) : Float :=
  let factor := Binary64.ofInt (Nat.pow 10 (min places 15))
  Binary64.round (value * factor) / factor

namespace Builtin

/-- The first argument; null if there is none. -/
def first (args : List Json) : Json :=
  args.head?.getD .null

/-- An argument as a number. -/
def number (function : String) (value : Json) : Except ArgumentError Float :=
  let x := Json.quantity (some value)
  if x.isNaN then .error (.noNumber function value) else .ok x

/-- The first argument as a text. -/
def text (function : String) (args : List Json) : Except ArgumentError String :=
  match first args with
  | .null => .error (.noText function)
  | value => .ok value.plainText

/-- The day of the first argument. -/
def date (function : String) (args : List Json) : Except ArgumentError Calendar.Date :=
  match Instant.ofJson? (first args) with
  | some instant => .ok instant.date
  | none => .error (.noDate function (first args))

/-- The numbers of the first argument, an array, nulls in it passed over. -/
def numbers (function : String) (args : List Json) : Except ArgumentError (List Float) :=
  match first args with
  | .array items => (items.filter (· != .null)).mapM (number function)
  | .null => .ok []
  | value => .error (.noArray function value)

/-- A count of decimal places: parts of one are cut off, and below zero is zero. -/
def places (x : Float) : Nat :=
  if Binary64.isFinite x then (Binary64.truncated x).toNat else if x < 0.0 then 0 else 15

/-- The outermost of the arguments, or of the items of the only argument if it is an array. The
second number replaces the first where `isBeyond` holds of the two.
-/
def outermost (function : String) (isBeyond : Float → Float → Bool) (args : List Json)
    : Except ArgumentError Json := do
  let values :=
    match args with
    | [.array items] => items
    | _ => args
  match ← values.mapM (number function) with
  | [] => .error (.noValues function)
  | x :: rest => finite (rest.foldl (fun best y => if isBeyond best y then y else best) x)

/-- The function of a name, given the time that the clock shows. -/
def find? (now : Instant) (name : String) : Option (List Json → Except ArgumentError Json) :=
  match name with
  | "now" => some fun _ => .ok (.string now.text)
  | "today" => some fun _ => .ok (.string now.date.text)
  | "year" => some fun args => (date name args).map fun d => .ofInt d.year
  | "month" => some fun args => (date name args).map fun d => .ofInt d.month
  | "day" => some fun args => (date name args).map fun d => .ofInt d.day
  | "round" => some fun args => do
    let count ← (args[1]?).elim (.ok 0) fun value => (number name value).map places
    finite (roundTo (← number name (first args)) count)
  | "floor" => some fun args => do finite (Binary64.floor (← number name (first args)))
  | "ceil" => some fun args => do finite (Binary64.ceiling (← number name (first args)))
  | "abs" => some fun args => do finite (← number name (first args)).abs
  | "min" => some (outermost name fun best x => x < best)
  | "max" => some (outermost name fun best x => best < x)
  | "upper" => some fun args =>
    (text name args).map fun t => .string (String.ofList (Unicode.upper t.toList))
  | "lower" => some fun args =>
    (text name args).map fun t => .string (String.ofList (Unicode.lower t.toList))
  | "trim" => some fun args => (text name args).map fun t => .string (Text.trimmed t)
  | "concat" => some fun args =>
    .ok (.string (String.join ((args.filter (· != .null)).map Json.plainText)))
  | "sum" => some fun args => do finite ((← numbers name args).foldl (· + ·) 0.0)
  | "avg" => some fun args => do
    match ← numbers name args with
    | [] => return .ofInt 0
    | xs => finite (xs.foldl (· + ·) 0.0 / Binary64.ofInt xs.length)
  | "count" => some fun args =>
    match first args with
    | .array items => .ok (.ofNat items.length)
    | .null => .ok (.ofInt 0)
    | value => .error (.noArray name value)
  | _ => none

end Builtin

end FormWizard.Expr
