import FormWizard.Json.Fields
import FormWizard.Json.Printer
import FormWizard.Rule.Basic

/-! Rules as JSON: an object whose member `type` names the kind of rule. An array gives the kind and
then the parts of the rule by their places.
-/

namespace FormWizard

open Json (Document)

/-- The name of a comparison. -/
def Comparison.name : Comparison → String
  | .eq => "eq"
  | .neq => "neq"
  | .gt => "gt"
  | .gte => "gte"
  | .lt => "lt"
  | .lte => "lte"
  | .elem => "in"
  | .regex => "regex"

/-- The comparison of a name. -/
def Comparison.ofName? : String → Option Comparison
  | "eq" => some .eq
  | "neq" => some .neq
  | "gt" => some .gt
  | "gte" => some .gte
  | "lt" => some .lt
  | "lte" => some .lte
  | "in" => some .elem
  | "regex" => some .regex
  | _ => none

/-- The name of a connective. -/
def Connective.name : Connective → String
  | .all => "and"
  | .any => "or"
  | .negation => "not"

/-- The connective of a name. -/
def Connective.ofName? : String → Option Connective
  | "and" => some .all
  | "or" => some .any
  | "not" => some .negation
  | _ => none

namespace Rule

/-- The name in an operator field: a string, or the key of an object of one member that holds
nothing.
-/
def operatorName? : Document → Option String
  | .string name => some name
  | .object [(some name, .null)] | .object [(some name, .object [])] => some name
  | _ => none

/-- The names of the parts of a rule of the given kind, in the order of their places. -/
def partNames : String → List String
  | "comparison" => ["op", "left", "right"]
  | "logical" => ["op", "args"]
  | "custom" => ["fn", "args"]
  | "always" => ["value"]
  | _ => []

/-- A rule of the given kind from its parts. The nested rules are given as they were read from the
part `args`; only a connective has them, and none if there is no such part.
-/
def ofParts? (kind : String) (members : Document.Members) (nested : Option (List Rule))
    : Option Rule := do
  match kind with
  | "comparison" =>
    let op ← Document.required? ["op"] operatorName? members
    let left ← Document.required? ["left"] Document.toJson? members
    let right ← Document.required? ["right"] Document.toJson? members
    return compare (← Comparison.ofName? op) left right
  | "logical" =>
    let op ← Document.required? ["op"] operatorName? members
    let args? ← Document.field? ["args"] members
    let args ← if args?.isSome then nested else some []
    return .logical (← Connective.ofName? op) args
  | "custom" =>
    let function ← Document.required? ["fn"] Document.string? members
    let args ← Document.defaulted? ["args"] [] (Document.list? Document.toJson?) members
    return .custom function args
  | "always" =>
    return .always (← Document.optional? ["value"] Document.bool? members)
  | _ => none

mutual

/-- Reads a rule. All its parts must stand for values, also those passed over. -/
def ofDocument? : Document → Option Rule
  | .object members => do
    guard (Document.areReadableMembers members)
    let kind ← Document.required? ["type"] Document.string? members
    ofParts? kind members (argsOfMembers? members)
  | .array (kind :: parts) => do
    guard (Document.areReadableItems parts)
    let kind ← Document.string? kind
    let members ← Document.members? (partNames kind) (.array parts)
    ofParts? kind members (argsOfParts? parts)
  | _ => none

/-- Reads the rules in the second part. -/
def argsOfParts? : List Document → Option (List Rule)
  | _ :: args :: _ => argsOfArray? args
  | _ => none

/-- Reads the rules under the first key `args`. -/
def argsOfMembers? : List (Option String × Document) → Option (List Rule)
  | [] => none
  | (key, value) :: rest => if key = some "args" then argsOfArray? value else argsOfMembers? rest

/-- Reads an array of rules. -/
def argsOfArray? : Document → Option (List Rule)
  | .array items => argsOfItems? items
  | _ => none

/-- Reads a list of rules. -/
def argsOfItems? : List Document → Option (List Rule)
  | [] => some []
  | item :: rest => do
    let rule ← ofDocument? item
    let rules ← argsOfItems? rest
    return rule :: rules

end

mutual

/-- The rule as a JSON value. An empty list of arguments of a host predicate and an absent truth
value are left out.
-/
def toJson : Rule → Json
  | .comparison op left right =>
    .ofMembers [("type", .string "comparison"), ("op", .string op.name),
      ("left", left.toJson), ("right", right.toJson)]
  | .logical op args =>
    .ofMembers [("type", .string "logical"), ("op", .string op.name),
      ("args", .array (argsToJson args))]
  | .custom function args =>
    .ofMembers <| [("type", .string "custom"), ("fn", .string function)]
      ++ if args.isEmpty then [] else [("args", .array args)]
  | .always value =>
    .ofMembers <| [("type", .string "always")]
      ++ value.elim [] fun flag => [("value", .bool flag)]

/-- The rules as JSON values. -/
def argsToJson : List Rule → List Json
  | [] => []
  | arg :: rest => toJson arg :: argsToJson rest

end

mutual

/-- The rule as a JSON value whose members stand in the order of their declaration. -/
def declared : Rule → Json
  | .comparison op left right =>
    .object [("type", .string "comparison"), ("op", .string op.name),
      ("left", left.toJson), ("right", right.toJson)]
  | .logical op args =>
    .object [("type", .string "logical"), ("op", .string op.name),
      ("args", .array (declaredArgs args))]
  | .custom function args =>
    .object <| [("type", .string "custom"), ("fn", .string function)]
      ++ if args.isEmpty then [] else [("args", .array args)]
  | .always value =>
    .object <| [("type", .string "always")]
      ++ value.elim [] fun flag => [("value", .bool flag)]

/-- The rules as such JSON values. -/
def declaredArgs : List Rule → List Json
  | [] => []
  | arg :: rest => declared arg :: declaredArgs rest

end

/-- The rule as one line of text. -/
def text (rule : Rule) : String :=
  rule.declared.text

end Rule

end FormWizard
