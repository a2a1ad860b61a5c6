import FormWizard.Context
import FormWizard.Json.Coercion
import FormWizard.Regex.Parser
import FormWizard.Rule.Basic

/-! What a rule says of data and a context. Nodes are visited from left to right and only as far
as they decide the answer, and no more of them than a limit allows.
-/

namespace FormWizard

open Calendar (Instant)

namespace Rule

/-- Why a rule has no answer. -/
inductive EvalError where
  | unknownFunction (name : String)
  | evaluationLimit (limit : Nat)
  | invalidPattern (pattern : String)
  | function (name : String) (message : String)
deriving DecidableEq, Repr

/-- The wording of an evaluation error. -/
def EvalError.message : EvalError → String
  | .unknownFunction name => "custom rule function '" ++ name ++ "' is not registered"
  | .evaluationLimit limit =>
    "rule evaluation exceeded the limit of " ++ Text.integer limit ++ " evaluations"
  | .invalidPattern pattern => "invalid regex pattern '" ++ pattern ++ "'"
  | .function name message => "custom rule function '" ++ name ++ "' failed: " ++ message

/-- The answer of a rule. -/
abbrev Answer := Except EvalError Bool

/-- A predicate of the host: it is given the resolved arguments, the data, the facts of the
context and the time, and answers or says why it cannot.
-/
abbrev Predicate := List Json → Json → Facts → Instant → Except String Bool

/-- All that an answer depends on besides the rule. -/
structure Scope where
  data : Json
  facts : Facts
  /-- The environment where the context names none. -/
  environment : String
  functions : Table Predicate
  /-- The time, which a pinned clock shows unchanged. -/
  time : Instant

/-- A pattern together with its tree. -/
structure Pattern where
  source : String
  regex : Regex
  parsed : Regex.parse? source = some regex

/-- How far an evaluation has come: the number of nodes visited, and the patterns whose trees are
kept, latest first.
-/
structure Progress where
  visited : Nat
  patterns : List Pattern

/-- The tree of a pattern, which is kept. -/
def regex? (source : String) (patterns : List Pattern) : Option Regex × List Pattern :=
  match patterns.find? (·.source = source) with
  | some pattern => (some pattern.regex, patterns)
  | none =>
    match parsed : Regex.parse? source with
    | none => (none, patterns)
    | some regex => (some regex, ⟨source, regex, parsed⟩ :: patterns)

end Rule

namespace Operand

/-- A fact that every context has: the time in milliseconds, the day, or the environment. -/
def standing? (scope : Rule.Scope) : String → Option Json
  | "now" => some (.ofInt scope.time.milliseconds)
  | "today" => some (.string scope.time.date.text)
  | "env" => some (.string (scope.facts.environment.getD scope.environment))
  | _ => none

/-- The value of an operand, if it has one. Values of the host come before the standing ones. -/
def resolve? (scope : Rule.Scope) : Operand → Option Json
  | .literal value => some value
  | .data path => DataPath.lookUp? scope.data path
  | .context key => (scope.facts.value? key).or (standing? scope key)

end Operand

namespace Comparison

/-- The letters of a pattern's flags that are heeded. -/
def isPatternFlag (c : Char) : Bool :=
  c == 'i' || c == 'm' || c == 's'

/-- The pattern that a value holds: a text, or an object with a pattern and perhaps flags. -/
def patternSource? : Json → Option String
  | .string pattern => some pattern
  | .object members =>
    ((Table.find? "pattern" members).bind Json.string?).map fun pattern =>
      let flags :=
        ((Table.find? "flags" members).bind Json.string?).elim [] fun flags =>
          flags.toList.filter isPatternFlag
      if flags.isEmpty then pattern else "(?" ++ String.ofList flags ++ ")" ++ pattern
  | _ => none

/-- Some part of a text matches the pattern that a value holds. Only texts match, and only
patterns are matched.
-/
def isMatch (left : Json) (right : Option Json) (patterns : List Rule.Pattern)
    : Rule.Answer × List Rule.Pattern :=
  match left, right.bind patternSource? with
  | .string text, some source =>
    match Rule.regex? source patterns with
    | (some tree, patterns) => (.ok (tree.isMatch text), patterns)
    | (none, patterns) => (.error (.invalidPattern source), patterns)
  | _, _ => (.ok false, patterns)

/-- The comparison of a value that is present with another. -/
def ofPresent (op : Comparison) (left : Json) (right : Option Json)
    (patterns : List Rule.Pattern)
    : Rule.Answer × List Rule.Pattern :=
  match op with
  | .eq => (.ok (right.any left.equals), patterns)
  | .neq => (.ok (!right.any left.equals), patterns)
  | .gt => (.ok (Json.quantity right < Json.quantity (some left)), patterns)
  | .gte => (.ok (Json.quantity right ≤ Json.quantity (some left)), patterns)
  | .lt => (.ok (Json.quantity (some left) < Json.quantity right), patterns)
  | .lte => (.ok (Json.quantity (some left) ≤ Json.quantity right), patterns)
  | .elem => (.ok (((right.bind Json.array?).getD []).any left.equals), patterns)
  | .regex => isMatch left right patterns

/-- The comparison of two values. None holds of a left side that is absent or null. -/
def apply (op : Comparison) (left right : Option Json) (patterns : List Rule.Pattern)
    : Rule.Answer × List Rule.Pattern :=
  match left with
  | none | some .null => (.ok false, patterns)
  | some left => ofPresent op left right patterns

end Comparison

namespace Rule

/-- The answer of a host predicate. An argument without a value is null. -/
def call (scope : Scope) (name : String) (args : List Json) : Answer :=
  match Table.find? name scope.functions with
  | none => .error (.unknownFunction name)
  | some predicate =>
    let resolved := args.map fun arg => ((Operand.ofJson arg).resolve? scope).getD .null
    (predicate resolved scope.data scope.facts scope.time).mapError (.function name)

/-- Visits one more node, whose answer is found as given, unless that is more than the limit
allows.
-/
def within (limit : Nat) (progress : Progress) (answer : Progress → Answer × Progress)
    : Answer × Progress :=
  let progress := { progress with visited := progress.visited + 1 }
  if limit < progress.visited then (.error (.evaluationLimit limit), progress)
  else answer progress

mutual

/-- The answer of a rule, and how far the evaluation has come with it. -/
def visit (scope : Scope) (limit : Nat) : Rule → Progress → Answer × Progress
  | .always value, progress =>
    within limit progress fun progress => (.ok (value.getD true), progress)
  | .comparison op left right, progress =>
    within limit progress fun progress =>
      let (answer, patterns) :=
        op.apply (left.resolve? scope) (right.resolve? scope) progress.patterns
      (answer, { progress with patterns })
  | .custom function args, progress =>
    within limit progress fun progress => (call scope function args, progress)
  | .logical .all args, progress => within limit progress (visitAll scope limit args)
  | .logical .any args, progress => within limit progress (visitAny scope limit args)
  | .logical .negation args, progress => within limit progress (visitNone scope limit args)

/-- Visits rules until one does not hold. -/
def visitAll (scope : Scope) (limit : Nat) : List Rule → Progress → Answer × Progress
  | [], progress => (.ok true, progress)
  | rule :: rest, progress =>
    match visit scope limit rule progress with
    | (.ok true, progress) => visitAll scope limit rest progress
    | decided => decided

/-- Visits rules until one holds. -/
def visitAny (scope : Scope) (limit : Nat) : List Rule → Progress → Answer × Progress
  | [], progress => (.ok false, progress)
  | rule :: rest, progress =>
    match visit scope limit rule progress with
    | (.ok false, progress) => visitAny scope limit rest progress
    | decided => decided

/-- The negation of the first rule. Further rules are passed over, and no rule at all counts as
one that does not hold.
-/
def visitNone (scope : Scope) (limit : Nat) : List Rule → Progress → Answer × Progress
  | [], progress => (.ok true, progress)
  | rule :: _, progress =>
    let (answer, progress) := visit scope limit rule progress
    (answer.map not, progress)

end

end Rule

end FormWizard
