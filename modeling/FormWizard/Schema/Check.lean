import FormWizard.Computed.Order
import FormWizard.Expr.Parser
import FormWizard.Schema.Basic

/-! What an author got wrong in a schema. -/

namespace FormWizard.Schema

/-- A mistake in a schema. -/
inductive Issue where
  /-- A step has the id of an earlier one. -/
  | duplicateStep (step : String)
  /-- A field of a step refers to no definition. -/
  | unresolvedReference (step : String) (cause : UnresolvedReference)
  /-- A transition leaves or enters a step that is not declared. -/
  | unknownStep (source target missing : String)
  /-- More than one default transition leaves a step. -/
  | ambiguousDefault (step : String) (count : Nat)
  /-- The review step is not declared. -/
  | unknownReviewStep (step : String)
  /-- The expression of a computed field cannot be read. -/
  | invalidExpression (path : String) (cause : Expr.ParseError)
  /-- Computed fields read each other in a cycle. -/
  | circularDependency (cause : Computed.CircularDependency)
deriving DecidableEq

namespace Issue

/-- The step that the issue is about. -/
def step? : Issue → Option String
  | duplicateStep step | unresolvedReference step _ | unknownStep _ _ step
  | ambiguousDefault step _ | unknownReviewStep step => some step
  | invalidExpression .. | circularDependency _ => none

/-- The path of the computed field that the issue is about. -/
def path? : Issue → Option String
  | invalidExpression path _ => some path
  | circularDependency cause => some cause.target
  | _ => none

/-- The kind of the issue. -/
def code : Issue → String
  | duplicateStep _ => "duplicate_step"
  | unresolvedReference .. => "unresolved_ref"
  | unknownStep .. | unknownReviewStep _ => "unknown_step"
  | ambiguousDefault .. => "ambiguous_default"
  | invalidExpression .. => "invalid_expression"
  | circularDependency _ => "circular_dependency"

/-- The wording of the issue. -/
def message : Issue → String
  | duplicateStep step => "step id '" ++ step ++ "' is declared more than once"
  | unresolvedReference _ cause => cause.message
  | unknownStep source target missing =>
    "transition " ++ source ++ " -> " ++ target ++ " references unknown step '" ++ missing ++ "'"
  | ambiguousDefault step count =>
    "step '" ++ step ++ "' declares " ++ Text.integer count ++ " default transitions"
  | unknownReviewStep step => "review step '" ++ step ++ "' is not declared"
  | invalidExpression _ cause => cause.message
  | circularDependency cause =>
    "computed field '" ++ cause.target ++ "' is part of a dependency cycle"

/-- The issue as a JSON value. -/
def toJson (issue : Issue) : Json :=
  .ofMembers <|
    issue.step?.elim [] (fun step => [("step_id", .string step)])
    ++ issue.path?.elim [] (fun path => [("path", .string path)])
    ++ [("message", .string issue.message), ("code", .string issue.code)]

end Issue

/-- The ids of the steps. -/
def stepIds (schema : Schema) : List String :=
  schema.steps.map Step.id

/-- The fields of a step that refer to no definition. -/
def fieldIssues (schema : Schema) (step : Step) : List Issue :=
  step.fields.filterMap fun entry =>
    match schema.resolve entry with
    | .ok _ => none
    | .error cause => some (.unresolvedReference step.id cause)

/-- The issues of steps, where steps with the given ids came before. -/
def stepIssues (schema : Schema) (seen : List String) : List Step → List Issue
  | [] => []
  | step :: rest =>
    (if step.id ∈ seen then [.duplicateStep step.id] else [])
      ++ fieldIssues schema step ++ stepIssues schema (step.id :: seen) rest

/-- The ends of a transition that are not declared. -/
def transitionIssues (schema : Schema) (transition : Transition) : List Issue :=
  ([transition.source, transition.target].filter (· ∉ schema.stepIds)).map
    (.unknownStep transition.source transition.target)

/-- The number of default transitions that leave a step. -/
def defaultCount (step : String) (schema : Schema) : Nat :=
  schema.transitions.countP fun transition => transition.isDefault && transition.source = step

/-- The steps that default transitions leave, in the order of their ids. -/
def defaultSources (schema : Schema) : List String :=
  (Table.ofEntries <| (schema.transitions.filter Transition.isDefault).map fun transition =>
    (transition.source, ())).keys

/-- The steps that more than one default transition leaves. -/
def defaultIssues (schema : Schema) : List Issue :=
  (schema.defaultSources.filter fun step => 1 < schema.defaultCount step).map fun step =>
    .ambiguousDefault step (schema.defaultCount step)

/-- The review step, if it is not declared. -/
def reviewIssues (schema : Schema) : List Issue :=
  (schema.reviewStep.filter (· ∉ schema.stepIds)).toList.map .unknownReviewStep

/-- The computed fields with expressions that cannot be read. -/
def expressionIssues (schema : Schema) : List Issue :=
  schema.computed.filterMap fun field =>
    match Expr.parse field.expr with
    | .ok _ => none
    | .error cause => some (.invalidExpression field.path cause)

/-- A cycle among the computed fields. -/
def cycleIssues (schema : Schema) : List Issue :=
  match Computed.order schema.computed with
  | .ok _ => []
  | .error cause => [.circularDependency cause]

/-- All issues of a schema. -/
def issues (schema : Schema) : List Issue :=
  stepIssues schema [] schema.steps
    ++ schema.transitions.flatMap (transitionIssues schema)
    ++ schema.defaultIssues
    ++ schema.reviewIssues
    ++ schema.expressionIssues
    ++ schema.cycleIssues

/-- A schema without issues. -/
def isSound (schema : Schema) : Bool :=
  schema.issues.isEmpty

/-- The report on a schema as a JSON value. -/
def report (schema : Schema) : Json :=
  .ofMembers [("ok", .bool schema.isSound),
    ("issues", .array (schema.issues.map Issue.toJson))]

end FormWizard.Schema
