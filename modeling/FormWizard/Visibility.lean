import FormWizard.Rule.Evaluator
import FormWizard.Rule.Predicates
import FormWizard.Schema.Basic

/-! Which steps and fields of a form are shown. An element without a rule is shown, and so is one
whose rule has no answer.
-/

namespace FormWizard

open Calendar (Instant)
open Schema (FieldEntry Step UnresolvedReference)

namespace Visibility

/-- What a verdict is about: an element, seen with data and a context. Its rule is not part of it.
-/
structure View where
  element : String
  data : Json
  facts : Facts
deriving DecidableEq

/-- The text by which the verdict on a view is remembered: the element and the texts of the other
two parts, with the unit separator in between.
-/
def View.key (view : View) : String :=
  view.element ++ "\x1f" ++ view.data.text ++ "\x1f" ++ view.facts.key

end Visibility

/-- A judge of visibility: an evaluator of rules, and the verdicts that are remembered by the keys
of the views.
-/
structure Visibility where
  evaluator : Rule.Evaluator
  known : Table Bool := []

namespace Visibility

/-- A judge with the given settings, who knows the built-in predicates. -/
def ofConfig (config : Config) : Visibility where
  evaluator := (Rule.Evaluator.ofConfig config).registerAll Rule.Predicates.builtin

/-- Supplies a predicate, or replaces the one of that name. Answers and verdicts are forgotten. -/
def register (name : String) (predicate : Rule.Predicate) (judge : Visibility) : Visibility where
  evaluator := judge.evaluator.register name predicate
  known := []

/-- Supplies a predicate to the evaluator alone, so that verdicts are kept. -/
def registerRule (name : String) (predicate : Rule.Predicate) (judge : Visibility)
    : Visibility :=
  { judge with evaluator := judge.evaluator.register name predicate }

/-- Forgets all answers and verdicts. -/
def clear (judge : Visibility) : Visibility where
  evaluator := judge.evaluator.clear
  known := []

/-- The verdict on the answer of a rule. -/
def verdict : Rule.Answer → Bool
  | .ok holds => holds
  | .error _ => true

/-- Judges an element by its rule, from memory if that is possible. A verdict is remembered unless
it may change with the time.
-/
def judgeBy (clock : Instant) (rule : Rule) (view : View) (judge : Visibility)
    : Bool × Visibility :=
  let question : Rule.Question := ⟨rule, view.data, view.facts⟩
  match if question.isTimeless then Table.find? view.key judge.known else none with
  | some shown => (shown, judge)
  | none =>
    let (answer, evaluator) := judge.evaluator.evaluate clock question
    let shown := verdict answer
    let known :=
      if question.isTimeless then judge.known.insert view.key shown else judge.known
    (shown, { evaluator, known })

/-- Whether an element is shown. -/
def isVisible (clock : Instant) (rule : Option Rule) (view : View) (judge : Visibility)
    : Bool × Visibility :=
  match rule with
  | none => (true, judge)
  | some rule => judge.judgeBy clock rule view

/-- The verdicts on steps, from the first to the last. -/
def stepVerdicts (clock : Instant) (data : Json) (facts : Facts)
    : List Step → Visibility → List (String × Bool) × Visibility
  | [], judge => ([], judge)
  | step :: rest, judge =>
    let (shown, judge) := judge.isVisible clock step.visibleWhen ⟨step.id, data, facts⟩
    let (verdicts, judge) := stepVerdicts clock data facts rest judge
    ((step.id, shown) :: verdicts, judge)

/-- The name of a field among all elements of a form. -/
def fieldElement (step field : String) : String :=
  step ++ "." ++ field

/-- The verdicts on fields of a step by their names, from the first to the last. A reference to no
definition ends the list with an error.
-/
def fieldVerdicts (clock : Instant) (schema : Schema) (step : String) (data : Json)
    (facts : Facts)
    : List FieldEntry → Visibility
      → Except UnresolvedReference (List (String × Bool)) × Visibility
  | [], judge => (.ok [], judge)
  | entry :: rest, judge =>
    match schema.resolve entry with
    | .error error => (.error error, judge)
    | .ok field =>
      let view : View := ⟨fieldElement step field.name, data, facts⟩
      let (shown, judge) := judge.isVisible clock field.visibleWhen view
      let (verdicts, judge) := fieldVerdicts clock schema step data facts rest judge
      (verdicts.map ((field.name, shown) :: ·), judge)

/-- The names with the verdict that they are shown. -/
def shown (verdicts : List (String × Bool)) : List String :=
  (verdicts.filter Prod.snd).map Prod.fst

/-- The ids of the steps that are shown, in the order of the schema. -/
def visibleSteps (clock : Instant) (schema : Schema) (data : Json) (facts : Facts)
    (judge : Visibility)
    : List String × Visibility :=
  let (verdicts, judge) := stepVerdicts clock data facts schema.steps judge
  (shown verdicts, judge)

/-- The names of the fields of a step that are shown, in the order of the step. A step that the
schema does not have has no fields.
-/
def visibleFields (clock : Instant) (schema : Schema) (step : String) (data : Json)
    (facts : Facts) (judge : Visibility)
    : Except UnresolvedReference (List String) × Visibility :=
  match schema.step? step with
  | none => (.ok [], judge)
  | some found =>
    let (verdicts, judge) := fieldVerdicts clock schema step data facts found.fields judge
    (verdicts.map shown, judge)

/-- The verdicts on steps and their fields, in order. Every step comes before its fields, which
are named together with it.
-/
def elementVerdicts (clock : Instant) (schema : Schema) (data : Json) (facts : Facts)
    : List Step → Visibility → Except UnresolvedReference (List (String × Bool)) × Visibility
  | [], judge => (.ok [], judge)
  | step :: rest, judge =>
    let (isShown, judge) := judge.isVisible clock step.visibleWhen ⟨step.id, data, facts⟩
    match fieldVerdicts clock schema step.id data facts step.fields judge with
    | (.error error, judge) => (.error error, judge)
    | (.ok fields, judge) =>
      let own := fields.map fun (name, isShown) => (fieldElement step.id name, isShown)
      let (others, judge) := elementVerdicts clock schema data facts rest judge
      (others.map fun others => (step.id, isShown) :: own ++ others, judge)

/-- The verdicts on all steps and fields by element. -/
def elements (clock : Instant) (schema : Schema) (data : Json) (facts : Facts)
    (judge : Visibility)
    : Except UnresolvedReference (Table Bool) × Visibility :=
  let (verdicts, judge) := elementVerdicts clock schema data facts schema.steps judge
  (verdicts.map Table.ofEntries, judge)

end Visibility

end FormWizard
