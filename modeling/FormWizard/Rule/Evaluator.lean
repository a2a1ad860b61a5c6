import FormWizard.Config
import FormWizard.Rule.Codec
import FormWizard.Rule.Evaluation

/-! An evaluator of rules that remembers its answers. -/

namespace FormWizard.Rule

open Calendar (Instant)

/-- What an answer is an answer to. -/
structure Question where
  rule : Rule
  data : Json
  facts : Facts
deriving DecidableEq

/-- The text by which the answer to a question is remembered: those of the three parts, with the
unit separator in between.
-/
def Question.key (question : Question) : String :=
  question.rule.text ++ "\x1f" ++ question.data.text ++ "\x1f" ++ question.facts.key

/-- The answer does not change with the time: the rule does not look at the clock, or the context
pins it.
-/
def Question.isTimeless (question : Question) : Bool :=
  !question.rule.readsClock || question.facts.now.isSome

/-- An evaluator: the settings, the predicates of the host, the answers that it remembers by the
keys of the questions, the patterns it has met, and the number of nodes that were visited for the
latest answer it had to find.
-/
structure Evaluator where
  maxEvaluations : Nat
  environment : String
  functions : Table Predicate := []
  known : Table Bool := []
  patterns : List Pattern := []
  evaluations : Nat := 0

namespace Evaluator

/-- An evaluator with the given settings. -/
def ofConfig (config : Config) : Evaluator where
  maxEvaluations := config.maxEvaluations
  environment := config.environment

/-- Supplies a predicate, or replaces the one of that name. Answers are forgotten. -/
def register (name : String) (predicate : Predicate) (evaluator : Evaluator) : Evaluator :=
  { evaluator with functions := evaluator.functions.insert name predicate, known := [] }

/-- Supplies the predicates of a table. -/
def registerAll (predicates : Table Predicate) (evaluator : Evaluator) : Evaluator :=
  predicates.foldl (fun evaluator (name, predicate) => evaluator.register name predicate)
    evaluator

/-- Forgets all answers and patterns. -/
def clear (evaluator : Evaluator) : Evaluator :=
  { evaluator with known := [], patterns := [], evaluations := 0 }

/-- All that an answer depends on besides the rule. -/
def scope (clock : Instant) (data : Json) (facts : Facts) (evaluator : Evaluator) : Scope where
  data := data
  facts := facts
  environment := evaluator.environment
  functions := evaluator.functions
  time := facts.time clock

/-- Finds the answer to a question. -/
def answer (clock : Instant) (question : Question) (evaluator : Evaluator)
    : Answer × Progress :=
  visit (evaluator.scope clock question.data question.facts) evaluator.maxEvaluations
    question.rule ⟨0, evaluator.patterns⟩

/-- The remembered answer to a question. -/
def remembered? (question : Question) (evaluator : Evaluator) : Option Bool :=
  if question.isTimeless then Table.find? question.key evaluator.known else none

/-- The evaluator after an answer was found. Errors are not remembered, nor is what may change
with the time.
-/
def remember (question : Question) (found : Answer × Progress) (evaluator : Evaluator)
    : Evaluator :=
  let known :=
    match found.1 with
    | .ok holds =>
      if question.isTimeless then evaluator.known.insert question.key holds else evaluator.known
    | .error _ => evaluator.known
  { evaluator with known, patterns := found.2.patterns, evaluations := found.2.visited }

/-- Answers a question, from memory if it can. -/
def evaluate (clock : Instant) (question : Question) (evaluator : Evaluator)
    : Answer × Evaluator :=
  match evaluator.remembered? question with
  | some holds => (.ok holds, evaluator)
  | none =>
    let found := evaluator.answer clock question
    (found.1, evaluator.remember question found)

end Evaluator

end FormWizard.Rule
