import FormWizard.Visibility

/-! Moving through a form. The way forward follows the transitions of the schema, the way back the
steps that are shown. Moves forward are kept in a history of bounded length.
-/

namespace FormWizard

open Calendar (Instant)
open Schema (Transition)

namespace Navigation

/-- Why there is no decision on where to go. -/
inductive Error where
  | rule (cause : Rule.EvalError)
  | ambiguousDefault (step : String) (count : Nat)
deriving DecidableEq, Repr

/-- The wording of the error. -/
def Error.message : Error → String
  | .rule cause => cause.message
  | .ambiguousDefault step count =>
    "step '" ++ step ++ "' declares " ++ Text.integer count
      ++ " default transitions; at most one is allowed"

/-- Whether a move was made because its transition was open, or because no other one was. -/
inductive MoveKind where
  | conditional
  | default
deriving DecidableEq, Repr

/-- The name of a kind of moves. -/
def MoveKind.name : MoveKind → String
  | .conditional => "conditional"
  | .default => "default"

/-- A move forward. -/
structure Move where
  source : String
  target : String
  kind : MoveKind
deriving DecidableEq, Repr

/-- The move along a transition. -/
def Move.along (transition : Transition) : Move where
  source := transition.source
  target := transition.target
  kind := if transition.isDefault then .default else .conditional

/-- What a decision on where to go depends on besides the step. -/
structure Situation where
  schema : Schema
  data : Json
  context : Context

end Navigation

open Navigation (Situation Move MoveKind)

/-- A guide through a form: the judge of visibility, the latest moves, oldest first, and the
settings.
-/
structure Navigator where
  visibility : Visibility
  history : List Move := []
  historyCapacity : Nat
  maxPathSteps : Nat
  reviewSteps : List String

namespace Navigator

/-- A guide with the given settings and no history. -/
def ofConfig (config : Config) : Navigator where
  visibility := .ofConfig config
  historyCapacity := config.historyCapacity
  maxPathSteps := config.maxPathSteps
  reviewSteps := config.reviewSteps

/-- Whether a step is a review step: the one that the schema names, or else a configured one. -/
def isReviewStep (schema : Schema) (step : String) (navigator : Navigator) : Bool :=
  match schema.reviewStep with
  | some review => review == step
  | none => navigator.reviewSteps.contains step

/-- Whether the flow ends at a step: at review steps, unless the context says otherwise. -/
def endsAt (situation : Situation) (step : String) (navigator : Navigator) : Bool :=
  situation.context.reviewTerminal.getD true && navigator.isReviewStep situation.schema step

/-- Whether the guard of a transition lets it pass. A guard that the context does not have does not
veto.
-/
def guardAllows (situation : Situation) (transition : Transition) : Bool :=
  match transition.guard.bind fun name => Table.find? name situation.context.guards with
  | some guard => guard situation.data situation.context.facts
  | none => true

/-- Whether the condition of a transition holds. -/
def conditionHolds (clock : Instant) (situation : Situation) (transition : Transition)
    (evaluator : Rule.Evaluator)
    : Rule.Answer × Rule.Evaluator :=
  match transition.condition with
  | none => (.ok true, evaluator)
  | some rule => evaluator.evaluate clock ⟨rule, situation.data, situation.context.facts⟩

/-- The first transition of a list whose condition holds and whose guard lets it pass. -/
def firstOpen (clock : Instant) (situation : Situation)
    : List Transition → Rule.Evaluator
      → Except Rule.EvalError (Option Transition) × Rule.Evaluator
  | [], evaluator => (.ok none, evaluator)
  | transition :: rest, evaluator =>
    match conditionHolds clock situation transition evaluator with
    | (.error error, evaluator) => (.error error, evaluator)
    | (.ok holds, evaluator) =>
      if holds && guardAllows situation transition then (.ok (some transition), evaluator)
      else firstOpen clock situation rest evaluator

/-- The transition that leads on from a step: the first open one that is not the default, or else
the default one.
-/
def decision (clock : Instant) (situation : Situation) (step : String) (navigator : Navigator)
    : Except Navigation.Error (Option Transition) × Navigator :=
  if navigator.endsAt situation step then (.ok none, navigator)
  else
    let (defaults, others) :=
      (situation.schema.transitionsFrom step).partition Transition.isDefault
    if 1 < defaults.length then (.error (.ambiguousDefault step defaults.length), navigator)
    else
      let (found, evaluator) :=
        firstOpen clock situation others navigator.visibility.evaluator
      let visibility := { navigator.visibility with evaluator }
      ((found.map fun transition => transition.or defaults.head?).mapError .rule,
        { navigator with visibility })

/-- Adds a move to the history, which forgets its oldest moves beyond its capacity. -/
def record (move : Move) (navigator : Navigator) : Navigator :=
  let history := navigator.history ++ [move]
  { navigator with history := history.drop (history.length - navigator.historyCapacity) }

/-- The step after a step. The move there is recorded. -/
def next (clock : Instant) (situation : Situation) (step : String) (navigator : Navigator)
    : Except Navigation.Error (Option String) × Navigator :=
  match navigator.decision clock situation step with
  | (.error error, navigator) => (.error error, navigator)
  | (.ok none, navigator) => (.ok none, navigator)
  | (.ok (some transition), navigator) =>
    (.ok (some transition.target), navigator.record (.along transition))

/-- Whether the next step after one step would be the other. Nothing is recorded. -/
def canMove (clock : Instant) (situation : Situation) (source target : String)
    (navigator : Navigator)
    : Except Navigation.Error Bool × Navigator :=
  let (decision, navigator) := navigator.decision clock situation source
  (decision.map fun transition => transition.any (·.target = target), navigator)

/-- The item in front of the first occurrence of an item. -/
def itemBefore? (item : String) : List String → Option String
  | first :: second :: rest =>
    if first = item then none
    else if second = item then some first
    else itemBefore? item (second :: rest)
  | _ => none

/-- The step before a step among those that are shown. -/
def previous (clock : Instant) (situation : Situation) (step : String) (navigator : Navigator)
    : Option String × Navigator :=
  let (steps, visibility) :=
    navigator.visibility.visibleSteps clock situation.schema situation.data
      situation.context.facts
  (itemBefore? step steps, { navigator with visibility })

/-- Forgets all moves. -/
def clearHistory (navigator : Navigator) : Navigator :=
  { navigator with history := [] }

/-- Forgets all answers and verdicts. -/
def clearCache (navigator : Navigator) : Navigator :=
  { navigator with visibility := navigator.visibility.clear }

end Navigator

end FormWizard
