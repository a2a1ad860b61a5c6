import FormWizard.Json.Fields

/-! The settings that the engines share. -/

namespace FormWizard

/-- The limits and defaults of the engines. -/
structure Config where
  /-- The number of rule nodes that one evaluation may visit. -/
  maxEvaluations : Nat := 1000
  /-- The number of moves that the history keeps. -/
  historyCapacity : Nat := 100
  /-- The number of moves that a planned path may take where the caller names no bound. -/
  maxPathSteps : Nat := 20
  /-- The steps that end the flow where the schema names no review step. -/
  reviewSteps : List String := ["review"]
  /-- The environment where the context names none. -/
  environment : String := "production"
deriving DecidableEq, Repr

namespace Config

open Json (Document)

/-- Reads settings. A missing one has its default. -/
def ofDocument? (document : Document) : Option Config := do
  let members ← document.members?
    ["max_evaluations", "history_capacity", "max_path_steps", "review_steps", "environment"]
  let defaults : Config := {}
  return {
    maxEvaluations :=
      ← Document.defaulted? ["max_evaluations"] defaults.maxEvaluations Document.count? members
    historyCapacity :=
      ← Document.defaulted? ["history_capacity"] defaults.historyCapacity Document.count? members
    maxPathSteps :=
      ← Document.defaulted? ["max_path_steps"] defaults.maxPathSteps Document.count? members
    reviewSteps :=
      ← Document.defaulted? ["review_steps"] defaults.reviewSteps
        (Document.list? Document.string?) members
    environment :=
      ← Document.defaulted? ["environment"] defaults.environment Document.string? members }

/-- Reads settings from JSON text. -/
def ofText? (text : String) : Option Config :=
  (Document.read? text).bind ofDocument?

/-- The settings as a JSON value. -/
def toJson (config : Config) : Json :=
  .ofMembers [
    ("max_evaluations", .ofNat config.maxEvaluations),
    ("history_capacity", .ofNat config.historyCapacity),
    ("max_path_steps", .ofNat config.maxPathSteps),
    ("review_steps", .array (config.reviewSteps.map .string)),
    ("environment", .string config.environment)]

end Config

end FormWizard
