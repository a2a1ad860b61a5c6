import FormWizard.CommandLine.Options
import FormWizard.Computed.Engine
import FormWizard.Navigation.Path
import FormWizard.Schema.Check
import FormWizard.Schema.Codec

/-! What the commands of the command line do, given the files that they may read. -/

namespace FormWizard.CommandLine

open Calendar (Instant)

/-- The text of a file by its name, or the reason why it cannot be read. -/
abbrev Files := String → Except String String

/-- Why a command fails. -/
inductive Failure where
  | unreadable (file reason : String)
  | malformed (file : String)
  | noObject (file : String)
  | unreadableConfig (reason : String)
  | invalidConfig
  | invalidSchema
  | unknownStep (step : String)
  | unresolvedReference (cause : Schema.UnresolvedReference)
  | navigation (cause : Navigation.Error)
  | circularDependency (cause : Computed.CircularDependency)
  | unsoundSchema
deriving DecidableEq, Repr

/-- The wording of a failure. -/
def Failure.message : Failure → String
  | .unreadable file reason => "failed to read " ++ file ++ ": " ++ reason
  | .malformed file => "invalid JSON in " ++ file
  | .noObject file => file ++ " must contain a JSON object"
  | .unreadableConfig reason => reason
  | .invalidConfig => "invalid configuration"
  | .invalidSchema => "invalid schema"
  | .unknownStep step => "unknown step '" ++ step ++ "'"
  | .unresolvedReference cause => cause.message
  | .navigation cause => cause.message
  | .circularDependency cause => cause.message
  | .unsoundSchema => "schema check failed"

/-- What comes of a command: the text that it prints, remarks, a file to be written with its text,
and the failure that it ends with.
-/
structure Outcome where
  printed : String := ""
  notes : List String := []
  written : Option (String × String) := none
  failure : Option Failure := none

namespace Outcome

/-- An outcome of some lines of text. -/
def ofLines (lines : List String) : Outcome where
  printed := String.join (lines.map (· ++ "\n"))

/-- An outcome of a value in JSON. -/
def ofJson (value : Json) : Outcome :=
  ofLines [value.pretty]

/-- The outcome of a command that may fail before it prints anything. -/
def ofExcept : Except Failure Outcome → Outcome
  | .ok outcome => outcome
  | .error failure => { failure := some failure }

end Outcome

/-- What a command starts from. -/
structure Loaded where
  schema : Schema
  data : Json
  context : Context

/-- The situation of a loaded form. -/
def Loaded.situation (loaded : Loaded) : Navigation.Situation where
  schema := loaded.schema
  data := loaded.data
  context := loaded.context

/-- The settings of a file, or the default ones. -/
def loadConfig (files : Files) (file : Option String) : Except Failure Config :=
  match file with
  | none => .ok {}
  | some file => do
    let text ← (files file).mapError .unreadableConfig
    match Config.ofText? text with
    | some config => return config
    | none => throw .invalidConfig

/-- The JSON value of a file. -/
def loadJson (files : Files) (file : String) : Except Failure Json := do
  let text ← (files file).mapError (.unreadable file)
  match Json.read? text with
  | some value => return value
  | none => throw (.malformed file)

/-- The schema of a file. -/
def loadSchema (files : Files) (file : String) : Except Failure Schema := do
  match Schema.ofDocument? (.ofJson (← loadJson files file)) with
  | some schema => return schema
  | none => throw .invalidSchema

/-- The data of a file; an empty object if there is none. -/
def loadData (files : Files) (file : Option String) : Except Failure Json :=
  match file with
  | none => .ok (.object [])
  | some file => loadJson files file

/-- The values of a file for the context. -/
def loadValues (files : Files) (file : Option String) : Except Failure (Table Json) :=
  match file with
  | none => .ok []
  | some file => do
    match ← loadJson files file with
    | .object members => return members
    | _ => throw (.noObject file)

/-- Loads the inputs of a command. -/
def load (files : Files) (inputs : Inputs) : Except Failure Loaded := do
  let schema ← loadSchema files inputs.schema
  let data ← loadData files inputs.data
  let values ← loadValues files inputs.context
  return { schema, data, context := { values, environment := inputs.environment } }

/-- Lists the steps that are shown. -/
def runSteps (clock : Instant) (config : Config) (loaded : Loaded) : Outcome :=
  let visibility := Visibility.ofConfig config
  .ofLines (visibility.visibleSteps clock loaded.schema loaded.data loaded.context.facts).1

/-- Lists the fields of a step that are shown. -/
def runFields (clock : Instant) (config : Config) (loaded : Loaded) (step : String)
    : Except Failure Outcome := do
  if (loaded.schema.step? step).isNone then throw (.unknownStep step)
  let visibility := Visibility.ofConfig config
  let (fields, _) :=
    visibility.visibleFields clock loaded.schema step loaded.data loaded.context.facts
  return .ofLines (← fields.mapError .unresolvedReference)

/-- Names the step after a step. -/
def runNext (clock : Instant) (config : Config) (loaded : Loaded) (step : String)
    (passReview : Bool)
    : Except Failure Outcome := do
  let context :=
    if passReview then { loaded.context with reviewTerminal := some false } else loaded.context
  let situation := { loaded.situation with context }
  let (next, _) := (Navigator.ofConfig config).next clock situation step
  return .ofLines ["next: " ++ (← next.mapError .navigation).getD "none"]

/-- Names the step that is shown before a step. -/
def runPrevious (clock : Instant) (config : Config) (loaded : Loaded) (step : String)
    : Outcome :=
  let (previous, _) := (Navigator.ofConfig config).previous clock loaded.situation step
  .ofLines ["previous: " ++ previous.getD "none"]

/-- Plans the way from one step to another. -/
def runPath (clock : Instant) (config : Config) (loaded : Loaded) (start goal : String)
    (maxSteps : Option Nat)
    : Except Failure Outcome := do
  let (path, _) :=
    (Navigator.ofConfig config).path clock loaded.situation start goal maxSteps
  let path ← path.mapError .navigation
  if path.isEmpty then
    let bound := Text.integer (maxSteps.getD config.maxPathSteps)
    return .ofLines ["no path from " ++ start ++ " to " ++ goal ++ " within " ++ bound ++ " steps"]
  else return .ofLines [String.intercalate " -> " path]

/-- Evaluates the computed fields, or those downstream of a path alone. The user of expressions is
the one of the context. A note counts the fields without a computed value.
-/
def runCompute (clock : Instant) (loaded : Loaded) (changed : Option String)
    (file : Option String)
    : Except Failure Outcome := do
  let fields := loaded.schema.computed
  let engine : Computed.Engine := { user := loaded.context.value? "user" }
  let (results, data, _) :=
    match changed with
    | some path => (engine.registerAll fields).evaluateAffected clock path loaded.data
    | none => engine.evaluateAll clock fields loaded.data
  let results ← results.mapError .circularDependency
  let failed := results.countP (·.error.isSome)
  let shown : Json := .ofMembers [
    ("results", .array (results.map Computed.Result.toJson)), ("data", data)]
  return {
    Outcome.ofJson shown with
    notes :=
      if failed = 0 then []
      else [Text.integer failed ++ " computed field(s) fell back to their default value"]
    written := file.map fun file => (file, data.pretty) }

/-- A line of the report on a schema. -/
def issueLine (issue : Schema.Issue) : String :=
  "  [" ++ issue.code ++ "] " ++ (issue.step?.or issue.path?).getD "<schema>" ++ " - "
    ++ issue.message

/-- The report on a schema in lines of text. -/
def reportLines (schema : Schema) : List String :=
  if schema.isSound then ["Schema check: ok"]
  else
    ("Schema check: " ++ Text.integer schema.issues.length ++ " issue(s)")
      :: schema.issues.map issueLine

/-- Checks a schema. Issues make the command fail after its report. -/
def runCheck (schema : Schema) (asJson : Bool) : Outcome :=
  let outcome : Outcome := if asJson then .ofJson schema.report else .ofLines (reportLines schema)
  { outcome with failure := if schema.isSound then none else some .unsoundSchema }

/-- Carries out a command under the given settings. -/
def Command.run (clock : Instant) (files : Files) (config : Config)
    : Command → Except Failure Outcome
  | .steps inputs => do return runSteps clock config (← load files inputs)
  | .fields inputs step => do runFields clock config (← load files inputs) step
  | .next inputs step passReview => do
    runNext clock config (← load files inputs) step passReview
  | .previous inputs step => do return runPrevious clock config (← load files inputs) step
  | .path inputs start goal maxSteps => do
    runPath clock config (← load files inputs) start goal maxSteps
  | .compute inputs changed write => do
    runCompute clock (← load files inputs) changed (if write then inputs.data else none)
  | .check schema asJson => do return runCheck (← loadSchema files schema) asJson

/-- Carries out an invocation. -/
def Invocation.run (clock : Instant) (files : Files) (invocation : Invocation) : Outcome :=
  .ofExcept do
    let config ← loadConfig files invocation.config
    invocation.command.run clock files config

end FormWizard.CommandLine
