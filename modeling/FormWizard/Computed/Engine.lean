import FormWizard.Computed.Graph
import FormWizard.Computed.Order
import FormWizard.DataPath.Write
import FormWizard.Expr.Eval
import FormWizard.Expr.Parser

/-! Evaluating computed fields, one by one, as a batch, or those downstream of a change. -/

namespace FormWizard.Computed

open Calendar (Instant)

/-- Why a field has no computed value. -/
inductive FieldError where
  | parse (cause : Expr.ParseError)
  | eval (cause : Expr.EvalError)
  | write (cause : DataPath.WriteError)
deriving DecidableEq

/-- The wording of a field error. -/
def FieldError.message : FieldError → String
  | .parse cause => cause.message
  | .eval cause => cause.message
  | .write cause => cause.message

/-- What came of evaluating a field. With an error, the value is the fallback. -/
structure Result where
  path : String
  value : Json
  dependencies : List String
  timestamp : Instant
  error : Option FieldError

/-- The result as a JSON value. -/
def Result.toJson (result : Result) : Json :=
  .ofMembers <|
    [("path", .string result.path), ("value", result.value),
      ("dependencies", .array (result.dependencies.map .string)),
      ("timestamp", .string result.timestamp.zuluText)]
    ++ result.error.elim [] fun error => [("error", .string error.message)]

/-- A source together with its tree. -/
structure Compiled where
  source : String
  expr : Expr
  parsed : Expr.parse source = .ok expr

/-- The state of the engine: the edges and the latest definitions of the registered fields, the
expressions compiled for targets, the values kept for targets, and what the host supplies.
-/
structure Engine where
  edges : List Edge := []
  fields : Table Field := []
  compiled : Table Compiled := []
  values : Table Json := []
  functions : Table Expr.HostFunction := []
  user : Option Json := none
  now : Option Instant := none

namespace Engine

/-- Adds a field to the graph. A definition of the same target is replaced. -/
def register (field : Field) (engine : Engine) : Engine :=
  { engine with
    edges := (Edge.ofField field).foldl (fun edges edge => edge.insert edges) engine.edges
    fields := engine.fields.insert field.target field }

/-- Supplies a function of the host, or replaces the one of that name. -/
def registerFunction (name : String) (function : Expr.HostFunction) (engine : Engine)
    : Engine :=
  { engine with functions := engine.functions.insert name function }

/-- The time that the clock shows; the given one unless the clock is pinned. -/
def time (clock : Instant) (engine : Engine) : Instant :=
  engine.now.getD clock

/-- The tree of a source, which is kept for the target. -/
def compile (target source : String) (engine : Engine)
    : Except Expr.ParseError Expr × Engine :=
  match (Table.find? target engine.compiled).filter (·.source = source) with
  | some compiled => (.ok compiled.expr, engine)
  | none =>
    match parsed : Expr.parse source with
    | .error error => (.error error, engine)
    | .ok expr =>
      (.ok expr,
        { engine with compiled := engine.compiled.insert target ⟨source, expr, parsed⟩ })

/-- The values of the sources by their names. Of two sources with one name the later is bound, and
a source that is missing in the data is null.
-/
def bindings (sources : List String) (data : Json) : Table Json :=
  Table.ofEntries <| sources.filterMap fun source =>
    let path := DataPath.ofText source
    (DataPath.leafName? path).map fun name => (name, (DataPath.get? data path).getD .null)

/-- A computed value rounded as the field asks for. Only numbers are rounded. -/
def rounded (round : Option Int) (value : Json) : Except Expr.EvalError Json :=
  match round, value with
  | some places, .number n => Expr.calculated (Expr.roundTo n.toDouble places.toNat)
  | _, _ => .ok value

/-- The value of a tree for a field, before it is written. -/
def valueOf (clock : Instant) (field : Field) (expr : Expr) (data : Json) (engine : Engine)
    : Except Expr.EvalError Json := do
  let scope : Expr.Scope := {
    locals := bindings field.sources data
    data := data
    user := engine.user
    functions := engine.functions
    now := engine.time clock }
  rounded field.round (← Expr.eval scope expr)

/-- The computed value of a field, before it is written. -/
def compute (clock : Instant) (field : Field) (data : Json) (engine : Engine)
    : Except FieldError Json × Engine :=
  match compile field.target field.expr engine with
  | (.error error, engine) => (.error (.parse error), engine)
  | (.ok expr, engine) => ((valueOf clock field expr data engine).mapError .eval, engine)

/-- The data with a value written at a target. -/
def writeAt (target : String) (value data : Json) : Except FieldError Json :=
  (DataPath.write data (DataPath.ofText target) value).mapError .write

/-- Evaluates a field and writes its value into the data. Where that fails the fallback is
written instead, if it can be, and the result carries the error.
-/
def evaluate (clock : Instant) (field : Field) (data : Json) (engine : Engine)
    : Result × Json × Engine :=
  let target := field.target
  let (computed, engine) := compute clock field data engine
  let written := computed.bind fun value =>
    (writeAt target value data).map fun data => (value, data)
  let (value, data, error) :=
    match written with
    | .ok (value, data) => (value, data, none)
    | .error error =>
      let fallback := field.fallback.getD .null
      match writeAt target fallback data with
      | .ok data => (fallback, data, some error)
      | .error _ => (fallback, data, some error)
  let values :=
    if field.cache = some false then engine.values else engine.values.insert target value
  ({ path := target
     value := value
     dependencies := field.sources
     timestamp := engine.time clock
     error := error },
    data, { engine with values := values })

/-- Evaluates fields from the first to the last. -/
def evaluateInOrder (clock : Instant) (data : Json) (engine : Engine)
    : List Field → List Result × Json × Engine
  | [] => ([], data, engine)
  | field :: rest =>
    let (result, data, engine) := evaluate clock field data engine
    let (results, data, engine) := evaluateInOrder clock data engine rest
    (result :: results, data, engine)

/-- Registers the fields of a batch. -/
def registerAll (fields : List Field) (engine : Engine) : Engine :=
  fields.foldl (fun engine field => engine.register field) engine

/-- Registers the fields of a batch and evaluates each after those that it reads. A cycle among
them is an error, and then nothing is evaluated.
-/
def evaluateAll (clock : Instant) (fields : List Field) (data : Json) (engine : Engine)
    : Except CircularDependency (List Result) × Json × Engine :=
  let engine := engine.registerAll fields
  match order fields with
  | .error error => (.error error, data, engine)
  | .ok ordered =>
    let (results, data, engine) := evaluateInOrder clock data engine ordered
    (.ok results, data, engine)

/-- The targets downstream of a path, nearest first. -/
def affected (changed : String) (engine : Engine) : List String :=
  Graph.affected engine.edges (DataPath.normalize changed)

/-- The latest definitions of the targets downstream of a path, nearest first. -/
def downstream (changed : String) (engine : Engine) : List Field :=
  (engine.affected changed).filterMap fun target => Table.find? target engine.fields

/-- Evaluates the registered fields downstream of a path. -/
def evaluateAffected (clock : Instant) (changed : String) (data : Json) (engine : Engine)
    : Except CircularDependency (List Result) × Json × Engine :=
  evaluateAll clock (engine.downstream changed) data engine

/-- The value that is kept for a path. -/
def value? (path : String) (engine : Engine) : Option Json :=
  Table.find? (DataPath.normalize path) engine.values

/-- Drops the values that are kept; the fields stay registered. -/
def clearCache (engine : Engine) : Engine :=
  { engine with values := [] }

end Engine

end FormWizard.Computed
