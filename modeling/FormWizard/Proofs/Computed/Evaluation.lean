import FormWizard.Computed.Engine
import FormWizard.Proofs.Expr.Mentions
import Mathlib.Data.List.Basic

/-! Evaluating one field. Its value is a function of what its sources hold and of what the host
supplies: the engine's memory of expressions and values has no part in it.
-/

namespace FormWizard.Computed

open Calendar (Instant)
open DataPath (ofText)

/-- What the host supplies to an evaluation: functions, the user and the time. -/
structure Setting where
  functions : Table Expr.HostFunction
  user : Option Json
  time : Instant

/-- What an engine is supplied with while its clock shows the given time. -/
def Engine.setting (clock : Instant) (engine : Engine) : Setting where
  functions := engine.functions
  user := engine.user
  time := engine.time clock

/-- What stands at a path of the data; a missing value counts as null. -/
def read (data : Json) (path : String) : Json :=
  (DataPath.get? data (ofText path)).getD .null

/-- The expression of a field, if it is one, does not name the data as a whole. -/
def Field.IgnoresData (field : Field) : Prop :=
  ∀ expr, Expr.parse field.expr = .ok expr → expr.mentions "data" = false

instance (field : Field) : Decidable field.IgnoresData :=
  match h : Expr.parse field.expr with
  | .error _ => isTrue fun expr parsed => by simp [h] at parsed
  | .ok expr => decidable_of_iff (expr.mentions "data" = false) (by simp [Field.IgnoresData, h])

namespace Setting

/-- The value that a tree has for a field. -/
def valueOf (setting : Setting) (field : Field) (expr : Expr) (data : Json)
    : Except Expr.EvalError Json := do
  let scope : Expr.Scope := {
    locals := Engine.bindings field.sources data
    data := data
    user := setting.user
    functions := setting.functions
    now := setting.time }
  Engine.rounded field.round (← Expr.eval scope expr)

/-- The computed value of a field. -/
def compute (setting : Setting) (field : Field) (data : Json) : Except FieldError Json :=
  match Expr.parse field.expr with
  | .error error => .error (.parse error)
  | .ok expr => (setting.valueOf field expr data).mapError .eval

/-- The value that is written for a field: the computed one, or else the fallback. -/
def value (setting : Setting) (field : Field) (data : Json) : Json :=
  match setting.compute field data with
  | .ok value => value
  | .error _ => field.fallback.getD .null

/-- The error of a field whose value cannot be computed. -/
def error? (setting : Setting) (field : Field) (data : Json) : Option FieldError :=
  match setting.compute field data with
  | .ok _ => none
  | .error error => some error

/-- The result for a field whose value can be written. -/
def result (setting : Setting) (field : Field) (data : Json) : Result where
  path := field.target
  value := setting.value field data
  dependencies := field.sources
  timestamp := setting.time
  error := setting.error? field data

/-- Data that hold the same in all sources of a field give it the same locals. -/
theorem bindings_congr {sources : List String} {data other : Json}
    (same : ∀ source ∈ sources, read data source = read other source)
    : Engine.bindings sources data = Engine.bindings sources other := by
  unfold Engine.bindings
  refine congrArg Table.ofEntries (List.filterMap_congr fun source member => ?_)
  have same := same source member
  simp only [read] at same
  simp only [same]

/-- The value of a field depends on the data only through its sources. -/
theorem compute_congr (setting : Setting) {field : Field} {data other : Json}
    (ignores : field.IgnoresData)
    (same : ∀ source ∈ field.sources, read data source = read other source)
    : setting.compute field data = setting.compute field other := by
  unfold compute
  cases parsed : Expr.parse field.expr with
  | error error => rfl
  | ok expr =>
      have unnamed := ignores expr parsed
      simp only [valueOf, bindings_congr same]
      rw [Expr.eval_congr_data ⟨Engine.bindings field.sources other, other, setting.user,
        setting.functions, setting.time⟩ data expr unnamed]

theorem value_congr (setting : Setting) {field : Field} {data other : Json}
    (ignores : field.IgnoresData)
    (same : ∀ source ∈ field.sources, read data source = read other source)
    : setting.value field data = setting.value field other := by
  rw [value, value, setting.compute_congr ignores same]

theorem result_congr (setting : Setting) {field : Field} {data other : Json}
    (ignores : field.IgnoresData)
    (same : ∀ source ∈ field.sources, read data source = read other source)
    : setting.result field data = setting.result field other := by
  rw [result, result, value, error?, setting.compute_congr ignores same]
  rfl

end Setting

namespace Engine

/-- A remembered tree is the tree of its source, so remembering it makes no difference. -/
theorem compile_fst (target source : String) (engine : Engine)
    : (compile target source engine).1 = Expr.parse source := by
  unfold compile
  split
  · rename_i compiled found
    obtain ⟨-, same⟩ := Option.filter_eq_some_iff.mp found
    rw [← compiled.parsed, of_decide_eq_true same]
  · split <;> simp_all

/-- The setting that an engine has does not change when it remembers a tree. -/
theorem setting_compile (clock : Instant) (target source : String) (engine : Engine)
    : (compile target source engine).2.setting clock = engine.setting clock := by
  unfold compile
  split
  · rfl
  · split <;> rfl

/-- Computing a field gives its value in the setting of the engine. -/
theorem compute_fst (clock : Instant) (field : Field) (data : Json) (engine : Engine)
    : (compute clock field data engine).1 = (engine.setting clock).compute field data := by
  have tree := compile_fst field.target field.expr engine
  have setting := setting_compile clock field.target field.expr engine
  unfold compute Setting.compute
  rw [← tree]
  revert setting
  rcases compile field.target field.expr engine with ⟨error | expr, after⟩
  · exact fun _ => rfl
  · intro setting
    simp only [setting.symm]
    rfl

/-- What an engine knows of the graph and what the host supplies to it are the same in both. -/
structure SameBase (engine other : Engine) : Prop where
  edges : engine.edges = other.edges
  fields : engine.fields = other.fields
  setting : ∀ clock, engine.setting clock = other.setting clock

theorem SameBase.refl (engine : Engine) : SameBase engine engine :=
  ⟨rfl, rfl, fun _ => rfl⟩

theorem SameBase.trans {first second third : Engine} (h : SameBase first second)
    (next : SameBase second third)
    : SameBase first third :=
  ⟨h.edges.trans next.edges, h.fields.trans next.fields,
    fun clock => (h.setting clock).trans (next.setting clock)⟩

theorem sameBase_compute (clock : Instant) (field : Field) (data : Json) (engine : Engine)
    : SameBase (compute clock field data engine).2 engine := by
  unfold compute compile
  split
  · rename_i error after tree
    split at tree
    · cases tree
    · split at tree <;> cases tree
      exact .refl engine
  · rename_i expr after tree
    split at tree
    · cases tree
      exact .refl engine
    · split at tree <;> cases tree
      exact ⟨rfl, rfl, fun _ => rfl⟩

/-- Evaluating a field changes nothing but what is remembered. -/
theorem sameBase_evaluate (clock : Instant) (field : Field) (data : Json) (engine : Engine)
    : SameBase (evaluate clock field data engine).2.2 engine := by
  have base := sameBase_compute clock field data engine
  unfold evaluate
  revert base
  rcases compute clock field data engine with ⟨computed, after⟩
  intro base
  exact ⟨base.edges, base.fields, base.setting⟩

/-- Evaluating a field writes its computed value, or else its fallback. -/
def toWrite (clock : Instant) (field : Field) (data : Json) (engine : Engine) : Json :=
  match (compute clock field data engine).1 with
  | .ok value => value
  | .error _ => field.fallback.getD .null

theorem toWrite_eq (clock : Instant) (field : Field) (data : Json) (engine : Engine)
    : toWrite clock field data engine = (engine.setting clock).value field data := by
  rw [toWrite, compute_fst]
  rfl

/-- Where that write succeeds, it is all that happens to the data. -/
theorem evaluate_of_write {clock : Instant} {field : Field} {data after : Json} {engine : Engine}
    (h : writeAt field.target (toWrite clock field data engine) data = .ok after)
    : (evaluate clock field data engine).1 = (engine.setting clock).result field data
      ∧ (evaluate clock field data engine).2.1 = after := by
  have computed := compute_fst clock field data engine
  have base := (sameBase_compute clock field data engine).setting clock
  rw [toWrite] at h
  unfold evaluate
  revert h computed base
  rcases compute clock field data engine with ⟨error | value, next⟩
  all_goals
    intro h computed base
    have time : next.time clock = (engine.setting clock).time := by rw [← base]; rfl
    simp only at computed h
    simp [Setting.result, Setting.value, Setting.error?, ← computed, h, time, Except.bind,
      Except.map]

/-- Every write succeeds that evaluating the fields one after the other performs. -/
def WritesSucceed (clock : Instant) (data : Json) (engine : Engine) : List Field → Prop
  | [] => True
  | field :: rest =>
      (∃ after, writeAt field.target (toWrite clock field data engine) data = .ok after)
      ∧ WritesSucceed clock (evaluate clock field data engine).2.1
          (evaluate clock field data engine).2.2 rest

instance decidableWritesSucceed (clock : Instant) (data : Json) (engine : Engine)
    (fields : List Field)
    : Decidable (WritesSucceed clock data engine fields) :=
  match fields with
  | [] => isTrue trivial
  | field :: rest =>
      have : Decidable (WritesSucceed clock (evaluate clock field data engine).2.1
          (evaluate clock field data engine).2.2 rest) :=
        decidableWritesSucceed clock _ _ rest
      match h : writeAt field.target (toWrite clock field data engine) data with
      | .error _ => isFalse fun ⟨⟨_, write⟩, _⟩ => by simp [h] at write
      | .ok after => decidable_of_iff (WritesSucceed clock (evaluate clock field data engine).2.1
          (evaluate clock field data engine).2.2 rest) (by simp [WritesSucceed, h])

end Engine

end FormWizard.Computed
