import FormWizard.Proofs.Computed.Regularity

/-! What an engine has been asked before cannot be seen in its evaluations. It remembers
expressions, values, edges and fields, but each evaluation comes to what the field or the batch
comes to in the setting of the engine: its functions, its user and the time.
-/

namespace FormWizard.Computed

open Calendar (Instant)

/-- What a host may ask of an engine. -/
inductive Request where
  | register (field : Field)
  | registerFunction (name : String) (function : Expr.HostFunction)
  | setUser (user : Json)
  | pinClock (now : Instant)
  | evaluate (clock : Instant) (field : Field) (data : Json)
  | evaluateAll (clock : Instant) (fields : List Field) (data : Json)
  | evaluateAffected (clock : Instant) (changed : String) (data : Json)
  | clear

namespace Engine

/-- The engine after a request. -/
def perform : Request → Engine → Engine
  | .register field, engine => engine.register field
  | .registerFunction name function, engine => engine.registerFunction name function
  | .setUser user, engine => { engine with user := some user }
  | .pinClock now, engine => { engine with now := some now }
  | .evaluate clock field data, engine => (engine.evaluate clock field data).2.2
  | .evaluateAll clock fields data, engine => (engine.evaluateAll clock fields data).2.2
  | .evaluateAffected clock changed data, engine =>
    (engine.evaluateAffected clock changed data).2.2
  | .clear, engine => engine.clearCache

/-- A new engine after a run of requests. -/
def after (requests : List Request) : Engine :=
  requests.foldl (fun engine request => engine.perform request) {}

/-- What holds of a new engine and is kept by every request holds after every run. -/
theorem after_induction (holds : List Request → Engine → Prop) (start : holds [] {})
    (step : ∀ requests request engine,
      holds requests engine → holds (requests ++ [request]) (engine.perform request))
    (requests : List Request)
    : holds requests (after requests) := by
  induction requests using List.reverseRecOn with
  | nil => exact start
  | append_singleton requests request ih =>
      have last : after (requests ++ [request]) = (after requests).perform request := by
        simp [after]
      rw [last]
      exact step requests request _ ih

-----------------------------------------------------------------------------------------
-- What evaluations change
-----------------------------------------------------------------------------------------

/-- Evaluating a batch changes what registering it changes, and what is remembered. -/
theorem sameBase_evaluateAll (clock : Instant) (fields : List Field) (data : Json)
    (engine : Engine)
    : SameBase (evaluateAll clock fields data engine).2.2 (engine.registerAll fields) := by
  unfold evaluateAll
  cases ordering : order fields with
  | error error => exact .refl _
  | ok ordered => exact sameBase_evaluateInOrder clock data _ ordered

theorem setting_evaluateAll (clock time : Instant) (fields : List Field) (data : Json)
    (engine : Engine)
    : (evaluateAll clock fields data engine).2.2.setting time = engine.setting time :=
  ((sameBase_evaluateAll clock fields data engine).setting time).trans
    (setting_registerAll time fields engine)

end Engine

/-- The setting of an engine after a request: only the requests that supply something change it. -/
def Setting.after : Request → Setting → Setting
  | .registerFunction name function, setting =>
    { setting with functions := setting.functions.insert name function }
  | .setUser user, setting => { setting with user := some user }
  | .pinClock now, setting => { setting with time := now }
  | _, setting => setting

namespace Engine

theorem setting_perform (clock : Instant) (request : Request) (engine : Engine)
    : (engine.perform request).setting clock = (engine.setting clock).after request := by
  cases request with
  | evaluate time field data => exact (sameBase_evaluate time field data engine).setting clock
  | evaluateAll time fields data => exact setting_evaluateAll time clock fields data engine
  | evaluateAffected time changed data => exact setting_evaluateAll time clock _ data engine
  | _ => rfl

/-- The setting after a run of requests is what they have supplied. -/
theorem setting_after (clock : Instant) (requests : List Request)
    : (after requests).setting clock
      = requests.foldl (fun setting request => setting.after request) ⟨[], none, clock⟩ := by
  refine after_induction (fun requests engine => engine.setting clock
    = requests.foldl (fun setting request => setting.after request) ⟨[], none, clock⟩) rfl
    (fun requests request engine ih => ?_) requests
  rw [setting_perform, ih, List.foldl_append]
  rfl

/-- The functions of an engine are in order, whatever it has been asked. -/
theorem sorted_functions_after (requests : List Request)
    : (after requests).functions.keys.Pairwise (· < ·) := by
  refine after_induction (fun _ engine => engine.functions.keys.Pairwise (· < ·)) .nil
    (fun _ request engine sorted => ?_) requests
  have functions : (engine.perform request).functions
      = ((engine.setting default).after request).functions :=
    congrArg Setting.functions (setting_perform default request engine)
  rw [functions]
  cases request with
  | registerFunction name function => exact Table.sorted_insert sorted name function
  | _ => exact sorted

end Engine

-----------------------------------------------------------------------------------------
-- Evaluations without a memory
-----------------------------------------------------------------------------------------

namespace Setting

/-- What evaluating a field comes to in a setting: its result, and the data that it leaves. -/
def evaluate (setting : Setting) (field : Field) (data : Json) : Result × Json :=
  let result (value : Json) (error : Option FieldError) : Result := {
    path := field.target
    value := value
    dependencies := field.sources
    timestamp := setting.time
    error := error }
  let written := (setting.compute field data).bind fun value =>
    (Engine.writeAt field.target value data).map fun data => (value, data)
  match written with
  | .ok (value, data) => (result value none, data)
  | .error error =>
    let fallback := field.fallback.getD .null
    (result fallback (some error), ((Engine.writeAt field.target fallback data).toOption).getD data)

/-- What evaluating fields from the first to the last comes to. -/
def evaluateInOrder (setting : Setting) (data : Json) : List Field → List Result × Json
  | [] => ([], data)
  | field :: rest =>
    let (result, data) := setting.evaluate field data
    let (results, data) := setting.evaluateInOrder data rest
    (result :: results, data)

/-- What evaluating a batch comes to. -/
def outcome (setting : Setting) (fields : List Field) (data : Json)
    : Except CircularDependency (List Result) × Json :=
  match order fields with
  | .error error => (.error error, data)
  | .ok ordered => (setting.evaluateInOrder data ordered).map .ok id

end Setting

namespace Engine

variable (clock : Instant) (data : Json) (engine : Engine)

/-- An engine evaluates a field as one without a memory does. -/
theorem evaluate_eq (field : Field)
    : ((evaluate clock field data engine).1, (evaluate clock field data engine).2.1)
      = (engine.setting clock).evaluate field data := by
  have computed := compute_fst clock field data engine
  have base := (sameBase_compute clock field data engine).setting clock
  unfold evaluate Setting.evaluate
  revert computed base
  rcases compute clock field data engine with ⟨computed, next⟩
  intro same base
  have time : next.time clock = (engine.setting clock).time := by rw [← base]; rfl
  simp only at same
  rw [← same]
  simp only [time]
  rcases computed.bind fun value =>
      (writeAt field.target value data).map fun data => (value, data) with error | ⟨value, written⟩
  · cases writeAt field.target (field.fallback.getD .null) data <;> rfl
  · rfl

/-- An engine evaluates fields in order as one without a memory does. -/
theorem evaluateInOrder_eq (fields : List Field)
    : ((evaluateInOrder clock data engine fields).1,
        (evaluateInOrder clock data engine fields).2.1)
      = (engine.setting clock).evaluateInOrder data fields := by
  induction fields generalizing data engine with
  | nil => rfl
  | cons field rest ih =>
      have here := evaluate_eq clock data engine field
      have kept := (sameBase_evaluate clock field data engine).setting clock
      have later := ih (evaluate clock field data engine).2.1 (evaluate clock field data engine).2.2
      rw [kept] at later
      simp only [evaluateInOrder, Setting.evaluateInOrder, ← here, ← later]

/-- An engine evaluates a batch as one without a memory does. -/
theorem outcome_eq (fields : List Field)
    : engine.outcome clock fields data = (engine.setting clock).outcome fields data := by
  unfold outcome evaluateAll Setting.outcome
  cases order fields with
  | error error => rfl
  | ok ordered =>
      have same := evaluateInOrder_eq clock data (engine.registerAll fields) ordered
      rw [setting_registerAll] at same
      simp only [← same]
      rfl

/-- The history of an engine cannot be seen in its evaluations. After any two runs of requests that
end with the same functions, the same user and the same time, evaluating a field has the same
result and leaves the same data, and so does evaluating a batch.
-/
theorem evaluations_without_history (requests others : List Request) {clock otherClock : Instant}
    (functions : ∀ name,
      Table.find? name (after requests).functions = Table.find? name (after others).functions)
    (user : (after requests).user = (after others).user)
    (time : (after requests).time clock = (after others).time otherClock)
    : (∀ field data,
        ((after requests).evaluate clock field data).1
            = ((after others).evaluate otherClock field data).1
          ∧ ((after requests).evaluate clock field data).2.1
            = ((after others).evaluate otherClock field data).2.1)
      ∧ ∀ fields data,
          (after requests).outcome clock fields data
            = (after others).outcome otherClock fields data := by
  have supplied : (after requests).setting clock = (after others).setting otherClock := by
    have functions := Table.eq_of_find?_eq (sorted_functions_after requests)
      (sorted_functions_after others) functions
    simp only [setting, functions, user, time]
  constructor
  · intro field data
    have same := (evaluate_eq clock data (after requests) field).trans
      ((congrArg (·.evaluate field data) supplied).trans
        (evaluate_eq otherClock data (after others) field).symm)
    exact Prod.mk.inj same
  · intro fields data
    rw [outcome_eq, outcome_eq, supplied]

end Engine

/-- A function of the host that addresses a person. -/
def addressed : Expr.HostFunction
  | [.string name] => .ok (.string ("Dear " ++ name))
  | _ => .error "expected a name"

/-- The field of a form that holds the salutation of a person. -/
def salutation : Field :=
  { path := "salutation", expr := "addressed(name) + user", dependsOn := ["name"] }

/-- A form that a person has filled in. -/
def filledIn : Json :=
  .object [("name", .string "Ada")]

/-- The requests that set an engine up for the salutation. -/
def settingUp : List Request :=
  [.registerFunction "addressed" addressed, .setUser (.string ",")]

/-- Other requests that set it up. In between there are expressions for the salutation that cannot
be read or evaluated, and fields that read each other in a cycle.
-/
def settingUpLate : List Request :=
  [.evaluate default { salutation with expr := "addressed(" } filledIn,
    .setUser (.string "!"),
    .evaluate default salutation filledIn,
    .registerFunction "addressed" fun _ => .error "not yet",
    .evaluateAll default
      [salutation, { path := "a", expr := "b", dependsOn := ["b"] },
        { path := "b", expr := "a", dependsOn := ["$.a"] }] filledIn,
    .evaluateAffected default "$['name']" filledIn,
    .setUser (.string ","),
    .clear,
    .registerFunction "addressed" addressed]

/-- The salutation is the same after either. -/
theorem evaluations_without_history_salutation
    : ((Engine.after settingUpLate).evaluate default salutation filledIn).1
        = ((Engine.after settingUp).evaluate default salutation filledIn).1
      ∧ ((Engine.after settingUpLate).evaluate default salutation filledIn).1.value
        = .string "Dear Ada," := by
  have same
      : (Engine.after settingUpLate).setting default = (Engine.after settingUp).setting default :=
    (Engine.setting_after default settingUpLate).trans
      (Engine.setting_after default settingUp).symm
  have runs := Engine.evaluations_without_history settingUpLate settingUp
    (fun name => congrArg (Table.find? name ·.functions) same) (congrArg Setting.user same)
    (congrArg Setting.time same)
  obtain ⟨result, -⟩ := runs.1 salutation filledIn
  refine ⟨result, ?_⟩
  rw [result]
  decide +kernel

end FormWizard.Computed
