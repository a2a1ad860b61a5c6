import FormWizard.Navigation.Path
import FormWizard.Proofs.Computed.DependencyOrder
import FormWizard.Proofs.Computed.Histories
import FormWizard.Proofs.Navigation.Decisions
import FormWizard.Proofs.Schema.Issues
import FormWizard.Proofs.Schema.Soundness
import FormWizard.Proofs.Visibility.Passes

/-! The issues of a schema are what the engines run into. Guides fail on the steps with ambiguous
defaults, judges on the references that lead nowhere, and engines of computed fields on cycles and
on expressions that cannot be read; on a sound schema none of them fails for any such reason.
-/

namespace FormWizard

open Calendar (Instant)
open Navigation (Situation)
open Schema (FieldEntry Step Transition UnresolvedReference)

-----------------------------------------------------------------------------------------
-- Failures
-----------------------------------------------------------------------------------------

section Failures

variable {α β ε : Type} {error : ε}

theorem map_eq_error_iff {outcome : Except ε α} {f : α → β}
    : outcome.map f = .error error ↔ outcome = .error error := by
  cases outcome <;> simp [Except.map]

/-- A pass over a list fails for one of its items. -/
theorem exists_of_mapM_error {f : α → Except ε β} {items : List α}
    (fails : items.mapM f = .error error)
    : ∃ item ∈ items, f item = .error error := by
  induction items with
  | nil => cases fails
  | cons item rest ih =>
      rw [List.mapM_cons] at fails
      cases found : f item with
      | error first =>
          rw [found] at fails
          cases fails
          exact ⟨item, List.mem_cons_self, found⟩
      | ok value =>
          cases others : rest.mapM f with
          | error later =>
              rw [found, others] at fails
              cases fails
              obtain ⟨other, listed, failed⟩ := ih others
              exact ⟨other, List.mem_cons_of_mem _ listed, failed⟩
          | ok values =>
              rw [found, others] at fails
              cases fails

/-- If one item fails, then so does the pass, for that item or for one before. -/
theorem mapM_error_of_mem {f : α → Except ε β} {items : List α} {item : α}
    (listed : item ∈ items) (fails : f item = .error error)
    : ∃ first, items.mapM f = .error first := by
  induction items with
  | nil => cases listed
  | cons other rest ih =>
      rw [List.mapM_cons]
      cases found : f other with
      | error first => exact ⟨first, rfl⟩
      | ok value =>
          rcases List.mem_cons.mp listed with rfl | later
          · cases found.symm.trans fails
          · obtain ⟨first, failed⟩ := ih later
            exact ⟨first, by rw [failed]; rfl⟩

end Failures

-----------------------------------------------------------------------------------------
-- Guides
-----------------------------------------------------------------------------------------

namespace Navigator

variable {clock : Instant} {situation : Situation} {navigator : Navigator}

/-- The decision with the defaults counted as for the issues. -/
theorem decision_fst (step : String)
    : (navigator.decision clock situation step).1
      = if navigator.endsAt situation step then .ok none
        else if 1 < situation.schema.defaultCount step then
          .error (.ambiguousDefault step (situation.schema.defaultCount step))
        else
          ((firstOpen clock situation
              ((situation.schema.transitionsFrom step).filter (not ∘ Transition.isDefault))
              navigator.visibility.evaluator).1.map fun transition =>
                transition.or
                  ((situation.schema.transitionsFrom step).filter Transition.isDefault).head?
            ).mapError .rule := by
  have counted : ((situation.schema.transitionsFrom step).filter Transition.isDefault).length
      = situation.schema.defaultCount step := by
    rw [Schema.transitionsFrom, Schema.defaultCount, List.countP_eq_length_filter,
      List.filter_filter]
  rw [decision, List.partition_eq_filter_filter]
  dsimp only
  rw [counted]
  split_ifs <;> rfl

/-- A decision fails for the number of defaults where it is looked at, and is more than one. -/
theorem decision_ambiguousDefault_iff {step source : String} {count : Nat}
    : (navigator.decision clock situation step).1 = .error (.ambiguousDefault source count)
      ↔ navigator.endsAt situation step = false ∧ step = source
        ∧ 1 < situation.schema.defaultCount step
        ∧ situation.schema.defaultCount step = count := by
  rw [decision_fst]
  split_ifs with ends several
  · simp [ends]
  · simp [ends, several]
  · simp only [several, false_and, and_false, iff_false]
    cases (firstOpen clock situation _ _).1 <;> simp [Except.map, Except.mapError]

theorem firstOpen_mem {transitions : List Transition} {evaluator : Rule.Evaluator}
    {transition : Transition}
    (found : (firstOpen clock situation transitions evaluator).1 = .ok (some transition))
    : transition ∈ transitions := by
  fun_induction firstOpen clock situation transitions evaluator with
  | case1 => cases found
  | case2 => cases found
  | case3 => cases found; exact List.mem_cons_self
  | case4 _ _ _ _ _ _ _ ih => exact List.mem_cons_of_mem _ (ih found)

/-- A decision is for one of the other transitions that leave the step, or for its default one. -/
theorem decision_mem_or {step : String} {transition : Transition}
    (decided : (navigator.decision clock situation step).1 = .ok (some transition))
    : transition ∈ (situation.schema.transitionsFrom step).filter (not ∘ Transition.isDefault)
      ∨ some transition
        = ((situation.schema.transitionsFrom step).filter Transition.isDefault).head? := by
  rw [decision_fst] at decided
  split_ifs at decided
  · cases decided
  · cases opened : (firstOpen clock situation
        ((situation.schema.transitionsFrom step).filter (not ∘ Transition.isDefault))
        navigator.visibility.evaluator).1 with
    | error error =>
        rw [opened] at decided
        cases decided
    | ok found =>
        rw [opened] at decided
        cases found with
        | some _ =>
            cases decided
            exact .inl (firstOpen_mem opened)
        | none => exact .inr (Except.ok.inj decided).symm

/-- A decision is for a transition of the schema. -/
theorem decision_mem {step : String} {transition : Transition}
    (decided : (navigator.decision clock situation step).1 = .ok (some transition))
    : transition ∈ situation.schema.transitions := by
  have ofWay {keep : Transition → Bool}
      (member : transition ∈ (situation.schema.transitionsFrom step).filter keep)
      : transition ∈ situation.schema.transitions :=
    List.mem_of_mem_filter (List.mem_of_mem_filter member)
  rcases decision_mem_or decided with other | first
  · exact ofWay other
  · exact ofWay (List.mem_of_head? first.symm)

/-- A walk fails as one of the decisions on its way does. Witness: induction on the moves. -/
theorem walk_error {goal step : String} {moves : Nat} {before : List String}
    {error : Navigation.Error}
    (fails : (navigator.walk clock situation goal moves step before).1 = .error error)
    : ∃ (guide : Navigator) (here : String),
        (guide.decision clock situation here).1 = .error error := by
  induction moves generalizing step before navigator with
  | zero => cases fails
  | succ moves ih =>
      rw [walk] at fails
      split at fails
      · rename_i decided
        cases fails
        exact ⟨navigator, step, by rw [decided]⟩
      · cases fails
      · dsimp only at fails
        split at fails
        · cases fails
        · split at fails
          · cases fails
          · exact ih fails

end Navigator

-----------------------------------------------------------------------------------------
-- Judges
-----------------------------------------------------------------------------------------

namespace Visibility

variable {clock : Instant} {schema : Schema} {data : Json} {facts : Facts} {judge : Visibility}
  {cause : UnresolvedReference}

theorem visibleFields_error {step : String}
    (fails : (judge.visibleFields clock schema step data facts).1 = .error cause)
    : .unresolvedReference step cause ∈ schema.issues := by
  unfold visibleFields at fails
  split at fails
  · cases fails
  · rename_i found there
    obtain ⟨entry, listed, unresolved⟩ :=
      exists_of_mapM_error ((fieldVerdicts_error_iff ..).mp (map_eq_error_iff.mp fails))
    exact Schema.unresolvedReference_mem_issues_iff.mpr
      ⟨found, List.mem_of_find?_eq_some there, by simpa using List.find?_some there, entry, listed,
        unresolved⟩

/-- Judging all elements fails as resolving the entries of all steps does. -/
theorem elements_error_iff
    : (judge.elements clock schema data facts).1 = .error cause
      ↔ schema.steps.mapM (fun step => step.fields.mapM schema.resolve) = .error cause := by
  rw [← elementVerdicts_error_iff clock data facts schema schema.steps judge cause, elements]
  exact map_eq_error_iff

theorem elements_error
    (fails : (judge.elements clock schema data facts).1 = .error cause)
    : ∃ step, .unresolvedReference step cause ∈ schema.issues := by
  obtain ⟨step, there, failed⟩ := exists_of_mapM_error (elements_error_iff.mp fails)
  exact ⟨step.id, Schema.unresolvedReference_mem_issues_iff.mpr
    ⟨step, there, rfl, exists_of_mapM_error failed⟩⟩

theorem elements_error_of_mem {step : String}
    (reported : .unresolvedReference step cause ∈ schema.issues)
    : ∃ first, (judge.elements clock schema data facts).1 = .error first := by
  obtain ⟨step, there, -, entry, listed, unresolved⟩ :=
    Schema.unresolvedReference_mem_issues_iff.mp reported
  obtain ⟨_, failed⟩ := mapM_error_of_mem listed unresolved
  obtain ⟨first, fails⟩ :=
    mapM_error_of_mem (f := fun step => step.fields.mapM schema.resolve) there failed
  exact ⟨first, elements_error_iff.mpr fails⟩

end Visibility

-----------------------------------------------------------------------------------------
-- Engines of computed fields
-----------------------------------------------------------------------------------------

namespace Computed

theorem Setting.compute_parse_error {setting : Setting} {field : Field} {data : Json}
    {cause : Expr.ParseError} (failed : setting.compute field data = .error (.parse cause))
    : Expr.parse field.expr = .error cause := by
  unfold compute at failed
  cases parsed : Expr.parse field.expr with
  | error other =>
      rw [parsed] at failed
      cases failed
      rfl
  | ok expr =>
      rw [parsed] at failed
      dsimp only at failed
      cases computed : setting.valueOf field expr data with
      | error other =>
          rw [computed] at failed
          cases failed
      | ok value =>
          rw [computed] at failed
          cases failed

/-- A field fails because its value cannot be computed, or because it cannot be written. -/
theorem Setting.evaluate_error {setting : Setting} {field : Field} {data : Json}
    {cause : FieldError} (failed : (setting.evaluate field data).1.error = some cause)
    : setting.compute field data = .error cause ∨ ∃ refusal, cause = .write refusal := by
  cases computed : setting.compute field data with
  | error other =>
      simp only [evaluate, computed, Except.bind, Option.some.injEq] at failed
      exact .inl (failed ▸ rfl)
  | ok value =>
      cases written : DataPath.write data (DataPath.ofText field.target) value with
      | error refusal =>
          simp only [evaluate, computed, Engine.writeAt, written, Except.bind, Except.map,
            Except.mapError, Option.some.injEq] at failed
          exact .inr ⟨refusal, failed.symm⟩
      | ok after =>
          simp [evaluate, computed, Engine.writeAt, written, Except.bind, Except.map,
            Except.mapError] at failed

theorem Setting.evaluateInOrder_parse_error {setting : Setting} {fields : List Field}
    {data : Json} {result : Result} (listed : result ∈ (setting.evaluateInOrder data fields).1)
    {cause : Expr.ParseError} (failed : result.error = some (.parse cause))
    : ∃ field ∈ fields, Expr.parse field.expr = .error cause := by
  induction fields generalizing data with
  | nil => cases listed
  | cons field rest ih =>
      rcases List.mem_cons.mp listed with rfl | later
      · obtain uncomputed | ⟨refusal, other⟩ := evaluate_error failed
        · exact ⟨field, List.mem_cons_self, compute_parse_error uncomputed⟩
        · cases other
      · obtain ⟨other, there, unread⟩ := ih later
        exact ⟨other, List.mem_cons_of_mem _ there, unread⟩

namespace Engine

variable {clock : Instant} {fields : List Field} {data : Json} {engine : Engine}

theorem evaluateAll_fst
    : (engine.evaluateAll clock fields data).1 = ((engine.setting clock).outcome fields data).1 :=
  congrArg Prod.fst (outcome_eq clock data engine fields)

/-- A batch fails as putting it in order does. -/
theorem evaluateAll_error_iff {cause : CircularDependency}
    : (engine.evaluateAll clock fields data).1 = .error cause ↔ order fields = .error cause := by
  rw [evaluateAll_fst, Setting.outcome]
  cases order fields <;> simp

/-- A result that tells of an expression that cannot be read is about a field of the batch. -/
theorem evaluateAll_parse_error {results : List Result}
    (evaluated : (engine.evaluateAll clock fields data).1 = .ok results) {result : Result}
    (listed : result ∈ results) {cause : Expr.ParseError}
    (failed : result.error = some (.parse cause))
    : ∃ field ∈ fields, Expr.parse field.expr = .error cause := by
  rw [evaluateAll_fst, Setting.outcome] at evaluated
  cases ordering : order fields with
  | error error =>
      rw [ordering] at evaluated
      cases evaluated
  | ok ordered =>
      rw [ordering] at evaluated
      cases evaluated
      obtain ⟨field, there, unread⟩ := Setting.evaluateInOrder_parse_error listed failed
      have counts := (isDependencyOrder_of_order ordering).declared field there
      exact ⟨field, (declared?_spec counts).1, unread⟩

end Engine

end Computed

-----------------------------------------------------------------------------------------
-- Agreement
-----------------------------------------------------------------------------------------

namespace Schema

variable {schema : Schema}

/-- The engines can work with a schema, whatever the data, the context, and what they have
remembered: guides find no ambiguous defaults and go to declared steps, judges find no reference
that leads nowhere, and computed fields are evaluated in an order, by expressions that can be read.
-/
structure IsServed (schema : Schema) : Prop where
  next : ∀ clock data context step (navigator : Navigator) source count,
    (navigator.next clock ⟨schema, data, context⟩ step).1 ≠ .error (.ambiguousDefault source count)
  declared : ∀ clock data context step (navigator : Navigator) target,
    (navigator.next clock ⟨schema, data, context⟩ step).1 = .ok (some target) →
      target ∈ schema.stepIds
  canMove : ∀ clock data context step target (navigator : Navigator) source count,
    (navigator.canMove clock ⟨schema, data, context⟩ step target).1
      ≠ .error (.ambiguousDefault source count)
  path : ∀ clock data context start goal maxSteps (navigator : Navigator) source count,
    (navigator.path clock ⟨schema, data, context⟩ start goal maxSteps).1
      ≠ .error (.ambiguousDefault source count)
  fields : ∀ clock data facts step (judge : Visibility),
    ∃ names, (judge.visibleFields clock schema step data facts).1 = .ok names
  elements : ∀ clock data facts (judge : Visibility),
    ∃ verdicts, (judge.elements clock schema data facts).1 = .ok verdicts
  computed : ∀ clock data (engine : Computed.Engine),
    ∃ results, (engine.evaluateAll clock schema.computed data).1 = .ok results
      ∧ ∀ result ∈ results, ∀ cause, result.error ≠ some (.parse cause)

/-- Steps at which a transition ends are declared, if there are no issues. -/
theorem target_mem_stepIds (sound : schema.isSound = true) {transition : Transition}
    (listed : transition ∈ schema.transitions)
    : transition.target ∈ schema.stepIds := by
  by_contra undeclared
  exact isSound_iff.mp sound _ <| unknownStep_mem_issues_iff.mpr
    ⟨transition, listed, by simp, undeclared, rfl, rfl⟩

/-- No decision on a sound schema fails for want of a single default. -/
theorem decision_ne_ambiguousDefault (sound : schema.isSound = true) {situation : Situation}
    (of : situation.schema = schema) {clock : Instant} {step : String} {navigator : Navigator}
    {source : String} {count : Nat}
    : (navigator.decision clock situation step).1 ≠ .error (.ambiguousDefault source count) := by
  subst of
  intro fails
  obtain ⟨-, -, several, -⟩ := Navigator.decision_ambiguousDefault_iff.mp fails
  exact isSound_iff.mp sound _ (ambiguousDefault_mem_issues_iff.mpr ⟨several, rfl⟩)

/-- The engines can work with a sound schema. -/
theorem isServed_of_isSound (sound : schema.isSound = true) : schema.IsServed where
  next := by
    intro clock data context step navigator source count fails
    rw [Navigator.next_fst, map_eq_error_iff] at fails
    exact decision_ne_ambiguousDefault sound rfl fails
  declared := by
    intro clock data context step navigator target moved
    rw [Navigator.next_fst] at moved
    cases decided : (navigator.decision clock ⟨schema, data, context⟩ step).1 with
    | error error =>
        rw [decided] at moved
        cases moved
    | ok found =>
        rw [decided] at moved
        obtain ⟨transition, rfl, rfl⟩ := Option.map_eq_some_iff.mp (Except.ok.inj moved)
        exact target_mem_stepIds sound (Navigator.decision_mem decided)
  canMove := by
    intro clock data context step target navigator source count fails
    rw [Navigator.canMove_fst, Navigator.next_fst, map_eq_error_iff, map_eq_error_iff] at fails
    exact decision_ne_ambiguousDefault sound rfl fails
  path := by
    intro clock data context start goal maxSteps navigator source count fails
    rw [Navigator.path] at fails
    split at fails
    · cases fails
    · obtain ⟨guide, here, failed⟩ := Navigator.walk_error fails
      exact decision_ne_ambiguousDefault sound rfl failed
  fields := by
    intro clock data facts step judge
    cases judged : (judge.visibleFields clock schema step data facts).1 with
    | ok names => exact ⟨names, rfl⟩
    | error cause =>
        exact absurd (Visibility.visibleFields_error judged) (isSound_iff.mp sound _)
  elements := by
    intro clock data facts judge
    cases judged : (judge.elements clock schema data facts).1 with
    | ok verdicts => exact ⟨verdicts, rfl⟩
    | error cause =>
        obtain ⟨step, reported⟩ := Visibility.elements_error judged
        exact absurd reported (isSound_iff.mp sound _)
  computed := by
    intro clock data engine
    cases evaluated : (engine.evaluateAll clock schema.computed data).1 with
    | ok results =>
        refine ⟨results, rfl, fun result listed cause failed => ?_⟩
        obtain ⟨field, there, unread⟩ :=
          Computed.Engine.evaluateAll_parse_error evaluated listed failed
        exact isSound_iff.mp sound _
          (invalidExpression_mem_issues_iff.mpr ⟨field, there, rfl, unread⟩)
    | error cause =>
        have ordering := Computed.Engine.evaluateAll_error_iff.mp evaluated
        exact absurd (circularDependency_mem_issues_iff.mpr ordering) (isSound_iff.mp sound _)

/-- The issues of a schema tell what the engines will run into. Without any they can work with it.
A guide that does not stop at review steps fails on a step that is reported for its defaults, with
the count that is reported. A judge of all elements fails if a reference is reported, and an engine
fails for the cycle that is reported.
-/
theorem engines_agree (schema : Schema)
    : (schema.isSound = true → schema.IsServed)
      ∧ (∀ step count, .ambiguousDefault step count ∈ schema.issues →
          ∀ clock data (context : Context) (navigator : Navigator),
            context.reviewTerminal = some false →
            (navigator.next clock ⟨schema, data, context⟩ step).1
              = .error (.ambiguousDefault step count))
      ∧ (∀ step cause, .unresolvedReference step cause ∈ schema.issues →
          ∀ clock data facts (judge : Visibility),
            ∃ first, (judge.elements clock schema data facts).1 = .error first)
      ∧ ∀ cause, .circularDependency cause ∈ schema.issues →
          ∀ clock data (engine : Computed.Engine),
            (engine.evaluateAll clock schema.computed data).1 = .error cause := by
  refine ⟨isServed_of_isSound, ?_, ?_, ?_⟩
  · intro step count reported clock data context navigator goesOn
    obtain ⟨several, counted⟩ := ambiguousDefault_mem_issues_iff.mp reported
    rw [Navigator.next_fst, map_eq_error_iff, Navigator.decision_ambiguousDefault_iff]
    exact ⟨by simp [Navigator.endsAt, goesOn], rfl, several, counted⟩
  · intro step cause reported clock data facts judge
    exact Visibility.elements_error_of_mem reported
  · intro cause reported clock data engine
    exact Computed.Engine.evaluateAll_error_iff.mpr (circularDependency_mem_issues_iff.mp reported)

/-- A form that asks for two numbers and shows their sum. -/
def sums : Schema where
  id := "sums"
  steps := [{ id := "ask", fields := [.inline { name := "left" }, .ref "#/definitions/right"] },
    { id := "review", fields := [.inline { name := "sum" }] }]
  transitions := [{ source := "ask", target := "review", isDefault := true }]
  computed := [{ path := "sum", expr := "left + right", dependsOn := ["left", "right"] }]
  definitions := [("right", { name := "right" })]

/-- The form without the definition, with a second way on, and with a number that is computed from
the sum.
-/
def tangledSums : Schema where
  id := "sums"
  steps := sums.steps
  transitions := { source := "ask", target := "ask", isDefault := true } :: sums.transitions
  computed := { path := "right", expr := "sum", dependsOn := ["$['sum']"] } :: sums.computed

theorem engines_agree_sums
    : (sums.isSound = true ∧ sums.IsServed)
      ∧ (.ambiguousDefault "ask" 2 ∈ tangledSums.issues
        ∧ ∀ clock data (navigator : Navigator),
            (navigator.next clock ⟨tangledSums, data, { reviewTerminal := some false }⟩ "ask").1
              = .error (.ambiguousDefault "ask" 2))
      ∧ (.unresolvedReference "ask" ⟨"#/definitions/right"⟩ ∈ tangledSums.issues
        ∧ ∀ clock data facts (judge : Visibility),
            ∃ first, (judge.elements clock tangledSums data facts).1 = .error first)
      ∧ .circularDependency ⟨"$.right"⟩ ∈ tangledSums.issues
        ∧ ∀ clock data (engine : Computed.Engine),
            (engine.evaluateAll clock tangledSums.computed data).1 = .error ⟨"$.right"⟩ := by
  have sound : sums.isSound = true := by decide +kernel
  have defaults : .ambiguousDefault "ask" 2 ∈ tangledSums.issues := by decide +kernel
  have reference : .unresolvedReference "ask" ⟨"#/definitions/right"⟩ ∈ tangledSums.issues := by
    decide +kernel
  have cycle : .circularDependency ⟨"$.right"⟩ ∈ tangledSums.issues := by decide +kernel
  obtain ⟨served, -⟩ := engines_agree sums
  obtain ⟨-, ambiguous, unresolved, circular⟩ := engines_agree tangledSums
  exact ⟨⟨sound, served sound⟩,
    ⟨defaults, fun clock data navigator => ambiguous _ _ defaults clock data _ navigator rfl⟩,
    ⟨reference, unresolved _ _ reference⟩, cycle, circular _ cycle⟩

end Schema

end FormWizard
