import FormWizard.Visibility

/-! What a judge of visibility finds of many elements, given what it finds of each. The elements of
a form are judged one after the other and the judge remembers more and more on the way, so that
what is assumed of it is about the elements that are still to come.
-/

namespace FormWizard.Visibility

open Calendar (Instant)
open Schema (FieldEntry FieldSpec Step UnresolvedReference)

-----------------------------------------------------------------------------------------
-- Elements in use
-----------------------------------------------------------------------------------------

/-- An element that is judged, with its rule. -/
abbrev Use := String × Option Rule

/-- A step as an element. -/
def stepUse (step : Step) : Use :=
  (step.id, step.visibleWhen)

/-- A field of a step as an element. -/
def fieldUse (step : String) (field : FieldSpec) : Use :=
  (fieldElement step field.name, field.visibleWhen)

/-- The fields that entries stand for, up to the first reference that leads nowhere. -/
def resolvable (schema : Schema) : List FieldEntry → List FieldSpec
  | [] => []
  | entry :: rest =>
    match schema.resolve entry with
    | .ok field => field :: resolvable schema rest
    | .error _ => []

/-- The elements that are judged when a step is asked for its fields. -/
def fieldUses (schema : Schema) (step : String) (entries : List FieldEntry) : List Use :=
  (resolvable schema entries).map (fieldUse step)

/-- The elements that are judged when a form is asked for all of its elements. -/
def elementUses (schema : Schema) : List Step → List Use
  | [] => []
  | step :: rest =>
    stepUse step :: fieldUses schema step.id step.fields
      ++ (if (step.fields.mapM schema.resolve).isOk then elementUses schema rest else [])

-----------------------------------------------------------------------------------------
-- One verdict
-----------------------------------------------------------------------------------------

section Verdict

variable {clock : Instant} {rule : Rule} {view : View} {judge : Visibility}

/-- A verdict that may change with the time is found anew and not remembered. -/
theorem judgeBy_of_timed (timed : (Rule.Question.mk rule view.data view.facts).isTimeless = false)
    : judge.judgeBy clock rule view
      = (verdict (judge.evaluator.evaluate clock ⟨rule, view.data, view.facts⟩).1,
          { judge with
            evaluator := (judge.evaluator.evaluate clock ⟨rule, view.data, view.facts⟩).2 }) := by
  simp [judgeBy, timed]

theorem judgeBy_of_known {shown : Bool}
    (timeless : (Rule.Question.mk rule view.data view.facts).isTimeless = true)
    (known : Table.find? view.key judge.known = some shown)
    : judge.judgeBy clock rule view = (shown, judge) := by
  simp [judgeBy, timeless, known]

/-- A verdict that does not change with the time is remembered once it is found. -/
theorem judgeBy_of_unknown
    (timeless : (Rule.Question.mk rule view.data view.facts).isTimeless = true)
    (unknown : Table.find? view.key judge.known = none)
    : judge.judgeBy clock rule view
      = (verdict (judge.evaluator.evaluate clock ⟨rule, view.data, view.facts⟩).1,
          { evaluator := (judge.evaluator.evaluate clock ⟨rule, view.data, view.facts⟩).2
            known :=
              judge.known.insert view.key
                (verdict (judge.evaluator.evaluate clock ⟨rule, view.data, view.facts⟩).1) }) := by
  simp [judgeBy, timeless, unknown]

end Verdict

-----------------------------------------------------------------------------------------
-- What is shown by a finding
-----------------------------------------------------------------------------------------

variable (finds : Use → Bool) (schema : Schema)

/-- The ids of the steps that are found to be shown, in order. -/
def shownSteps : List String :=
  (schema.steps.filter fun step => finds (stepUse step)).map Step.id

/-- The names of the given fields of a step that are found to be shown, in order. -/
def shownNames (step : String) (fields : List FieldSpec) : List String :=
  (fields.filter fun field => finds (fieldUse step field)).map FieldSpec.name

/-- The names of the fields of a step that are found to be shown, unless a reference leads nowhere.
-/
def shownFields (step : String) : Except UnresolvedReference (List String) :=
  match schema.step? step with
  | none => .ok []
  | some found => (found.fields.mapM schema.resolve).map (shownNames finds step)

/-- A step and its fields with the findings on them, unless a reference leads nowhere. -/
def foundElements (step : Step) : Except UnresolvedReference (List (String × Bool)) :=
  (step.fields.mapM schema.resolve).map fun fields =>
    (step.id, finds (stepUse step))
      :: fields.map fun field => (fieldElement step.id field.name, finds (fieldUse step.id field))

variable {finds : Use → Bool} {schema : Schema}

theorem resolvable_of_mapM {entries : List FieldEntry} {fields : List FieldSpec}
    (h : entries.mapM schema.resolve = .ok fields)
    : resolvable schema entries = fields := by
  induction entries generalizing fields with
  | nil =>
      cases h
      rfl
  | cons entry rest ih =>
      rw [List.mapM_cons] at h
      cases resolved : schema.resolve entry with
      | error error => simp [resolved, bind, Except.bind] at h
      | ok field =>
          cases others : rest.mapM schema.resolve with
          | error error => simp [resolved, others, bind, Except.bind] at h
          | ok found =>
              simp only [resolved, others, bind, Except.bind, pure, Except.pure,
                Except.ok.injEq] at h
              simp only [resolvable, resolved, ih others, h]

theorem shown_map {α : Type} (name : α → String) (isShown : α → Bool) (elements : List α)
    : shown (elements.map fun element => (name element, isShown element))
      = (elements.filter isShown).map name := by
  rw [shown, List.filter_map, List.map_map]
  rfl

-----------------------------------------------------------------------------------------
-- Verdicts on many elements
-----------------------------------------------------------------------------------------

/-- An outcome is the expected one, and the judge is afterwards as it should be. -/
structure Judged {α : Type} (expected : α) (after : Visibility → Prop) (outcome : α × Visibility)
    : Prop where
  answer : outcome.1 = expected
  after : after outcome.2

/-- What is made of an outcome is what is made of the expected one. -/
theorem Judged.map {α β : Type} {expected : α} {after : Visibility → Prop}
    {outcome : α × Visibility} (h : Judged expected after outcome) (f : α → β)
    : Judged (f expected) after (outcome.map f id) :=
  ⟨congrArg f h.answer, h.after⟩

/-- A judge that is ready for some elements finds of the first one what is expected, and is ready
for the others afterwards.
-/
structure Answers (clock : Instant) (data : Json) (facts : Facts)
    (ready : List Use → Visibility → Prop) (finds : Use → Bool)
    : Prop where
  isVisible
    : ∀ {use rest judge}, ready (use :: rest) judge →
        Judged (finds use) (ready rest) (judge.isVisible clock use.2 ⟨use.1, data, facts⟩)

variable {clock : Instant} {data : Json} {facts : Facts} {ready : List Use → Visibility → Prop}
variable {rest : List Use} {judge : Visibility}

/-- The steps are found as expected. Witness: induction on the steps. -/
theorem Answers.stepVerdicts (h : Answers clock data facts ready finds) {steps : List Step}
    (start : ready (steps.map stepUse ++ rest) judge)
    : Judged (steps.map fun step => (step.id, finds (stepUse step))) (ready rest)
        (judge.stepVerdicts clock data facts steps) := by
  induction steps generalizing judge with
  | nil => exact ⟨rfl, start⟩
  | cons step later ih =>
      have first : Judged (finds (stepUse step)) _
          (judge.isVisible clock step.visibleWhen ⟨step.id, data, facts⟩) := h.isVisible start
      have others := ih first.after
      simp only [Visibility.stepVerdicts]
      exact ⟨by rw [others.answer, first.answer, List.map_cons], others.after⟩

/-- The fields of a step are found as expected, unless a reference leads nowhere. Witness: induction
on the entries.
-/
theorem Answers.fieldVerdicts (h : Answers clock data facts ready finds) {step : String}
    {entries : List FieldEntry} (start : ready (fieldUses schema step entries ++ rest) judge)
    : Judged
        ((entries.mapM schema.resolve).map
          (List.map fun field => (field.name, finds (fieldUse step field))))
        (ready rest) (judge.fieldVerdicts clock schema step data facts entries) := by
  induction entries generalizing judge with
  | nil => exact ⟨rfl, start⟩
  | cons entry later ih =>
      rw [List.mapM_cons]
      cases resolved : schema.resolve entry with
      | error error =>
          simp only [fieldUses, resolvable, resolved] at start
          simp only [Visibility.fieldVerdicts, resolved]
          exact ⟨rfl, start⟩
      | ok field =>
          simp only [fieldUses, resolvable, resolved, List.map_cons, List.cons_append] at start
          have first : Judged (finds (fieldUse step field)) _
              (judge.isVisible clock field.visibleWhen
                ⟨fieldElement step field.name, data, facts⟩) := h.isVisible start
          have others := ih first.after
          simp only [Visibility.fieldVerdicts, resolved]
          refine ⟨?_, others.after⟩
          rw [others.answer, first.answer]
          cases later.mapM schema.resolve <;> rfl

/-- All elements of a form are found as expected, unless a reference leads nowhere. Witness:
induction on the steps.
-/
theorem Answers.elementVerdicts (h : Answers clock data facts ready finds) {steps : List Step}
    (start : ready (elementUses schema steps ++ rest) judge)
    : Judged ((steps.mapM (foundElements finds schema)).map List.flatten) (ready rest)
        (judge.elementVerdicts clock schema data facts steps) := by
  induction steps generalizing judge with
  | nil => exact ⟨rfl, start⟩
  | cons step later ih =>
      simp only [elementUses, List.cons_append, List.append_assoc] at start
      have own : Judged (finds (stepUse step)) _
          (judge.isVisible clock step.visibleWhen ⟨step.id, data, facts⟩) := h.isVisible start
      have fields := h.fieldVerdicts own.after
      rw [List.mapM_cons, foundElements]
      simp only [Visibility.elementVerdicts]
      revert own fields
      rcases judge.isVisible clock step.visibleWhen ⟨step.id, data, facts⟩ with ⟨shown, next⟩
      intro own fields
      revert fields
      rcases next.fieldVerdicts clock schema step.id data facts step.fields with ⟨verdicts, last⟩
      rintro ⟨rfl, after⟩
      obtain rfl := own.answer
      cases resolved : step.fields.mapM schema.resolve with
      | error error =>
          simp only [resolved, Except.isOk, Except.toBool, Bool.false_eq_true, if_false,
            List.nil_append] at after
          exact ⟨rfl, after⟩
      | ok fields =>
          simp only [resolved, Except.isOk, Except.toBool, if_true] at after
          have others := ih after
          refine ⟨?_, others.after⟩
          simp only [Except.map, others.answer]
          cases later.mapM (foundElements finds schema) <;>
            simp [bind, Except.bind, pure, Except.pure]

-----------------------------------------------------------------------------------------
-- Verdicts on a whole form
-----------------------------------------------------------------------------------------

theorem Answers.visibleSteps (h : Answers clock data facts ready finds)
    (start : ready (schema.steps.map stepUse ++ rest) judge)
    : Judged (shownSteps finds schema) (ready rest)
        (judge.visibleSteps clock schema data facts) := by
  rw [shownSteps, ← shown_map]
  exact (h.stepVerdicts start).map shown

theorem Answers.visibleFields (h : Answers clock data facts ready finds) {step : String}
    (start
      : ready
          ((schema.step? step).elim [] (fun found => fieldUses schema step found.fields) ++ rest)
          judge)
    : Judged (shownFields finds schema step) (ready rest)
        (judge.visibleFields clock schema step data facts) := by
  unfold shownFields Visibility.visibleFields
  cases declared : schema.step? step with
  | none =>
      rw [declared] at start
      exact ⟨rfl, start⟩
  | some found =>
      rw [declared] at start
      have verdicts := (h.fieldVerdicts start).map (Except.map shown)
      refine ⟨verdicts.answer.trans ?_, verdicts.after⟩
      dsimp only
      cases found.fields.mapM schema.resolve with
      | error error => rfl
      | ok fields => exact congrArg Except.ok (shown_map _ _ fields)

theorem Answers.elements (h : Answers clock data facts ready finds)
    (start : ready (elementUses schema schema.steps ++ rest) judge)
    : Judged
        ((schema.steps.mapM (foundElements finds schema)).map
          fun elements => Table.ofEntries elements.flatten)
        (ready rest) (judge.elements clock schema data facts) := by
  have verdicts := (h.elementVerdicts start).map (Except.map Table.ofEntries)
  refine ⟨verdicts.answer.trans ?_, verdicts.after⟩
  cases schema.steps.mapM (foundElements finds schema) <;> rfl

end FormWizard.Visibility
