import FormWizard.Proofs.Visibility.Verdicts

/-! What a pass over the elements of a form leaves of the judge, and where it ends. A pass keeps
whatever each single verdict keeps, and which references lead somewhere is no matter of the judge.
-/

namespace FormWizard.Visibility

open Calendar (Instant)
open Schema (FieldEntry FieldSpec Step UnresolvedReference)

-----------------------------------------------------------------------------------------
-- Where a pass ends
-----------------------------------------------------------------------------------------

section Ends

variable (clock : Instant) (data : Json) (facts : Facts) (schema : Schema)

/-- The fields that are judged are those that the entries stand for, unless a reference leads
nowhere. Witness: induction on the entries.
-/
theorem names_fieldVerdicts (step : String) (entries : List FieldEntry) (judge : Visibility)
    : (judge.fieldVerdicts clock schema step data facts entries).1.map (List.map Prod.fst)
      = (entries.mapM schema.resolve).map (List.map FieldSpec.name) := by
  induction entries generalizing judge with
  | nil => rfl
  | cons entry rest ih =>
      rw [List.mapM_cons, fieldVerdicts]
      cases schema.resolve entry with
      | error cause => rfl
      | ok field =>
          have later := ih (judge.isVisible clock field.visibleWhen
            ⟨fieldElement step field.name, data, facts⟩).2
          dsimp only
          revert later
          cases (fieldVerdicts clock schema step data facts rest _).1 <;>
            cases rest.mapM schema.resolve <;>
              simp_all [Except.map, bind, Except.bind, pure, Except.pure]

/-- Judging the fields of a step fails as resolving its entries does. -/
theorem fieldVerdicts_error_iff (step : String) (entries : List FieldEntry) (judge : Visibility)
    (cause : UnresolvedReference)
    : (judge.fieldVerdicts clock schema step data facts entries).1 = .error cause
      ↔ entries.mapM schema.resolve = .error cause := by
  have names := names_fieldVerdicts clock data facts schema step entries judge
  revert names
  cases (judge.fieldVerdicts clock schema step data facts entries).1 <;>
    cases entries.mapM schema.resolve <;> simp +contextual [Except.map]

/-- Judging all elements fails as resolving the entries of the steps does, from the first step to
the last. Witness: induction on the steps.
-/
theorem elementVerdicts_error_iff (steps : List Step) (judge : Visibility)
    (cause : UnresolvedReference)
    : (judge.elementVerdicts clock schema data facts steps).1 = .error cause
      ↔ steps.mapM (fun step => step.fields.mapM schema.resolve) = .error cause := by
  induction steps generalizing judge with
  | nil => simp [elementVerdicts, pure, Except.pure]
  | cons step rest ih =>
      have own := fieldVerdicts_error_iff clock data facts schema step.id step.fields
        (judge.isVisible clock step.visibleWhen ⟨step.id, data, facts⟩).2
      rw [List.mapM_cons, elementVerdicts]
      dsimp only
      revert own
      rcases fieldVerdicts clock schema step.id data facts step.fields _ with ⟨verdicts, next⟩
      intro own
      cases verdicts with
      | error error => simp [(own error).mp rfl, bind, Except.bind]
      | ok fields =>
          cases resolved : step.fields.mapM schema.resolve with
          | error error => cases (own error).mpr resolved
          | ok specs =>
              have later := ih next
              dsimp only
              revert later
              cases (elementVerdicts clock schema data facts rest next).1 <;>
                cases rest.mapM fun step => step.fields.mapM schema.resolve <;>
                  simp_all [Except.map, bind, Except.bind, pure, Except.pure]

end Ends

-----------------------------------------------------------------------------------------
-- What a pass keeps
-----------------------------------------------------------------------------------------

variable {clock : Instant} {data : Json} {facts : Facts} {schema : Schema} {judge : Visibility}

/-- Judging any of the elements keeps what holds of the judge. -/
def Keeps (clock : Instant) (data : Json) (facts : Facts) (holds : Visibility → Prop)
    (uses : List Use)
    : Prop :=
  ∀ use ∈ uses, ∀ judge, holds judge →
    holds (judge.isVisible clock use.2 ⟨use.1, data, facts⟩).2

variable {holds : Visibility → Prop}

theorem Keeps.mono {uses more : List Use} (h : Keeps clock data facts holds more)
    (sub : uses ⊆ more)
    : Keeps clock data facts holds uses :=
  fun use member => h use (sub member)

theorem Keeps.stepVerdicts {steps : List Step}
    (h : Keeps clock data facts holds (steps.map stepUse)) (start : holds judge)
    : holds (judge.stepVerdicts clock data facts steps).2 := by
  induction steps generalizing judge with
  | nil => exact start
  | cons step rest ih =>
      simp only [Visibility.stepVerdicts]
      exact ih (h.mono (List.subset_cons_self ..)) (h (stepUse step) List.mem_cons_self judge start)

theorem Keeps.fieldVerdicts {step : String} {entries : List FieldEntry}
    (h : Keeps clock data facts holds (fieldUses schema step entries)) (start : holds judge)
    : holds (judge.fieldVerdicts clock schema step data facts entries).2 := by
  induction entries generalizing judge with
  | nil => exact start
  | cons entry rest ih =>
      simp only [Visibility.fieldVerdicts]
      cases resolved : schema.resolve entry with
      | error error => exact start
      | ok field =>
          simp only [fieldUses, resolvable, resolved, List.map_cons] at h
          exact ih (h.mono (List.subset_cons_self ..))
            (h (fieldUse step field) List.mem_cons_self judge start)

/-- All elements of a form may be judged, up to the first reference that leads nowhere. Witness:
induction on the steps; those behind a step are judged only if all of its fields are.
-/
theorem Keeps.elementVerdicts {steps : List Step}
    (h : Keeps clock data facts holds (elementUses schema steps)) (start : holds judge)
    : holds (judge.elementVerdicts clock schema data facts steps).2 := by
  induction steps generalizing judge with
  | nil => exact start
  | cons step rest ih =>
      rw [elementUses] at h
      have own : holds (judge.isVisible clock step.visibleWhen ⟨step.id, data, facts⟩).2 :=
        h (stepUse step) (by simp) judge start
      have ofFields : Keeps clock data facts holds (fieldUses schema step.id step.fields) :=
        h.mono (List.subset_append_of_subset_left _ (List.subset_cons_self ..))
      have fields := ofFields.fieldVerdicts own
      have ends := fieldVerdicts_error_iff clock data facts schema step.id step.fields
        (judge.isVisible clock step.visibleWhen ⟨step.id, data, facts⟩).2
      simp only [Visibility.elementVerdicts]
      revert fields ends
      rcases Visibility.fieldVerdicts clock schema step.id data facts step.fields _ with
        ⟨verdicts, next⟩
      intro fields ends
      cases verdicts with
      | error error => exact fields
      | ok verdicts =>
          refine ih (h.mono ?_) fields
          have resolved : (step.fields.mapM schema.resolve).isOk = true := by
            cases found : step.fields.mapM schema.resolve with
            | error cause => cases (ends cause).mpr found
            | ok specs => rfl
          rw [if_pos resolved]
          exact List.subset_append_right ..

end FormWizard.Visibility
