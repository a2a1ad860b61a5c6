import FormWizard.Schema.Check
import Mathlib.Data.List.Nodup

/-! What a sound schema can be relied on for: every step is the one that is found by its id, and
every entry of a step stands for a field.
-/

namespace FormWizard.Schema

variable {schema : Schema}

/-- Steps without issues bear different new ids and refer to definitions only. Witness: induction on
the steps; the id of each is seen by those behind it.
-/
theorem of_stepIssues_eq_nil {seen : List String} {steps : List Step}
    (h : stepIssues schema seen steps = [])
    : (steps.map Step.id).Nodup
      ∧ (∀ step ∈ steps, step.id ∉ seen)
      ∧ ∀ step ∈ steps, fieldIssues schema step = [] := by
  induction steps generalizing seen with
  | nil => simp
  | cons step rest ih =>
      simp only [stepIssues, List.append_eq_nil_iff] at h
      obtain ⟨⟨first, fields⟩, later⟩ := h
      obtain ⟨nodup, fresh, others⟩ := ih later
      have unseen : step.id ∉ seen := fun member => by simp [member] at first
      have behind : step.id ∉ rest.map Step.id := by
        rintro member
        obtain ⟨other, member, same⟩ := List.mem_map.mp member
        exact fresh other member (same ▸ List.mem_cons_self)
      refine ⟨List.nodup_cons.mpr ⟨behind, nodup⟩, ?_, ?_⟩
      · rw [List.forall_mem_cons]
        exact ⟨unseen, fun other member seen => fresh other member (List.mem_cons_of_mem _ seen)⟩
      · exact List.forall_mem_cons.mpr ⟨fields, others⟩

theorem stepIssues_of_isSound (sound : schema.isSound = true)
    : stepIssues schema [] schema.steps = [] := by
  simp only [isSound, issues, List.isEmpty_iff, List.append_eq_nil_iff] at sound
  exact sound.1.1.1.1.1

theorem nodup_stepIds (sound : schema.isSound = true) : schema.stepIds.Nodup :=
  (of_stepIssues_eq_nil (stepIssues_of_isSound sound)).1

/-- Where no two steps have the same id, each step is found by its id. -/
theorem step?_of_nodup (nodup : schema.stepIds.Nodup) {step : Step} (member : step ∈ schema.steps)
    : schema.step? step.id = some step := by
  have isIt : (schema.steps.find? (·.id = step.id)).isSome :=
    List.find?_isSome.mpr ⟨step, member, by simp⟩
  obtain ⟨other, found⟩ := Option.isSome_iff_exists.mp isIt
  have same : other.id = step.id := by simpa using List.find?_some found
  have unique := List.inj_on_of_nodup_map nodup (List.mem_of_find?_eq_some found) member same
  rw [step?, found, unique]

/-- A step of a sound schema is found by its id. -/
theorem step?_of_mem (sound : schema.isSound = true) {step : Step} (member : step ∈ schema.steps)
    : schema.step? step.id = some step :=
  step?_of_nodup (nodup_stepIds sound) member

/-- Every entry of a step of a sound schema stands for a field. -/
theorem resolve_isOk (sound : schema.isSound = true) {step : Step} (member : step ∈ schema.steps)
    : ∀ entry ∈ step.fields, ∃ field, schema.resolve entry = .ok field := by
  intro entry listed
  have none :=
    (of_stepIssues_eq_nil (stepIssues_of_isSound sound)).2.2 step member
  have resolved := List.filterMap_eq_nil_iff.mp none entry listed
  cases found : schema.resolve entry with
  | ok field => exact ⟨field, rfl⟩
  | error cause => simp [found] at resolved

/-- The fields that the entries of a step stand for. -/
def fieldsOf (schema : Schema) (step : Step) : List FieldSpec :=
  step.fields.filterMap fun entry => (schema.resolve entry).toOption

theorem mapM_resolve_of_isOk {entries : List FieldEntry}
    (resolved : ∀ entry ∈ entries, ∃ field, schema.resolve entry = .ok field)
    : entries.mapM schema.resolve
      = .ok (entries.filterMap fun entry => (schema.resolve entry).toOption) := by
  induction entries with
  | nil => rfl
  | cons entry rest ih =>
      rw [List.forall_mem_cons] at resolved
      obtain ⟨⟨field, found⟩, others⟩ := resolved
      rw [List.mapM_cons, found, ih others, List.filterMap_cons, found]
      rfl

/-- All entries of a step of a sound schema are resolved. -/
theorem mapM_resolve (sound : schema.isSound = true) {step : Step} (member : step ∈ schema.steps)
    : step.fields.mapM schema.resolve = .ok (schema.fieldsOf step) :=
  mapM_resolve_of_isOk (resolve_isOk sound member)

end FormWizard.Schema
