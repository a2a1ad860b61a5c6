import FormWizard.Proofs.Rule.Keys
import FormWizard.Schema.Codec

/-! The rules of a schema that was read were read with it. -/

namespace FormWizard.Schema

open Json (Document)

-----------------------------------------------------------------------------------------
-- The parts of a schema
-----------------------------------------------------------------------------------------

/-- The rule of the field was read or put together by the constructors of rules. -/
def FieldSpec.IsBuilt (field : FieldSpec) : Prop :=
  ∀ rule ∈ field.visibleWhen, rule.IsBuilt

/-- So were the rule of the step and those of the fields that are given in place. -/
structure Step.IsBuilt (step : Step) : Prop where
  visibleWhen : ∀ rule ∈ step.visibleWhen, rule.IsBuilt
  fields : ∀ field, .inline field ∈ step.fields → field.IsBuilt

/-- The condition of the transition was read or put together by the constructors of rules. -/
def Transition.IsBuilt (transition : Transition) : Prop :=
  ∀ rule ∈ transition.condition, rule.IsBuilt

theorem isBuilt_of_optional? {names : List String} {members : Document.Members}
    {rule? : Option Rule}
    (read : Document.optional? names Rule.ofDocument? members = some rule?)
    : ∀ rule ∈ rule?, rule.IsBuilt := by
  rintro rule rfl
  obtain ⟨document, -, found⟩ := Document.exists_of_optional? read
  exact .read found

theorem FieldSpec.isBuilt_of_read {document : Document} {field : FieldSpec}
    (read : ofDocument? document = some field)
    : field.IsBuilt := by
  simp only [ofDocument?, Option.bind_eq_bind, Option.bind_eq_some_iff, Option.pure_def,
    Option.some.injEq] at read
  obtain ⟨_, -, _, -, _, -, _, -, _, -, _, readRule, rfl⟩ := read
  exact isBuilt_of_optional? readRule

theorem FieldEntry.isBuilt_of_read {document : Document} {field : FieldSpec}
    (read : ofDocument? document = some (.inline field))
    : field.IsBuilt := by
  simp only [ofDocument?, Option.bind_eq_bind, Option.bind_eq_some_iff] at read
  obtain ⟨_, -, read⟩ := read
  split at read
  · cases read
  · simp only [Option.bind_eq_some_iff, Option.pure_def, Option.some.injEq, inline.injEq] at read
    obtain ⟨_, readField, rfl⟩ := read
    exact FieldSpec.isBuilt_of_read readField

theorem Step.isBuilt_of_read {document : Document} {step : Step}
    (read : ofDocument? document = some step)
    : step.IsBuilt := by
  simp only [ofDocument?, Option.bind_eq_bind, Option.bind_eq_some_iff, Option.pure_def,
    Option.some.injEq] at read
  obtain ⟨_, -, _, -, _, -, _, readRule, fields, readFields, rfl⟩ := read
  refine ⟨isBuilt_of_optional? readRule, fun field listed => ?_⟩
  obtain rfl | ⟨list, readList⟩ := Document.exists_of_defaulted? readFields
  · cases listed
  · obtain ⟨_, found⟩ := Document.exists_of_list? readList _ listed
    exact FieldEntry.isBuilt_of_read found

theorem Transition.isBuilt_of_read {document : Document} {transition : Transition}
    (read : ofDocument? document = some transition)
    : transition.IsBuilt := by
  simp only [ofDocument?, Option.bind_eq_bind, Option.bind_eq_some_iff, Option.pure_def,
    Option.some.injEq] at read
  obtain ⟨_, -, _, -, _, -, _, readRule, _, -, _, -, _, -, rfl⟩ := read
  exact isBuilt_of_optional? readRule

-----------------------------------------------------------------------------------------
-- Schemas
-----------------------------------------------------------------------------------------

/-- All rules of the schema were read or put together by the constructors of rules. -/
structure IsBuilt (schema : Schema) : Prop where
  steps : ∀ step ∈ schema.steps, step.IsBuilt
  transitions : ∀ transition ∈ schema.transitions, transition.IsBuilt
  definitions : ∀ entry ∈ schema.definitions, entry.2.IsBuilt

theorem isBuilt_of_read {document : Document} {schema : Schema}
    (read : ofDocument? document = some schema)
    : schema.IsBuilt := by
  simp only [ofDocument?, Option.bind_eq_bind, Option.bind_eq_some_iff, Option.pure_def,
    Option.some.injEq] at read
  obtain ⟨_, -, _, -, _, -, _, -, steps, readSteps, transitions, readTransitions, _, -, definitions,
    readDefinitions, _, -, rfl⟩ := read
  constructor
  · obtain ⟨list, readList⟩ := Document.exists_of_required? readSteps
    intro step listed
    obtain ⟨_, found⟩ := Document.exists_of_list? readList _ listed
    exact Step.isBuilt_of_read found
  · intro transition listed
    obtain rfl | ⟨list, readList⟩ := Document.exists_of_defaulted? readTransitions
    · cases listed
    · obtain ⟨_, found⟩ := Document.exists_of_list? readList _ listed
      exact Transition.isBuilt_of_read found
  · intro entry listed
    obtain rfl | ⟨table, readTable⟩ := Document.exists_of_defaulted? readDefinitions
    · cases listed
    · obtain ⟨_, found⟩ := Document.exists_of_table? readTable _ listed
      exact FieldSpec.isBuilt_of_read found

/-- A field that an entry of a step stands for is given in place or is a definition. -/
theorem IsBuilt.resolve {schema : Schema} (h : schema.IsBuilt) {step : Step}
    (member : step ∈ schema.steps) {entry : FieldEntry} (listed : entry ∈ step.fields)
    {field : FieldSpec} (found : schema.resolve entry = .ok field)
    : field.IsBuilt := by
  cases entry with
  | inline own =>
      cases found
      exact (h.steps step member).fields field listed
  | ref reference =>
      rw [Schema.resolve] at found
      split at found
      · rename_i defined
        cases found
        obtain ⟨name, -, defined⟩ := Option.bind_eq_some_iff.mp defined
        exact h.definitions _ (Table.mem_of_find? defined)
      · cases found

end FormWizard.Schema
