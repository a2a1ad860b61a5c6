import FormWizard.Proofs.Rule.Rereading
import FormWizard.Schema.Codec

/-! Schemas that were read are read again from what they are written as. What is left out has its
default, and what was read under another name, by its place in an array, or besides parts that were
passed over is written under its own name.
-/

namespace FormWizard

open Json (Document)

-----------------------------------------------------------------------------------------
-- Computed fields
-----------------------------------------------------------------------------------------

namespace Computed.Field

/-- The parts of the object that a computed field is written as. -/
def parts (field : Field) : List (String × Option Json) :=
  [("path", some (.string field.path)), ("expr", some (.string field.expr)),
    ("depends_on", some (.array (field.dependsOn.map .string))),
    ("round", field.round.map .ofInt), ("fallback", field.fallback),
    ("cache", field.cache.map .bool)]

theorem toJson_eq (field : Field) : field.toJson = .ofMembers (Document.present field.parts) := by
  rcases field with ⟨_, _, _, _ | _, _ | _, _ | _⟩ <;> rfl

theorem distinct_parts (field : Field) : (field.parts.map Prod.fst).Nodup := by
  simp [parts]

theorem roundTrips : Document.RoundTrips toJson ofDocument? := by
  intro document field read
  simp only [ofDocument?, Option.bind_eq_bind, Option.bind_eq_some_iff, Option.pure_def,
    Option.some.injEq] at read
  obtain ⟨members, -, path, -, expr, -, dependsOn, -, round, readRound, fallback, readFallback,
    cache, readCache, rfl⟩ := read
  have distinct := distinct_parts ⟨path, expr, dependsOn, round, fallback, cache⟩
  have whole := Document.roundTrips_int (-(Nat.pow 2 31)) (Nat.pow 2 31 - 1)
  have value := Document.roundTrips_value
  have shown {document : Document} {value : Json} (read : Document.toJson? document = some value)
      (hidden : id value = .null) : document = .null :=
    Document.eq_null_of_toJson? (hidden ▸ read)
  have flags := Document.roundTrips_bool
  have paths : Document.list? Document.string? (.ofJson (.array (dependsOn.map .string)))
      = some dependsOn :=
    Document.mapM_restores fun _ _ => rfl
  rw [toJson_eq, ofDocument?, Document.members?_present]
  simp only [Option.bind_eq_bind, Option.bind_some]
  -- Each `rfl` finds the part under the names.
  rw [Document.required?_written distinct ["path"] (.string path) rfl,
    Document.required?_written distinct ["expr"] (.string expr) rfl,
    Document.defaulted?_written distinct ["depends_on", "dependsOn"]
      (.array (dependsOn.map .string)) rfl,
    paths, whole.optional?_written distinct (whole.visible rfl) readRound rfl,
    value.optional?_written distinct shown readFallback (by rw [Option.map_id]; rfl),
    flags.optional?_written distinct (flags.visible rfl) readCache rfl]
  rfl

end Computed.Field

namespace Schema

-----------------------------------------------------------------------------------------
-- Fields and their entries
-----------------------------------------------------------------------------------------

namespace FieldSpec

/-- The parts of the object that a field is written as. -/
def parts (field : FieldSpec) : List (String × Option Json) :=
  [("name", some (.string field.name)), ("required", some (.bool field.required)),
    ("label", field.label.map .string), ("type", field.kind.map .string),
    ("visible_when", field.visibleWhen.map Rule.toJson)]

theorem toJson_eq (field : FieldSpec)
    : field.toJson = .ofMembers (Document.present field.parts) := by
  rcases field with ⟨_, _ | _, _ | _, _, _ | _⟩ <;> rfl

theorem distinct_parts (field : FieldSpec) : (field.parts.map Prod.fst).Nodup := by
  simp [parts]

theorem roundTrips : Document.RoundTrips toJson ofDocument? := by
  intro document field read
  simp only [ofDocument?, Option.bind_eq_bind, Option.bind_eq_some_iff, Option.pure_def,
    Option.some.injEq] at read
  obtain ⟨members, -, name, -, label, readLabel, kind, readKind, required, -, visibleWhen, readRule,
    rfl⟩ := read
  have distinct := distinct_parts ⟨name, label, kind, required, visibleWhen⟩
  have strings := Document.roundTrips_string
  rw [toJson_eq, ofDocument?, Document.members?_present]
  simp only [Option.bind_eq_bind, Option.bind_some]
  rw [Document.required?_written distinct ["name"] (.string name) rfl,
    strings.optional?_written distinct (strings.visible rfl) readLabel rfl,
    strings.optional?_written distinct (strings.visible rfl) readKind rfl,
    Document.defaulted?_written distinct ["required"] (.bool required) rfl,
    Rule.roundTrips.optional?_written distinct (Rule.roundTrips.visible rfl) readRule rfl]
  rfl

end FieldSpec

namespace FieldEntry

/-- A field is not taken for a reference. -/
theorem reference?_toJson (field : FieldSpec) : reference? (.ofJson field.toJson) = none := by
  rw [FieldSpec.toJson_eq, reference?, Document.members?_present]
  simp only [Option.bind_eq_bind, Option.bind_some]
  rw [Document.required?, Document.field?_written field.distinct_parts ["$ref"] none rfl]
  rfl

theorem roundTrips : Document.RoundTrips toJson ofDocument? := by
  intro document entry read
  have readable (value : Json) : guard (Document.ofJson value).isReadable = some () := by
    rw [Document.isReadable_ofJson]
    rfl
  simp only [ofDocument?, Option.bind_eq_bind, Option.bind_eq_some_iff] at read
  obtain ⟨_, -, read⟩ := read
  rw [ofDocument?, readable]
  split at read
  · cases read
    rfl
  · simp only [Option.bind_eq_some_iff, Option.pure_def, Option.some.injEq] at read
    obtain ⟨field, readField, rfl⟩ := read
    simp only [toJson, reference?_toJson, FieldSpec.roundTrips readField, Option.bind_eq_bind,
      Option.bind_some, Option.pure_def]

end FieldEntry

-----------------------------------------------------------------------------------------
-- Steps and transitions
-----------------------------------------------------------------------------------------

/-- The items of a list are written unless there are none. -/
theorem listMember_eq (name : String) (items : List Json)
    : listMember name items = member? name (Document.listPart items) := by
  cases items <;> rfl

/-- The members that the parts of an object have, one after the other. -/
theorem present_cons (name : String) (value : Option Json) (rest : List (String × Option Json))
    : Document.present ((name, value) :: rest) = member? name value ++ Document.present rest :=
  Document.present_cons (name, value) rest

namespace Step

/-- The parts of the object that a step is written as. -/
def parts (step : Step) : List (String × Option Json) :=
  [("id", some (.string step.id)), ("title", step.title.map .string),
    ("visible_when", step.visibleWhen.map Rule.toJson),
    ("fields", Document.listPart (step.fields.map FieldEntry.toJson))]

theorem toJson_eq (step : Step) : step.toJson = .ofMembers (Document.present step.parts) := by
  simp only [toJson, parts, present_cons, listMember_eq, List.append_assoc]
  simp [Document.present, member?]

theorem distinct_parts (step : Step) : (step.parts.map Prod.fst).Nodup := by
  simp [parts]

theorem roundTrips : Document.RoundTrips toJson ofDocument? := by
  intro document step read
  simp only [ofDocument?, Option.bind_eq_bind, Option.bind_eq_some_iff, Option.pure_def,
    Option.some.injEq] at read
  obtain ⟨members, -, id, -, title, readTitle, visibleWhen, readRule, fields, readFields, rfl⟩ :=
    read
  have distinct := distinct_parts ⟨id, title, visibleWhen, fields⟩
  have strings := Document.roundTrips_string
  rw [toJson_eq, ofDocument?, Document.members?_present]
  simp only [Option.bind_eq_bind, Option.bind_some]
  rw [Document.required?_written distinct ["id"] (.string id) rfl,
    strings.optional?_written distinct (strings.visible rfl) readTitle rfl,
    Rule.roundTrips.optional?_written distinct (Rule.roundTrips.visible rfl) readRule rfl,
    FieldEntry.roundTrips.defaulted?_listPart distinct readFields rfl]
  rfl

end Step

namespace Transition

/-- The parts of the object that a transition is written as. -/
def parts (transition : Transition) : List (String × Option Json) :=
  [("from", some (.string transition.source)), ("to", some (.string transition.target)),
    ("default", some (.bool transition.isDefault)),
    ("allow_cycle", some (.bool transition.allowCycle)),
    ("when", transition.condition.map Rule.toJson), ("guard", transition.guard.map .string)]

theorem toJson_eq (transition : Transition)
    : transition.toJson = .ofMembers (Document.present transition.parts) := by
  rcases transition with ⟨_, _, _ | _, _ | _, _, _⟩ <;> rfl

theorem distinct_parts (transition : Transition) : (transition.parts.map Prod.fst).Nodup := by
  simp [parts]

theorem roundTrips : Document.RoundTrips toJson ofDocument? := by
  intro document transition read
  simp only [ofDocument?, Option.bind_eq_bind, Option.bind_eq_some_iff, Option.pure_def,
    Option.some.injEq] at read
  obtain ⟨members, -, source, -, target, -, condition, readRule, guard, readGuard, isDefault, -,
    allowCycle, -, rfl⟩ := read
  have distinct := distinct_parts ⟨source, target, condition, guard, isDefault, allowCycle⟩
  have strings := Document.roundTrips_string
  rw [toJson_eq, ofDocument?, Document.members?_present]
  simp only [Option.bind_eq_bind, Option.bind_some]
  rw [Document.required?_written distinct ["from"] (.string source) rfl,
    Document.required?_written distinct ["to"] (.string target) rfl,
    Rule.roundTrips.optional?_written distinct (Rule.roundTrips.visible rfl) readRule rfl,
    strings.optional?_written distinct (strings.visible rfl) readGuard rfl,
    Document.defaulted?_written distinct ["default"] (.bool isDefault) rfl,
    Document.defaulted?_written distinct ["allow_cycle", "allowCycle"] (.bool allowCycle) rfl]
  rfl

end Transition

-----------------------------------------------------------------------------------------
-- Schemas
-----------------------------------------------------------------------------------------

/-- The definitions as they are written. -/
def definitionsToJson (definitions : Table FieldSpec) : Json :=
  .ofMembers (definitions.map fun entry => (entry.1, entry.2.toJson))

/-- The parts of the object that a schema is written as. -/
def parts (schema : Schema) : List (String × Option Json) :=
  [("id", some (.string schema.id)), ("steps", some (.array (schema.steps.map Step.toJson))),
    ("title", schema.title.map .string), ("version", schema.version.map .string),
    ("transitions", Document.listPart (schema.transitions.map Transition.toJson)),
    ("computed", Document.listPart (schema.computed.map Computed.Field.toJson)),
    ("definitions",
      if schema.definitions.isEmpty then none else some (definitionsToJson schema.definitions)),
    ("review_step", schema.reviewStep.map .string)]

theorem toJson_eq (schema : Schema)
    : schema.toJson = .ofMembers (Document.present schema.parts) := by
  have definitions : (if schema.definitions.isEmpty then []
        else [("definitions", definitionsToJson schema.definitions)])
      = member? "definitions" (if schema.definitions.isEmpty then none
        else some (definitionsToJson schema.definitions)) := by
    split <;> rfl
  simp only [toJson, parts, present_cons, listMember_eq, List.append_assoc, ← definitions]
  simp [Document.present, member?, definitionsToJson]

theorem distinct_parts (schema : Schema) : (schema.parts.map Prod.fst).Nodup := by
  simp [parts]

/-- Schemas that were read are read again from what they are written as. -/
theorem roundTrips : Document.RoundTrips toJson ofDocument? := by
  intro document schema read
  simp only [ofDocument?, Option.bind_eq_bind, Option.bind_eq_some_iff, Option.pure_def,
    Option.some.injEq] at read
  obtain ⟨members, -, id, -, title, readTitle, version, readVersion, steps, readSteps, transitions,
    readTransitions, computed, readComputed, definitions, readDefinitions, reviewStep, readReview,
    rfl⟩ := read
  have distinct :=
    distinct_parts ⟨id, title, version, steps, transitions, computed, definitions, reviewStep⟩
  have strings := Document.roundTrips_string
  have table := FieldSpec.roundTrips.table
  obtain ⟨_, listed⟩ := Document.exists_of_required? readSteps
  rw [toJson_eq, ofDocument?, Document.members?_present]
  simp only [Option.bind_eq_bind, Option.bind_some]
  rw [Document.required?_written distinct ["id"] (.string id) rfl,
    strings.optional?_written distinct (strings.visible rfl) readTitle rfl,
    strings.optional?_written distinct (strings.visible rfl) readVersion rfl,
    Document.required?_written distinct ["steps"] (.array (steps.map Step.toJson)) rfl,
    Step.roundTrips.list listed,
    Transition.roundTrips.defaulted?_listPart distinct readTransitions rfl,
    Computed.Field.roundTrips.defaulted?_listPart distinct readComputed rfl,
    table.defaulted?_written distinct rfl readDefinitions (by simp) rfl,
    strings.optional?_written distinct (strings.visible rfl) readReview rfl]
  rfl

/-- What was read, a schema or a rule, is read again from what it is written as. Writing what was
read thus gives a value that stays the same when it is read and written once more. The tree of every
value is a document, and so is that of every text.
-/
theorem codec_round_trips
    : (∀ {document : Document} {schema : Schema}, ofDocument? document = some schema →
        ofDocument? (.ofJson schema.toJson) = some schema)
      ∧ (∀ {document : Document} {rule : Rule}, Rule.ofDocument? document = some rule →
        Rule.ofDocument? (.ofJson rule.toJson) = some rule)
      ∧ (∀ {document : Document} {value : Json}, (ofDocument? document).map toJson = some value →
        (ofDocument? (.ofJson value)).map toJson = some value)
      ∧ (∀ {document : Document} {value : Json},
        (Rule.ofDocument? document).map Rule.toJson = some value →
          (Rule.ofDocument? (.ofJson value)).map Rule.toJson = some value) :=
  ⟨fun read => roundTrips read, fun read => Rule.roundTrips read, roundTrips.idempotent,
    Rule.roundTrips.idempotent⟩

/-- A rule with an operator in an object, missing and null parts, and a rule given by places. -/
def looseRule : Json :=
  .ofMembers [("type", .string "logical"), ("note", .string "passed over"), ("op", .string "and"),
    ("args", .array [
      .ofMembers [("type", .string "comparison"), ("op", .ofMembers [("gte", .null)]),
        ("left", .string "$.total"), ("right", .ofInt 100)],
      .ofMembers [("type", .string "custom"), ("fn", .string "trusted"), ("args", .array [])],
      .ofMembers [("type", .string "always"), ("value", .null)],
      .array [.string "logical", .string "not"]])]

/-- A form with other names for some fields, null for others, and parts that are passed over. -/
def looseForm : Json :=
  .ofMembers [("id", .string "order"), ("title", .null), ("author", .string "passed over"),
    ("reviewStep", .string "done"),
    ("steps", .array [
      .ofMembers [("id", .string "cart"), ("visible_when", .null), ("fieldSchema", .array [
        .ofMembers [("$ref", .string "#/definitions/email"), ("name", .string "passed over")],
        .ofMembers [("name", .string "total"), ("type", .null), ("visibleWhen", looseRule)],
        .array [.string "coupon", .string "Coupon"]])],
      .array [.string "done"]]),
    ("transitions", .array [
      .ofMembers [("from", .string "cart"), ("to", .string "done"), ("when", looseRule),
        ("allowCycle", .bool true)]]),
    ("computed", .array [
      .ofMembers [("path", .string "$.total"), ("expr", .string "a"), ("fallback", .null),
        ("dependsOn", .array [.string "$.a"])]]),
    ("definitions", .ofMembers [("email", .ofMembers [("name", .string "email")])])]

/-- The rule that is meant. -/
def meantRule : Rule :=
  .logical .all [.compare .gte (.string "$.total") (.ofInt 100), .custom "trusted" [],
    .always none, .logical .negation []]

/-- The form that is meant. -/
def meantForm : Schema where
  id := "order"
  steps := [
    { id := "cart",
      fields := [.ref "#/definitions/email", .inline { name := "total", visibleWhen := meantRule },
        .inline { name := "coupon", label := "Coupon" }] },
    { id := "done" }]
  transitions := [
    { source := "cart", target := "done", condition := meantRule, allowCycle := true }]
  computed := [{ path := "$.total", expr := "a", dependsOn := ["$.a"] }]
  definitions := [("email", { name := "email" })]
  reviewStep := "done"

theorem codec_round_trips_loosely
    : ofDocument? (.ofJson looseForm) = some meantForm
      ∧ ofDocument? (.ofJson meantForm.toJson) = some meantForm
      ∧ Rule.ofDocument? (.ofJson looseRule) = some meantRule
      ∧ Rule.ofDocument? (.ofJson meantRule.toJson) = some meantRule
      ∧ meantForm.toJson ≠ looseForm
      ∧ (ofDocument? (.ofJson meantForm.toJson)).map toJson = some meantForm.toJson
      ∧ (Rule.ofDocument? (.ofJson meantRule.toJson)).map Rule.toJson = some meantRule.toJson := by
  have readForm : ofDocument? (.ofJson looseForm) = some meantForm := by decide +kernel
  have readRule : Rule.ofDocument? (.ofJson looseRule) = some meantRule := by decide +kernel
  obtain ⟨schemas, rules, forms, ruleForms⟩ := codec_round_trips
  exact ⟨readForm, schemas readForm, readRule, rules readRule, by decide +kernel,
    forms (congrArg (Option.map toJson) readForm),
    ruleForms (congrArg (Option.map Rule.toJson) readRule)⟩

end Schema

end FormWizard
