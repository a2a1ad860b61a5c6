import FormWizard.Rule.Codec
import FormWizard.Schema.Basic

/-! Form schemas as JSON. Writing leaves out what a schema does not say; reading takes null for
that, and knows some fields under two names.
-/

namespace FormWizard.Schema

open Json (Document)

/-- A member, unless it has no value. -/
def member? (name : String) (value : Option Json) : List (String × Json) :=
  value.elim [] fun value => [(name, value)]

/-- A member with a list, unless the list is empty. -/
def listMember (name : String) (items : List Json) : List (String × Json) :=
  if items.isEmpty then [] else [(name, .array items)]

namespace FieldSpec

/-- Reads a field. -/
def ofDocument? (document : Document) : Option FieldSpec := do
  let members ← document.members? ["name", "label", "type", "required", "visible_when"]
  return {
    name := ← Document.required? ["name"] Document.string? members
    label := ← Document.optional? ["label"] Document.string? members
    kind := ← Document.optional? ["type"] Document.string? members
    required := ← Document.defaulted? ["required"] false Document.bool? members
    visibleWhen :=
      ← Document.optional? ["visible_when", "visibleWhen"] Rule.ofDocument? members }

/-- The field as a JSON value. -/
def toJson (field : FieldSpec) : Json :=
  .ofMembers <|
    [("name", .string field.name), ("required", .bool field.required)]
    ++ member? "label" (field.label.map .string)
    ++ member? "type" (field.kind.map .string)
    ++ member? "visible_when" (field.visibleWhen.map Rule.toJson)

end FieldSpec

namespace FieldEntry

/-- The reference of an object with one member under its name. An array gives none. -/
def reference? (document : Document) : Option String := do
  let members ← document.members? []
  Document.required? ["$ref"] Document.string? members

/-- Reads a field entry: a reference if it can be read as one, and otherwise a field. All parts
of it must stand for values.
-/
def ofDocument? (document : Document) : Option FieldEntry := do
  guard document.isReadable
  match reference? document with
  | some reference => return .ref reference
  | none => return .inline (← FieldSpec.ofDocument? document)

/-- The field entry as a JSON value. -/
def toJson : FieldEntry → Json
  | .ref reference => .ofMembers [("$ref", .string reference)]
  | .inline field => field.toJson

end FieldEntry

namespace Step

/-- Reads a step. -/
def ofDocument? (document : Document) : Option Step := do
  let members ← document.members? ["id", "title", "visible_when", "fields"]
  return {
    id := ← Document.required? ["id"] Document.string? members
    title := ← Document.optional? ["title"] Document.string? members
    visibleWhen :=
      ← Document.optional? ["visible_when", "visibleWhen"] Rule.ofDocument? members
    fields :=
      ← Document.defaulted? ["fields", "fieldSchema"] []
        (Document.list? FieldEntry.ofDocument?) members }

/-- The step as a JSON value. -/
def toJson (step : Step) : Json :=
  .ofMembers <|
    [("id", .string step.id)]
    ++ member? "title" (step.title.map .string)
    ++ member? "visible_when" (step.visibleWhen.map Rule.toJson)
    ++ listMember "fields" (step.fields.map FieldEntry.toJson)

end Step

namespace Transition

/-- Reads a transition. -/
def ofDocument? (document : Document) : Option Transition := do
  let members ← document.members? ["from", "to", "when", "guard", "default", "allow_cycle"]
  return {
    source := ← Document.required? ["from"] Document.string? members
    target := ← Document.required? ["to"] Document.string? members
    condition := ← Document.optional? ["when"] Rule.ofDocument? members
    guard := ← Document.optional? ["guard"] Document.string? members
    isDefault := ← Document.defaulted? ["default"] false Document.bool? members
    allowCycle :=
      ← Document.defaulted? ["allow_cycle", "allowCycle"] false Document.bool? members }

/-- The transition as a JSON value. -/
def toJson (transition : Transition) : Json :=
  .ofMembers <|
    [("from", .string transition.source), ("to", .string transition.target),
      ("default", .bool transition.isDefault), ("allow_cycle", .bool transition.allowCycle)]
    ++ member? "when" (transition.condition.map Rule.toJson)
    ++ member? "guard" (transition.guard.map .string)

end Transition

/-- Reads a schema. -/
def ofDocument? (document : Document) : Option Schema := do
  let members ← document.members?
    ["id", "title", "version", "steps", "transitions", "computed", "definitions", "review_step"]
  return {
    id := ← Document.required? ["id"] Document.string? members
    title := ← Document.optional? ["title"] Document.string? members
    version := ← Document.optional? ["version"] Document.string? members
    steps := ← Document.required? ["steps"] (Document.list? Step.ofDocument?) members
    transitions :=
      ← Document.defaulted? ["transitions"] [] (Document.list? Transition.ofDocument?) members
    computed :=
      ← Document.defaulted? ["computed"] [] (Document.list? Computed.Field.ofDocument?) members
    definitions :=
      ← Document.defaulted? ["definitions"] [] (Document.table? FieldSpec.ofDocument?) members
    reviewStep :=
      ← Document.optional? ["review_step", "reviewStep"] Document.string? members }

/-- Reads a schema from JSON text. -/
def ofText? (text : String) : Option Schema :=
  (Document.read? text).bind ofDocument?

/-- The schema as a JSON value. -/
def toJson (schema : Schema) : Json :=
  let definitions := schema.definitions.map fun (name, field) => (name, field.toJson)
  .ofMembers <|
    [("id", .string schema.id), ("steps", .array (schema.steps.map Step.toJson))]
    ++ member? "title" (schema.title.map .string)
    ++ member? "version" (schema.version.map .string)
    ++ listMember "transitions" (schema.transitions.map Transition.toJson)
    ++ listMember "computed" (schema.computed.map Computed.Field.toJson)
    ++ (if definitions.isEmpty then [] else [("definitions", .ofMembers definitions)])
    ++ member? "review_step" (schema.reviewStep.map .string)

end FormWizard.Schema
