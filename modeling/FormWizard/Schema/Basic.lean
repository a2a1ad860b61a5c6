import FormWizard.Computed.Field
import FormWizard.Rule.Basic

/-! Form schemas: the steps of a form with their fields, the transitions between steps, and the
computed fields.
-/

namespace FormWizard

namespace Schema

/-- An input on a step. -/
structure FieldSpec where
  name : String
  label : Option String := none
  kind : Option String := none
  required : Bool := false
  /-- The field is shown while this rule holds. -/
  visibleWhen : Option Rule := none
deriving DecidableEq

/-- A field of a step: given in place, or by a reference to a definition. -/
inductive FieldEntry where
  | ref (reference : String)
  | inline (field : FieldSpec)
deriving DecidableEq

/-- A page of the form. -/
structure Step where
  id : String
  title : Option String := none
  /-- The step is shown while this rule holds. -/
  visibleWhen : Option Rule := none
  fields : List FieldEntry := []
deriving DecidableEq

/-- A way from one step to another. -/
structure Transition where
  source : String
  target : String
  /-- The transition is open while this rule holds. -/
  condition : Option Rule := none
  /-- The name of the host guard that may veto the transition. -/
  guard : Option String := none
  /-- The transition is taken where no other is open. -/
  isDefault : Bool := false
  /-- A planned path may return to a step along the transition. -/
  allowCycle : Bool := false
deriving DecidableEq

end Schema

open Schema

/-- The definition of a form. -/
structure Schema where
  id : String
  title : Option String := none
  version : Option String := none
  steps : List Step
  transitions : List Transition := []
  computed : List Computed.Field := []
  /-- The fields that entries may refer to. -/
  definitions : Table FieldSpec := []
  /-- The step that ends the flow, where the schema names one. -/
  reviewStep : Option String := none
deriving DecidableEq

namespace Schema

/-- A reference to a definition that the schema does not have. -/
structure UnresolvedReference where
  reference : String
deriving DecidableEq, Repr

/-- The wording of the error. -/
def UnresolvedReference.message (error : UnresolvedReference) : String :=
  "unresolved schema reference '" ++ error.reference ++ "'"

/-- What references to definitions start with. -/
def definitionsRoot : List Char :=
  "#/definitions/".toList

/-- The name of the definition that a reference leads to. -/
def definitionName? (reference : String) : Option String :=
  let chars := reference.toList
  if definitionsRoot.isPrefixOf chars then
    some (String.ofList (chars.drop definitionsRoot.length))
  else none

/-- The first step with the given id. -/
def step? (id : String) (schema : Schema) : Option Step :=
  schema.steps.find? (·.id = id)

/-- The step that the form starts with. -/
def firstStep? (schema : Schema) : Option Step :=
  schema.steps.head?

/-- The transitions that leave a step, in the order of the schema. -/
def transitionsFrom (step : String) (schema : Schema) : List Transition :=
  schema.transitions.filter (·.source = step)

/-- The field that an entry stands for. -/
def resolve (schema : Schema) : FieldEntry → Except UnresolvedReference FieldSpec
  | .inline field => .ok field
  | .ref reference =>
    match (definitionName? reference).bind fun name => Table.find? name schema.definitions with
    | some field => .ok field
    | none => .error ⟨reference⟩

end Schema

end FormWizard
