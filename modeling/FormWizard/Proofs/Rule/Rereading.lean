import FormWizard.Proofs.Rule.Reading

/-! Rules that were read are read again from what they are written as. -/

namespace FormWizard

open Json (Document)

namespace Rule

theorem ofName?_name (op : Comparison) : Comparison.ofName? op.name = some op := by
  cases op <;> rfl

theorem connectiveOfName?_name (op : Connective) : Connective.ofName? op.name = some op := by
  cases op <;> rfl

/-- If only one member is under the key, its rules are those that are read. -/
theorem argsOfMembers?_of_field? {members : Document.Members} {value : Document}
    (h : Document.field? ["args"] members = some (some value))
    : argsOfMembers? members = argsOfArray? value := by
  induction members with
  | nil => cases h
  | cons member rest ih =>
      obtain ⟨key, first⟩ := member
      unfold Document.field? at h
      rw [argsOfMembers?]
      by_cases own : key = some "args"
      · rw [if_pos own]
        rw [List.filter_cons_of_pos (by simp [own])] at h
        split at h
        · cases h
        · rename_i single
          cases h
          cases (List.cons.inj single).1
          rfl
        · cases h
      · rw [if_neg own]
        have other : (key.any ["args"].contains) = false := by
          cases key <;> simp_all
        rw [List.filter_cons_of_neg (by simp [other])] at h
        exact ih h

theorem argsOfItems?_argsToJson {args : List Rule}
    (h : ∀ rule ∈ args, ofDocument? (.ofJson rule.toJson) = some rule)
    : argsOfItems? (Document.ofItems (argsToJson args)) = some args := by
  induction args with
  | nil => rfl
  | cons rule rest ih =>
      rw [List.forall_mem_cons] at h
      rw [argsToJson, Document.ofItems, argsOfItems?, h.1, ih h.2]
      rfl

/-- The parts of the object that a rule is written as. -/
def parts : Rule → List (String × Option Json)
  | .comparison op left right =>
    [("type", some (.string "comparison")), ("op", some (.string op.name)),
      ("left", some left.toJson), ("right", some right.toJson)]
  | .logical op args =>
    [("type", some (.string "logical")), ("op", some (.string op.name)),
      ("args", some (.array (argsToJson args)))]
  | .custom function args =>
    [("type", some (.string "custom")), ("fn", some (.string function)),
      ("args", if args.isEmpty then none else some (.array args))]
  | .always value => [("type", some (.string "always")), ("value", value.map .bool)]

theorem toJson_eq (rule : Rule) : rule.toJson = .ofMembers (Document.present rule.parts) := by
  cases rule with
  | comparison op left right => rfl
  | logical op args => rw [toJson]; rfl
  | custom function args => cases args <;> rfl
  | always value => cases value <;> rfl

theorem distinct_parts (rule : Rule) : (rule.parts.map Prod.fst).Nodup := by
  cases rule <;> simp [parts]

/-- The object that a rule is written as is read by its parts. -/
theorem ofDocument?_toJson (rule : Rule) (kind : String)
    (tagged : Document.part? ["type"] rule.parts = some (some (.string kind)))
    : ofDocument? (.ofJson rule.toJson)
      = ofParts? kind (Document.written rule.parts)
          (argsOfMembers? (Document.written rule.parts)) := by
  have readable : Document.areReadableMembers (Document.written rule.parts) = true :=
    Document.areReadableMembers_ofMembers _
  rw [toJson_eq, Document.ofJson_ofMembers, ofDocument?, readable,
    Document.required?_written rule.distinct_parts ["type"] _ tagged]
  rfl

theorem reread_compare (op : Comparison) {document document' : Document} {left right : Json}
    (onLeft : Document.toJson? document = some left)
    (onRight : Document.toJson? document' = some right)
    : ofDocument? (.ofJson (compare op left right).toJson) = some (compare op left right) := by
  have distinct := distinct_parts (compare op left right)
  rw [ofDocument?_toJson _ "comparison" rfl, ofParts?,
    Document.required?_written distinct ["op"] (.string op.name) rfl,
    Document.required?_written distinct ["left"] (Operand.ofJson left).toJson rfl,
    Document.required?_written distinct ["right"] (Operand.ofJson right).toJson rfl,
    Operand.toJson_ofJson, Operand.toJson_ofJson,
    Document.toJson?_ofJson _ onLeft, Document.toJson?_ofJson _ onRight]
  simp [Document.ofJson, operatorName?, ofName?_name]

theorem reread_logical (op : Connective) {args : List Rule}
    (again : ∀ rule ∈ args, ofDocument? (.ofJson rule.toJson) = some rule)
    : ofDocument? (.ofJson (Rule.logical op args).toJson) = some (.logical op args) := by
  have distinct := distinct_parts (.logical op args)
  have list := Document.field?_written distinct ["args"] (some (.array (argsToJson args))) rfl
  rw [ofDocument?_toJson _ "logical" rfl, ofParts?, list, argsOfMembers?_of_field? list,
    Document.required?_written distinct ["op"] (.string op.name) rfl]
  simp [Document.ofJson, operatorName?, connectiveOfName?_name, argsOfArray?,
    argsOfItems?_argsToJson again]

theorem reread_custom (function : String) {args : List Json}
    (read : ∀ arg ∈ args, ∃ document, Document.toJson? document = some arg)
    : ofDocument? (.ofJson (Rule.custom function args).toJson) = some (.custom function args) := by
  have distinct := distinct_parts (.custom function args)
  have list : Document.defaulted? ["args"] [] (Document.list? Document.toJson?)
      (Document.written (Rule.custom function args).parts) = some args := by
    cases args with
    | nil => exact Document.defaulted?_written_none distinct rfl
    | cons arg rest =>
        rw [Document.defaulted?_written distinct ["args"] (.array (arg :: rest)) rfl]
        refine Document.list?_ofItems fun other listed => ?_
        obtain ⟨item, found⟩ := read other listed
        exact Document.toJson?_ofJson item found
  rw [ofDocument?_toJson _ "custom" rfl, ofParts?, list,
    Document.required?_written distinct ["fn"] (.string function) rfl]
  rfl

theorem reread_always (value : Option Bool)
    : ofDocument? (.ofJson (Rule.always value).toJson) = some (.always value) := by
  have distinct := distinct_parts (.always value)
  have flag : Document.optional? ["value"] Document.bool?
      (Document.written (Rule.always value).parts) = some value := by
    rw [Document.optional?, Document.field?_written distinct ["value"] (value.map .bool) rfl]
    cases value <;> rfl
  rw [ofDocument?_toJson _ "always" rfl, ofParts?, flag]
  rfl

/-- What the constructors make of values that were read, and of rules that are read again, is read
again.
-/
theorem isHereditary_reread
    : IsHereditary fun rule => ofDocument? (.ofJson rule.toJson) = some rule where
  comparison := reread_compare
  logical := reread_logical
  custom := reread_custom
  always := reread_always

/-- Rules that were read are read again from what they are written as. -/
theorem roundTrips : Document.RoundTrips toJson ofDocument? :=
  fun _ _ read => isHereditary_reread.ofDocument? _ read

end Rule

end FormWizard
