import FormWizard.Proofs.Json.Members
import FormWizard.Rule.Codec

/-! Rules that were read. Reading takes apart nested objects and lists; what holds of every kind of
rule whose parts were read holds of all rules that it gives.
-/

namespace FormWizard

open Json (Document)

/-- An operand is written as the value that it was read off. -/
theorem Operand.toJson_ofJson (value : Json) : (ofJson value).toJson = value := by
  unfold ofJson
  split
  · rename_i text
    split
    · rfl
    · split
      · rename_i first rest chars
        have whole : text = String.ofList ('@' :: first :: rest) := by
          rw [← chars, String.ofList_toList]
        rw [whole]
        simp [toJson]
      · rfl
  · rfl

namespace Rule

/-- A property of every kind of rule whose parts were read, if the nested rules have it. -/
structure IsHereditary (holds : Rule → Prop) : Prop where
  comparison
    : ∀ (op : Comparison) {document document' : Document} {left right : Json},
        Document.toJson? document = some left → Document.toJson? document' = some right →
        holds (compare op left right)
  logical
    : ∀ (op : Connective) {args : List Rule},
        (∀ rule ∈ args, holds rule) → holds (.logical op args)
  custom
    : ∀ (function : String) {args : List Json},
        (∀ arg ∈ args, ∃ document, Document.toJson? document = some arg) →
        holds (.custom function args)
  always : ∀ value : Option Bool, holds (.always value)

variable {holds : Rule → Prop}

theorem IsHereditary.ofParts? (inherits : IsHereditary holds) {kind : String}
    {members : Document.Members} {nested : Option (List Rule)} {rule : Rule}
    (h : Rule.ofParts? kind members nested = some rule)
    (inside : ∀ {args : List Rule}, nested = some args → ∀ arg ∈ args, holds arg)
    : holds rule := by
  unfold Rule.ofParts? at h
  split at h
  · simp only [Option.bind_eq_bind, Option.bind_eq_some_iff, Option.pure_def,
      Option.some.injEq] at h
    obtain ⟨_, -, left, readLeft, right, readRight, op, -, rfl⟩ := h
    obtain ⟨_, onLeft⟩ := Document.exists_of_required? readLeft
    obtain ⟨_, onRight⟩ := Document.exists_of_required? readRight
    exact inherits.comparison op onLeft onRight
  · simp only [Option.bind_eq_bind, Option.bind_eq_some_iff, Option.pure_def] at h
    obtain ⟨_, -, args?, -, h⟩ := h
    split at h
    · simp only [Option.bind_eq_some_iff, Option.some.injEq] at h
      obtain ⟨args, read, op, -, rfl⟩ := h
      exact inherits.logical op (inside read)
    · simp only [Option.bind_some, Option.bind_eq_some_iff, Option.some.injEq] at h
      obtain ⟨op, -, rfl⟩ := h
      exact inherits.logical op (by simp)
  · simp only [Option.bind_eq_bind, Option.bind_eq_some_iff, Option.pure_def,
      Option.some.injEq] at h
    obtain ⟨function, -, args, readArgs, rfl⟩ := h
    refine inherits.custom function fun arg listed => ?_
    obtain rfl | ⟨list, readList⟩ := Document.exists_of_defaulted? readArgs
    · cases listed
    · exact Document.exists_of_list? readList arg listed
  · simp only [Option.bind_eq_bind, Option.bind_eq_some_iff, Option.pure_def,
      Option.some.injEq] at h
    obtain ⟨value, -, rfl⟩ := h
    exact inherits.always value
  · cases h

mutual

/-- All rules that are read have a hereditary property, by mutual induction on the document and the
lists in it.
-/
theorem IsHereditary.ofDocument? (inherits : IsHereditary holds) (document : Document) {rule : Rule}
    (h : Rule.ofDocument? document = some rule)
    : holds rule := by
  match document with
  | .object members =>
      simp only [Rule.ofDocument?, Option.bind_eq_bind, Option.bind_eq_some_iff] at h
      obtain ⟨_, -, kind, -, h⟩ := h
      exact inherits.ofParts? h fun read => inherits.argsOfMembers? members read
  | .array (kind :: parts) =>
      simp only [Rule.ofDocument?, Option.bind_eq_bind, Option.bind_eq_some_iff] at h
      obtain ⟨_, -, _, -, members, -, h⟩ := h
      exact inherits.ofParts? h fun read => inherits.argsOfParts? parts read
  | .null | .bool _ | .number _ | .string _ | .array [] | .unreadable =>
      cases h

theorem IsHereditary.argsOfParts? (inherits : IsHereditary holds) (parts : List Document)
    {args : List Rule}
    (h : Rule.argsOfParts? parts = some args)
    : ∀ rule ∈ args, holds rule := by
  match parts with
  | _ :: list :: _ => exact inherits.argsOfArray? list h
  | [] | [_] => cases h

theorem IsHereditary.argsOfMembers? (inherits : IsHereditary holds)
    (members : List (Option String × Document)) {args : List Rule}
    (h : Rule.argsOfMembers? members = some args)
    : ∀ rule ∈ args, holds rule := by
  match members with
  | [] =>
      cases h
  | (key, value) :: rest =>
      rw [Rule.argsOfMembers?] at h
      split at h
      · exact inherits.argsOfArray? value h
      · exact inherits.argsOfMembers? rest h

theorem IsHereditary.argsOfArray? (inherits : IsHereditary holds) (document : Document)
    {args : List Rule}
    (h : Rule.argsOfArray? document = some args)
    : ∀ rule ∈ args, holds rule := by
  match document with
  | .array items =>
      exact inherits.argsOfItems? items h
  | .null | .bool _ | .number _ | .string _ | .object _ | .unreadable =>
      cases h

theorem IsHereditary.argsOfItems? (inherits : IsHereditary holds) (items : List Document)
    {args : List Rule}
    (h : Rule.argsOfItems? items = some args)
    : ∀ rule ∈ args, holds rule := by
  match items with
  | [] =>
      cases h
      simp
  | item :: rest =>
      simp only [Rule.argsOfItems?, Option.bind_eq_bind, Option.bind_eq_some_iff, Option.pure_def,
        Option.some.injEq] at h
      obtain ⟨rule, first, rules, others, rfl⟩ := h
      exact List.forall_mem_cons.mpr
        ⟨inherits.ofDocument? item first, inherits.argsOfItems? rest others⟩

end

end Rule

end FormWizard
