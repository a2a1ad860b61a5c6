import FormWizard.Proofs.Calendar.TimeStamps
import FormWizard.Proofs.Json.Printing
import FormWizard.Proofs.Rule.Reading
import FormWizard.Rule.Evaluator
import Mathlib.Data.List.Basic

/-! What the key of a question tells of the question: its data, what its rule is written as, and its
facts up to the way in which a leap second of the pinned clock is written. The text of a rule
determines the rule, provided that it was read or put together by the constructors of rules, which
read their operands off values.
-/

namespace FormWizard

-----------------------------------------------------------------------------------------
-- Facts
-----------------------------------------------------------------------------------------

/-- Of the given members under a key the last one is the member of their object. -/
theorem Json.member?_ofMembers (key : String) (members : List (String × Json))
    : (ofMembers members).member? key
      = (members.reverse.find? (·.1 = key)).map Prod.snd :=
  Table.find?_ofEntries key members

/-- A part that may be missing is determined by its value as far as it is where it is present, null
standing for a missing one.
-/
theorem Json.map_eq_of_elim_null_eq {α β : Type} {wrap : α → Json} {told : α → β}
    (inj : ∀ {part other}, wrap part = wrap other → told part = told other)
    (present : ∀ part, wrap part ≠ .null) {left right : Option α}
    (same : left.elim .null wrap = right.elim .null wrap)
    : left.map told = right.map told := by
  cases left with
  | none =>
      cases right with
      | none => rfl
      | some part => exact (present part same.symm).elim
  | some part =>
      cases right with
      | none => exact (present part same).elim
      | some other => exact congrArg some (inj same)

theorem Json.elim_null_injective {α : Type} {wrap : α → Json} (inj : Function.Injective wrap)
    (present : ∀ part, wrap part ≠ .null)
    : Function.Injective fun part? : Option α => part?.elim .null wrap := by
  intro left right same
  have parts : left.map id = right.map id :=
    map_eq_of_elim_null_eq (fun same => inj same) present same
  simpa using parts

/-- The facts with the pinned clock as it is written. -/
def Facts.asWritten (facts : Facts) : Facts :=
  { facts with now := facts.now.map Calendar.Instant.asWritten }

theorem Facts.key_asWritten (facts : Facts) : facts.asWritten.key = facts.key := by
  cases pinned : facts.now <;> simp [key, asWritten, pinned, Calendar.Instant.text_asWritten]

/-- Facts have the same key just in case they are the same but for how their clocks are written.
Witness: the members of the printed object under the five names, each of which determines one part
of the facts.
-/
theorem Facts.key_eq_iff {facts other : Facts}
    : facts.key = other.key ↔ facts.asWritten = other.asWritten := by
  constructor
  · intro same
    have member (name : String) := congrArg (Json.member? name) (Json.text_injective same)
    simp only [Json.member?_ofMembers] at member
    have values : Json.object facts.values = .object other.values :=
      Option.some.inj (member "values")
    have environment := Json.elim_null_injective (fun _ _ => Json.string.inj) (by simp)
      (Option.some.inj (member "env"))
    have guards
        : Json.array (facts.guardNames.map .string) = .array (other.guardNames.map .string) :=
      Option.some.inj (member "guards")
    have terminal := Json.elim_null_injective (fun _ _ => Json.bool.inj) (by simp)
      (Option.some.inj (member "review_terminal"))
    have now : facts.now.map Calendar.Instant.asWritten = other.now.map .asWritten :=
      Json.map_eq_of_elim_null_eq
        (fun texts => Calendar.Instant.text_eq_iff.mp (Json.string.inj texts)) (by simp)
        (Option.some.inj (member "now"))
    have names : Function.Injective (List.map Json.string) :=
      Function.Injective.list_map fun _ _ => Json.string.inj
    rw [asWritten, asWritten, mk.injEq]
    exact ⟨Json.object.inj values, environment, names (Json.array.inj guards), terminal, now⟩
  · intro same
    rw [← key_asWritten, same, key_asWritten]

-----------------------------------------------------------------------------------------
-- Rules
-----------------------------------------------------------------------------------------

namespace Operand

/-- An operand that was read off a value. -/
def IsRead (operand : Operand) : Prop :=
  ∃ value, ofJson value = operand

/-- Operands that were read off values differ if they are written differently. -/
theorem eq_of_toJson_eq {operand other : Operand} (h : operand.IsRead) (h' : other.IsRead)
    (same : operand.toJson = other.toJson)
    : operand = other := by
  obtain ⟨value, rfl⟩ := h
  obtain ⟨value', rfl⟩ := h'
  rw [toJson_ofJson, toJson_ofJson] at same
  rw [same]

end Operand

theorem Comparison.name_injective : Function.Injective name := by
  intro op other same
  cases op <;> cases other <;> first | rfl | exact absurd same (by decide)

theorem Connective.name_injective : Function.Injective name := by
  intro op other same
  cases op <;> cases other <;> first | rfl | exact absurd same (by decide)

namespace Rule

open Json (Document)

/-- A rule that was read from a document or put together by the constructors of rules. -/
inductive IsBuilt : Rule → Prop
  | read {document : Document} {rule : Rule} (h : ofDocument? document = some rule) : IsBuilt rule
  | compare (op : Comparison) (left right : Json) : IsBuilt (compare op left right)
  | logical (op : Connective) {args : List Rule} (h : ∀ rule ∈ args, IsBuilt rule)
    : IsBuilt (.logical op args)
  | custom (function : String) (args : List Json) : IsBuilt (.custom function args)
  | always (value : Option Bool) : IsBuilt (.always value)

/-- All operands of the rule were read off values. A literal that is spelled like a reference is
not among them; it would share the key of that reference.
-/
inductive HasReadOperands : Rule → Prop
  | comparison (op : Comparison) {left right : Operand} (h : left.IsRead) (h' : right.IsRead)
    : HasReadOperands (.comparison op left right)
  | logical (op : Connective) {args : List Rule} (h : ∀ rule ∈ args, HasReadOperands rule)
    : HasReadOperands (.logical op args)
  | custom (function : String) (args : List Json) : HasReadOperands (.custom function args)
  | always (value : Option Bool) : HasReadOperands (.always value)

theorem hasReadOperands_compare (op : Comparison) (left right : Json)
    : HasReadOperands (compare op left right) :=
  .comparison op ⟨left, rfl⟩ ⟨right, rfl⟩

theorem isHereditary_hasReadOperands : IsHereditary HasReadOperands where
  comparison op _ _ left right _ _ := hasReadOperands_compare op left right
  logical op _ h := .logical op h
  custom function args _ := .custom function args
  always := .always

/-- However a rule was obtained, its operands were read off values. -/
theorem IsBuilt.hasReadOperands {rule : Rule} (h : rule.IsBuilt) : rule.HasReadOperands := by
  induction h with
  | read h => exact isHereditary_hasReadOperands.ofDocument? _ h
  | compare op left right => exact hasReadOperands_compare op left right
  | logical op _ ih => exact .logical op ih
  | custom function args => exact .custom function args
  | always value => exact .always value

/-- Lists of rules differ if they are written differently, provided that their rules do. -/
theorem eq_of_declaredArgs_eq {args others : List Rule}
    (inj : ∀ rule ∈ args, ∀ {other : Rule}, other.HasReadOperands
      → rule.declared = other.declared → rule = other)
    (h : ∀ rule ∈ others, HasReadOperands rule) (same : declaredArgs args = declaredArgs others)
    : args = others := by
  induction args generalizing others with
  | nil =>
      cases others with
      | nil => rfl
      | cons other others => cases same
  | cons arg args ih =>
      cases others with
      | nil => cases same
      | cons other others =>
          rw [List.forall_mem_cons] at inj h
          obtain ⟨first, rest⟩ := List.cons.inj same
          rw [inj.1 h.1 first, ih inj.2 h.2 rest]

/-- Rules whose operands were read off values differ if they are written differently. -/
theorem eq_of_declared_eq {rule other : Rule} (h : rule.HasReadOperands)
    (h' : other.HasReadOperands) (same : rule.declared = other.declared)
    : rule = other := by
  induction h generalizing other with
  | comparison op left right =>
      cases h' with
      | comparison op' left' right' =>
          simp only [declared, Json.object.injEq, List.cons.injEq, Prod.mk.injEq, Json.string.injEq,
            true_and, and_true] at same
          rw [Comparison.name_injective same.1, Operand.eq_of_toJson_eq left left' same.2.1,
            Operand.eq_of_toJson_eq right right' same.2.2]
      | _ => simp [declared] at same
  | logical op args ih =>
      cases h' with
      | logical op' args' =>
          simp only [declared, Json.object.injEq, List.cons.injEq, Prod.mk.injEq, Json.string.injEq,
            Json.array.injEq, true_and, and_true] at same
          rw [Connective.name_injective same.1, eq_of_declaredArgs_eq ih args' same.2]
      | _ => simp [declared] at same
  | custom function args =>
      cases h' with
      | custom function' args' =>
          cases args <;> cases args' <;> simp_all [declared]
      | _ => simp [declared] at same
  | always value =>
      cases h' with
      | always value' =>
          cases value <;> cases value' <;> simp_all [declared]
      | _ => simp [declared] at same

-----------------------------------------------------------------------------------------
-- Questions
-----------------------------------------------------------------------------------------

theorem separator_notMem_text (value : Json) : '\x1f' ∉ value.text.toList :=
  fun member => absurd (Json.isPrintable_of_mem_text value _ member) (by decide)

/-- Questions have the same key just in case their rules are written alike, and so are their facts,
and their data are the same.
-/
theorem Question.key_eq_iff {question other : Question}
    : question.key = other.key
      ↔ question.rule.declared = other.rule.declared ∧ question.data = other.data
        ∧ question.facts.asWritten = other.facts.asWritten := by
  constructor
  · intro same
    have chars (question : Question)
        : question.key.toList
          = question.rule.text.toList
            ++ '\x1f' :: (question.data.text.toList ++ '\x1f' :: question.facts.key.toList) := by
      simp [key]
    replace same := congrArg String.toList same
    rw [chars, chars] at same
    obtain ⟨rules, rest⟩ :=
      Text.append_cons_inj (separator_notMem_text _) (separator_notMem_text _) same
    obtain ⟨values, facts⟩ :=
      Text.append_cons_inj (separator_notMem_text _) (separator_notMem_text _) rest
    exact ⟨Json.text_injective (String.toList_injective rules),
      Json.text_injective (String.toList_injective values),
      Facts.key_eq_iff.mp (String.toList_injective facts)⟩
  · rintro ⟨rules, values, facts⟩
    rw [key, key, text, rules, values, Facts.key_eq_iff.mpr facts, text]

end Rule

end FormWizard
