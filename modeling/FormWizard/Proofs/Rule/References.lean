import FormWizard.Proofs.Rule.Budget
import FormWizard.Proofs.Rule.Histories
import FormWizard.Proofs.Tables
import FormWizard.Rule.Predicates

/-! A rule sees no more of the data than its references name, provided that the predicates which it
calls leave the data alone. All that such a predicate is told of them are its arguments.
-/

namespace FormWizard

open Calendar (Instant)

-----------------------------------------------------------------------------------------
-- References
-----------------------------------------------------------------------------------------

/-- The path into the data that an operand names, if it names one. -/
def Operand.references : Operand → List String
  | .data path => [path]
  | .context _ | .literal _ => []

theorem Operand.references_eq_nil_iff {operand : Operand}
    : operand.references = [] ↔ operand.isData = false := by
  cases operand <;> simp [references, isData]

/-- A text is read as a path into the data just in case it is a reference. -/
theorem Operand.isData_ofJson_string (text : String)
    : (ofJson (.string text)).isData = isDataReference text := by
  unfold ofJson
  dsimp only
  split
  · rename_i reference
    exact reference.symm
  · rename_i plain
    rw [Bool.not_eq_true] at plain
    split <;> exact plain.symm

namespace Rule

mutual

/-- The paths into the data that occur in a rule: operands of its comparisons, and arguments of its
predicates.
-/
def references : Rule → List String
  | .comparison _ left right => left.references ++ right.references
  | .logical _ args => referencesOf args
  | .custom _ args => args.flatMap fun arg => (Operand.ofJson arg).references
  | .always _ => []

/-- The paths into the data that occur in rules. -/
def referencesOf : List Rule → List String
  | [] => []
  | rule :: rest => references rule ++ referencesOf rest

end

mutual

/-- A rule reads the data just in case a reference occurs in it. -/
theorem references_eq_nil_iff (rule : Rule) : rule.references = [] ↔ rule.readsData = false := by
  match rule with
  | .comparison op left right =>
      simp only [references, readsData, List.append_eq_nil_iff, Bool.or_eq_false_iff,
        Operand.references_eq_nil_iff]
  | .logical op args => exact referencesOf_eq_nil_iff args
  | .custom function args =>
      simp only [references, readsData, List.flatMap_eq_nil_iff, List.any_eq_false,
        Operand.references_eq_nil_iff, Bool.not_eq_true]
      refine forall₂_congr fun arg _ => ?_
      cases arg with
      | string text => rw [Operand.isData_ofJson_string]
      | _ => exact Iff.rfl
  | .always value => exact ⟨fun _ => rfl, fun _ => rfl⟩

theorem referencesOf_eq_nil_iff (rules : List Rule)
    : referencesOf rules = [] ↔ readDataArgs rules = false := by
  match rules with
  | [] => exact ⟨fun _ => rfl, fun _ => rfl⟩
  | rule :: rest =>
      simp only [referencesOf, readDataArgs, List.append_eq_nil_iff, Bool.or_eq_false_iff,
        references_eq_nil_iff rule, referencesOf_eq_nil_iff rest]

end

-----------------------------------------------------------------------------------------
-- Predicates
-----------------------------------------------------------------------------------------

/-- The predicate does not look at the data. -/
def Predicate.IgnoresData (predicate : Predicate) : Prop :=
  ∀ args data other facts time,
    predicate args data facts time = predicate args other facts time

/-- The predicates that every rule may call do not look at the data. -/
theorem Predicates.ignoresData_of_mem_builtin {entry : String × Predicate}
    (h : entry ∈ builtin)
    : Predicate.IgnoresData entry.2 := by
  have listed := Table.mem_of_mem_ofEntries h
  simp only [List.mem_cons, List.not_mem_nil, or_false] at listed
  rcases listed with rfl | rfl | rfl | rfl
  all_goals exact fun _ _ _ _ _ => rfl

/-- All predicates are ones that every rule may call or do not look at the data. -/
def IgnoreData (functions : Table Predicate) : Prop :=
  ∀ entry ∈ functions, entry ∈ Predicates.builtin ∨ Predicate.IgnoresData entry.2

theorem IgnoreData.find? {functions : Table Predicate} (h : IgnoreData functions) {name : String}
    {predicate : Predicate} (found : Table.find? name functions = some predicate)
    : predicate.IgnoresData :=
  (h _ (Table.mem_of_find? found)).elim Predicates.ignoresData_of_mem_builtin id

-----------------------------------------------------------------------------------------
-- Evaluations
-----------------------------------------------------------------------------------------

variable {scope : Scope} {data : Json}

/-- Two values agree at the given paths. -/
def AgreeAt (paths : List String) (data other : Json) : Prop :=
  ∀ path ∈ paths, DataPath.lookUp? data path = DataPath.lookUp? other path

instance (paths : List String) (data other : Json) : Decidable (AgreeAt paths data other) :=
  inferInstanceAs (Decidable (∀ path ∈ paths, _))

theorem AgreeAt.of_append {front back : List String} {other : Json}
    (h : AgreeAt (front ++ back) data other)
    : AgreeAt front data other ∧ AgreeAt back data other :=
  List.forall_mem_append.mp h

theorem resolve?_of_agree {operand : Operand}
    (agree : AgreeAt operand.references data scope.data)
    : operand.resolve? { scope with data := data } = operand.resolve? scope := by
  cases operand with
  | data path => exact agree path (List.mem_singleton.mpr rfl)
  | context key => rfl
  | literal value => rfl

theorem call_of_agree (ignoring : IgnoreData scope.functions) {function : String}
    {args : List Json}
    (agree : AgreeAt (args.flatMap fun arg => (Operand.ofJson arg).references) data scope.data)
    : call { scope with data := data } function args = call scope function args := by
  have resolved (arg : Json) (member : arg ∈ args)
      : (Operand.ofJson arg).resolve? { scope with data := data }
        = (Operand.ofJson arg).resolve? scope :=
    resolve?_of_agree fun path named => agree path (List.mem_flatMap.mpr ⟨arg, member, named⟩)
  unfold call
  simp only
  cases found : Table.find? function scope.functions with
  | none => rfl
  | some predicate =>
      have same : args.map (fun arg =>
            ((Operand.ofJson arg).resolve? { scope with data := data }).getD .null)
          = args.map fun arg => ((Operand.ofJson arg).resolve? scope).getD .null :=
        List.map_congr_left fun arg member => by rw [resolved arg member]
      simp only [same]
      rw [ignoring.find? found _ data scope.data]

mutual

/-- A rule finds the same in data that agree at its references, by mutual induction on the rule and
its arguments.
-/
theorem findsSame_of_agree (ignoring : IgnoreData scope.functions) (rule : Rule)
    (agree : AgreeAt rule.references data scope.data)
    : FindsSame { scope with data := data } scope rule := by
  match rule with
  | .always value => exact trivial
  | .comparison op left right =>
      obtain ⟨onLeft, onRight⟩ := agree.of_append
      exact ⟨resolve?_of_agree onLeft, resolve?_of_agree onRight⟩
  | .custom function args => exact call_of_agree ignoring agree
  | .logical op args => exact findSame_of_agree ignoring args agree

theorem findSame_of_agree (ignoring : IgnoreData scope.functions) (rules : List Rule)
    (agree : AgreeAt (referencesOf rules) data scope.data)
    : FindSame { scope with data := data } scope rules := by
  match rules with
  | [] => exact trivial
  | rule :: rest =>
      obtain ⟨onFirst, onRest⟩ := agree.of_append
      exact ⟨findsSame_of_agree ignoring rule onFirst, findSame_of_agree ignoring rest onRest⟩

end

namespace Evaluator

variable {evaluator later : Evaluator} {rule : Rule} {other : Json}

end Evaluator

/-- The rule that an order has been paid, or that the customer is trusted and has left a name. -/
def cleared : Rule :=
  .any [.equals (.string "$.order.paid") (.bool true),
    .all [.custom "has_role" [.string "trusted"], .custom "is_filled" [.string "$.name"]]]

/-- An order with the given total. -/
def order (total : Int) : Json :=
  .object [("name", .string "Ada"), ("order", .object [("total", .ofInt total)])]

end Rule

end FormWizard
