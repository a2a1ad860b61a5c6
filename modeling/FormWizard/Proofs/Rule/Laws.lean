import FormWizard.Proofs.Rule.Budget
import FormWizard.Proofs.Rule.Histories

/-! Boolean laws of rules: double negation, the exchange of conjunction and disjunction under a
negation, and the dissolution of nested conjunctions and disjunctions. They hold of errors as they
do of values. Which error surfaces, and which one is never met, depends on the order of the rules
alone, and the laws keep that order.
-/

namespace FormWizard.Rule

open Calendar (Instant)
open Json (Document)

-----------------------------------------------------------------------------------------
-- Rules in a row
-----------------------------------------------------------------------------------------

/-- An answer that is an error or of the deciding value, or else the next answer. -/
def followedBy (deciding : Bool) (answer next : Answer) : Answer :=
  answer.bind fun holds => if holds = deciding then .ok deciding else next

theorem followedBy_assoc (deciding : Bool) (first second third : Answer)
    : followedBy deciding (followedBy deciding first second) third
      = followedBy deciding first (followedBy deciding second third) := by
  cases first with
  | error error => rfl
  | ok holds => by_cases decides : holds = deciding <;> simp [followedBy, Except.bind, decides]

/-- The last answer of a row stands, whatever it is. -/
theorem followedBy_last (deciding : Bool) (answer : Answer)
    : followedBy deciding answer (.ok !deciding) = answer := by
  cases answer with
  | error error => rfl
  | ok holds => cases holds <;> cases deciding <;> rfl

/-- Negation turns a decision for one value into one for the other. -/
theorem followedBy_map_not (deciding : Bool) (answer next : Answer)
    : followedBy deciding (answer.map not) (next.map not)
      = (followedBy (!deciding) answer next).map not := by
  cases answer with
  | error error => rfl
  | ok holds => cases holds <;> cases deciding <;> rfl

theorem map_not_map_not (answer : Answer) : (answer.map not).map not = answer := by
  cases answer with
  | error error => rfl
  | ok holds => cases holds <;> rfl

variable {scope : Scope}

theorem outcomeUntil_cons (deciding : Bool) (rule : Rule) (rest : List Rule)
    : outcomeUntil scope deciding (rule :: rest)
      = followedBy deciding (outcome scope rule) (outcomeUntil scope deciding rest) := by
  rw [outcomeUntil]
  cases outcome scope rule <;> rfl

theorem outcomeUntil_append (deciding : Bool) (front back : List Rule)
    : outcomeUntil scope deciding (front ++ back)
      = followedBy deciding (outcomeUntil scope deciding front)
          (outcomeUntil scope deciding back) := by
  induction front with
  | nil => simp [outcomeUntil, followedBy, Except.bind]
  | cons rule rest ih =>
      rw [List.cons_append, outcomeUntil_cons, outcomeUntil_cons, ih, followedBy_assoc]

/-- A rule may be put in the place of rules that come to the same. -/
theorem outcomeUntil_nested {deciding : Bool} {rule : Rule} {inner : List Rule}
    (same : outcome scope rule = outcomeUntil scope deciding inner) (front back : List Rule)
    : outcomeUntil scope deciding (front ++ [rule] ++ back)
      = outcomeUntil scope deciding (front ++ inner ++ back) := by
  have alone : outcomeUntil scope deciding [rule] = outcomeUntil scope deciding inner := by
    rw [outcomeUntil_cons, outcomeUntil, followedBy_last, same]
  rw [outcomeUntil_append, outcomeUntil_append, outcomeUntil_append, outcomeUntil_append, alone]

theorem outcome_all (rules : List Rule)
    : outcome scope (all rules) = outcomeUntil scope false rules := by
  rw [all, outcome]

theorem outcome_any (rules : List Rule)
    : outcome scope (any rules) = outcomeUntil scope true rules := by
  rw [any, outcome]

theorem outcome_negate (rule : Rule)
    : outcome scope (negate rule) = (outcome scope rule).map not := by
  rw [negate, outcome]

/-- The negations of rules come to the negation of what the rules come to with the other value
deciding, by induction on the rules.
-/
theorem outcomeUntil_map_negate (deciding : Bool) (rules : List Rule)
    : outcomeUntil scope deciding (rules.map negate)
      = (outcomeUntil scope (!deciding) rules).map not := by
  induction rules with
  | nil => simp [outcomeUntil, Except.map]
  | cons rule rest ih =>
      rw [List.map_cons, outcomeUntil_cons, outcomeUntil_cons, ih, outcome_negate,
        followedBy_map_not]

-----------------------------------------------------------------------------------------
-- Laws
-----------------------------------------------------------------------------------------

/-- Two rules of which a law says that they come to the same. -/
inductive Law : Rule → Rule → Prop
  | negateNegate (rule : Rule) : Law (negate (negate rule)) rule
  | negateAll (rules : List Rule) : Law (negate (all rules)) (any (rules.map negate))
  | negateAny (rules : List Rule) : Law (negate (any rules)) (all (rules.map negate))
  | nestedAll (front inner back : List Rule)
    : Law (all (front ++ [all inner] ++ back)) (all (front ++ inner ++ back))
  | nestedAny (front inner back : List Rule)
    : Law (any (front ++ [any inner] ++ back)) (any (front ++ inner ++ back))

variable {left right : Rule}

/-- The laws hold where nothing limits an evaluation. -/
theorem Law.outcome_eq (law : Law left right) : outcome scope left = outcome scope right := by
  cases law with
  | negateNegate rule => rw [outcome_negate, outcome_negate, map_not_map_not]
  | negateAll rules =>
      rw [outcome_negate, outcome_all, outcome_any, outcomeUntil_map_negate, Bool.not_true]
  | negateAny rules =>
      rw [outcome_negate, outcome_any, outcome_all, outcomeUntil_map_negate, Bool.not_false]
  | nestedAll front inner back =>
      rw [outcome_all, outcome_all]
      exact outcomeUntil_nested (outcome_all inner) front back
  | nestedAny front inner back =>
      rw [outcome_any, outcome_any]
      exact outcomeUntil_nested (outcome_any inner) front back

namespace Evaluator

variable {clock : Instant} {data : Json} {facts : Facts} {evaluator other : Evaluator}

end Evaluator

/-- Rules of which the second one calls the host. -/
def conditions : List Rule :=
  [.equals (.string "$.guest") (.bool true), .custom "known" [.string "$.name"],
    .always (some false)]

end FormWizard.Rule
