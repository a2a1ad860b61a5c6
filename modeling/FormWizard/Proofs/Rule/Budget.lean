import FormWizard.Proofs.Rule.Visits
import FormWizard.Rule.Evaluator

/-! The budget of an evaluation is exact. Left to itself, an evaluation visits a certain number of
nodes from left to right and comes to an answer; one with a limit comes to that answer after as many
nodes, or it stops at the limit where there are more of them.
-/

namespace FormWizard.Rule

open Calendar (Instant)

-----------------------------------------------------------------------------------------
-- Evaluations without a limit
-----------------------------------------------------------------------------------------

mutual

/-- What a rule comes to where nothing limits its evaluation. -/
def outcome (scope : Scope) : Rule → Answer
  | .always value => .ok (value.getD true)
  | .comparison op left right => (op.apply (left.resolve? scope) (right.resolve? scope) []).1
  | .custom function args => call scope function args
  | .logical .all args => outcomeUntil scope false args
  | .logical .any args => outcomeUntil scope true args
  | .logical .negation [] => .ok true
  | .logical .negation (first :: _) => (outcome scope first).map not

/-- What rules come to that are evaluated until one is of the deciding value. -/
def outcomeUntil (scope : Scope) (deciding : Bool) : List Rule → Answer
  | [] => .ok !deciding
  | rule :: rest =>
    match outcome scope rule with
    | .ok holds => if holds = deciding then .ok deciding else outcomeUntil scope deciding rest
    | .error error => .error error

end

mutual

/-- The number of nodes that are visited for it. -/
def visits (scope : Scope) : Rule → Nat
  | .always _ | .comparison .. | .custom .. => 1
  | .logical .all args => visitsUntil scope false args + 1
  | .logical .any args => visitsUntil scope true args + 1
  | .logical .negation [] => 1
  | .logical .negation (first :: _) => visits scope first + 1

/-- The number of nodes that are visited in rules until one is of the deciding value. -/
def visitsUntil (scope : Scope) (deciding : Bool) : List Rule → Nat
  | [] => 0
  | rule :: rest =>
    match outcome scope rule with
    | .ok holds =>
      if holds = deciding then visits scope rule
      else visits scope rule + visitsUntil scope deciding rest
    | .error _ => visits scope rule

end

mutual

/-- The number of nodes of a rule. -/
def nodes : Rule → Nat
  | .always _ | .comparison .. | .custom .. => 1
  | .logical _ args => nodesOf args + 1

/-- The number of nodes of a list of rules. -/
def nodesOf : List Rule → Nat
  | [] => 0
  | rule :: rest => nodes rule + nodesOf rest

end

variable {scope : Scope} {limit : Nat}

-----------------------------------------------------------------------------------------
-- Errors
-----------------------------------------------------------------------------------------

theorem apply_ne_evaluationLimit (op : Comparison) (left right : Option Json)
    (patterns : List Pattern)
    : (op.apply left right patterns).1 ≠ .error (.evaluationLimit limit) := by
  unfold Comparison.apply
  split
  · simp
  · simp
  · cases op with
    | regex =>
        simp only [Comparison.ofPresent, Comparison.isMatch]
        split
        · split <;> simp
        · simp
    | _ => simp [Comparison.ofPresent]

theorem call_ne_evaluationLimit (function : String) (args : List Json)
    : call scope function args ≠ .error (.evaluationLimit limit) := by
  unfold call
  split
  · simp
  · rename_i predicate _
    dsimp only
    generalize predicate _ _ _ _ = answer
    cases answer with
    | ok holds =>
        show Except.ok holds ≠ _
        simp
    | error message =>
        show Except.error (EvalError.function function message) ≠ _
        simp

theorem map_not_ne_error {answer : Answer} {error : EvalError} (h : answer ≠ .error error)
    : answer.map not ≠ .error error := by
  cases answer with
  | ok holds => simp [Except.map]
  | error other => simpa [Except.map] using h

mutual

/-- An evaluation without a limit does not end at one. -/
theorem outcome_ne_evaluationLimit (rule : Rule)
    : outcome scope rule ≠ .error (.evaluationLimit limit) := by
  match rule with
  | .always value => simp [outcome]
  | .comparison op left right =>
      rw [outcome]
      exact apply_ne_evaluationLimit op _ _ _
  | .custom function args =>
      rw [outcome]
      exact call_ne_evaluationLimit function args
  | .logical .all args =>
      rw [outcome]
      exact outcomeUntil_ne_evaluationLimit false args
  | .logical .any args =>
      rw [outcome]
      exact outcomeUntil_ne_evaluationLimit true args
  | .logical .negation [] => simp [outcome]
  | .logical .negation (first :: _) =>
      rw [outcome]
      exact map_not_ne_error (outcome_ne_evaluationLimit first)

theorem outcomeUntil_ne_evaluationLimit (deciding : Bool) (rules : List Rule)
    : outcomeUntil scope deciding rules ≠ .error (.evaluationLimit limit) := by
  match rules with
  | [] => simp [outcomeUntil]
  | rule :: rest =>
      have first : outcome scope rule ≠ .error (.evaluationLimit limit) :=
        outcome_ne_evaluationLimit rule
      rw [outcomeUntil]
      split
      · split
        · simp
        · exact outcomeUntil_ne_evaluationLimit deciding rest
      · rename_i error found
        rw [found] at first
        simpa using first

end

-----------------------------------------------------------------------------------------
-- Numbers of nodes
-----------------------------------------------------------------------------------------

mutual

/-- No node of a rule is visited twice. -/
theorem visits_le_nodes (rule : Rule) : visits scope rule ≤ nodes rule := by
  match rule with
  | .always _ | .comparison .. | .custom .. => exact Nat.le_refl 1
  | .logical .all args =>
      rw [visits, nodes]
      exact Nat.succ_le_succ (visitsUntil_le_nodesOf false args)
  | .logical .any args =>
      rw [visits, nodes]
      exact Nat.succ_le_succ (visitsUntil_le_nodesOf true args)
  | .logical .negation [] => exact Nat.le_refl 1
  | .logical .negation (first :: rest) =>
      have visited : visits scope first ≤ nodes first := visits_le_nodes first
      rw [visits, nodes, nodesOf]
      omega

theorem visitsUntil_le_nodesOf (deciding : Bool) (rules : List Rule)
    : visitsUntil scope deciding rules ≤ nodesOf rules := by
  match rules with
  | [] => exact Nat.le_refl 0
  | rule :: rest =>
      have first : visits scope rule ≤ nodes rule := visits_le_nodes rule
      have others : visitsUntil scope deciding rest ≤ nodesOf rest :=
        visitsUntil_le_nodesOf deciding rest
      rw [visitsUntil, nodesOf]
      split
      · split <;> omega
      · omega

end

-----------------------------------------------------------------------------------------
-- Evaluations with a limit
-----------------------------------------------------------------------------------------

/-- What is found by an evaluation that starts with the given number of visited nodes and would come
to the answer after the given number of further ones: that answer, if the limit allows for so many
nodes, and otherwise an error at the first node beyond the limit.
-/
structure IsLimited (limit start : Nat) (answer : Answer) (visits : Nat)
    (found : Answer × Progress) : Prop where
  fits : start + visits ≤ limit → found.1 = answer ∧ found.2.visited = start + visits
  exceeds : limit < start + visits →
    found.1 = .error (.evaluationLimit limit) ∧ found.2.visited = limit + 1

variable {start count more : Nat} {answer : Answer}

/-- An evaluation that has come to its answer within the limit. -/
theorem IsLimited.ended {progress : Progress} (fits : start + count ≤ limit)
    (visited : progress.visited = start + count)
    : IsLimited limit start answer count (answer, progress) where
  fits _ := ⟨rfl, visited⟩
  exceeds beyond := absurd beyond (by omega)

/-- An evaluation goes on where another has come to. -/
theorem IsLimited.add {found : Answer × Progress}
    (h : IsLimited limit (start + count) answer more found)
    : IsLimited limit start answer (count + more) found where
  fits fits := by
    rw [← Nat.add_assoc] at fits ⊢
    exact h.fits fits
  exceeds beyond := h.exceeds (by omega)

/-- A limited evaluation can find one answer only. -/
theorem IsLimited.answer_unique {found other : Answer × Progress}
    (h : IsLimited limit start answer count found) (h' : IsLimited limit start answer count other)
    : found.1 = other.1 := by
  rcases Nat.lt_or_ge limit (start + count) with beyond | fits
  · rw [(h.exceeds beyond).1, (h'.exceeds beyond).1]
  · rw [(h.fits fits).1, (h'.fits fits).1]

/-- One more node is visited. -/
theorem IsLimited.node {progress : Progress} {next : Progress → Answer × Progress}
    (start : progress.visited ≤ limit)
    (h : ∀ {progress : Progress}, progress.visited ≤ limit →
      IsLimited limit progress.visited answer count (next progress))
    : IsLimited limit progress.visited answer (count + 1) (within limit progress next) := by
  rw [within]
  split
  · rename_i beyond
    have last : progress.visited + 1 = limit + 1 := by dsimp only at beyond; omega
    exact ⟨fun fits => absurd beyond (by dsimp only; omega), fun _ => ⟨rfl, last⟩⟩
  · rename_i room
    have room : progress.visited + 1 ≤ limit := by dsimp only at room; omega
    have further : IsLimited limit (progress.visited + 1) answer count _ :=
      @h { progress with visited := progress.visited + 1 } room
    rw [Nat.add_comm count 1]
    exact further.add

theorem visits_le_visitsUntil (deciding : Bool) (rule : Rule) (rest : List Rule)
    : visits scope rule ≤ visitsUntil scope deciding (rule :: rest) := by
  rw [visitsUntil]
  split
  · split <;> omega
  · omega

mutual

/-- An evaluation with a limit comes to what it would come to without, as far as the limit allows.
Witness: mutual induction on the rule and its arguments; the nodes that are left after one argument
are those that the next one may visit.
-/
theorem visit_isLimited (rule : Rule) {progress : Progress} (start : progress.visited ≤ limit)
    : IsLimited limit progress.visited (outcome scope rule) (visits scope rule)
        (visit scope limit rule progress) := by
  match rule with
  | .always value =>
      exact IsLimited.node start fun start => .ended start rfl
  | .comparison op left right =>
      rw [visit, outcome]
      refine IsLimited.node start fun {progress} start => ?_
      exact ⟨fun _ => ⟨Comparison.apply_fst op _ _ progress.patterns [], rfl⟩,
        fun beyond => absurd beyond (by omega)⟩
  | .custom function args =>
      exact IsLimited.node start fun start => .ended start rfl
  | .logical .all args =>
      rw [visit, funext (visitAll_eq args)]
      exact IsLimited.node start (visitUntil_isLimited false args)
  | .logical .any args =>
      rw [visit, funext (visitAny_eq args)]
      exact IsLimited.node start (visitUntil_isLimited true args)
  | .logical .negation [] =>
      exact IsLimited.node start fun start => .ended start rfl
  | .logical .negation (first :: _) =>
      refine IsLimited.node start fun {progress} start => ?_
      have once := visit_isLimited first start
      exact ⟨fun fits => ⟨congrArg (Except.map not) (once.fits fits).1, (once.fits fits).2⟩,
        fun beyond => ⟨congrArg (Except.map not) (once.exceeds beyond).1, (once.exceeds beyond).2⟩⟩

theorem visitUntil_isLimited (deciding : Bool) (rules : List Rule) {progress : Progress}
    (start : progress.visited ≤ limit)
    : IsLimited limit progress.visited (outcomeUntil scope deciding rules)
        (visitsUntil scope deciding rules) (visitUntil scope limit deciding rules progress) := by
  match rules with
  | [] => exact .ended start rfl
  | rule :: rest =>
      have once := visit_isLimited rule start
      rw [visitUntil]
      revert once
      rcases visit scope limit rule progress with ⟨found, after⟩
      intro once
      by_cases fits : progress.visited + visits scope rule ≤ limit
      · obtain ⟨came, visited⟩ := once.fits fits
        dsimp only at came visited
        rw [outcomeUntil, visitsUntil, came]
        cases outcome scope rule with
        | error error => exact .ended fits visited
        | ok holds =>
            dsimp only
            split
            · exact .ended fits visited
            · have room : after.visited ≤ limit := by omega
              have further := visitUntil_isLimited deciding rest room
              rw [visited] at further
              exact further.add
      · obtain ⟨stopped, visited⟩ := once.exceeds (by omega)
        dsimp only at stopped visited
        have counted : visits scope rule ≤ visitsUntil scope deciding (rule :: rest) :=
          visits_le_visitsUntil deciding rule rest
        rw [stopped]
        exact ⟨fun fits => absurd fits (by omega), fun _ => ⟨rfl, visited⟩⟩

end

-----------------------------------------------------------------------------------------
-- Evaluators
-----------------------------------------------------------------------------------------

namespace Evaluator

/-- What the rule of a question comes to for an evaluator, its limit left aside. -/
def outcome (clock : Instant) (question : Question) (evaluator : Evaluator) : Answer :=
  question.rule.outcome (evaluator.scope clock question.data question.facts)

/-- The number of nodes that are visited for it. -/
def visits (clock : Instant) (question : Question) (evaluator : Evaluator) : Nat :=
  question.rule.visits (evaluator.scope clock question.data question.facts)

variable {clock : Instant} {question : Question} {evaluator : Evaluator}

theorem answer_isLimited (clock : Instant) (question : Question) (evaluator : Evaluator)
    : IsLimited evaluator.maxEvaluations 0 (evaluator.outcome clock question)
        (evaluator.visits clock question) (evaluator.answer clock question) := by
  have start : (Progress.mk 0 evaluator.patterns).visited ≤ evaluator.maxEvaluations :=
    Nat.zero_le _
  exact visit_isLimited question.rule start

/-- Where the limit is large enough, an evaluator finds what the rule comes to without one. -/
theorem answer_fst_of_visits_le
    (enough : evaluator.visits clock question ≤ evaluator.maxEvaluations)
    : (evaluator.answer clock question).1 = evaluator.outcome clock question :=
  ((answer_isLimited clock question evaluator).fits (by omega)).1

/-- What is found is an error of the limit just in case there are more nodes to visit. -/
theorem answer_fst_eq_evaluationLimit_iff
    : (evaluator.answer clock question).1 = .error (.evaluationLimit evaluator.maxEvaluations)
      ↔ evaluator.maxEvaluations < evaluator.visits clock question := by
  constructor
  · intro stopped
    refine Nat.lt_of_not_le fun enough => ?_
    rw [answer_fst_of_visits_le enough] at stopped
    exact outcome_ne_evaluationLimit question.rule stopped
  · intro beyond
    exact ((answer_isLimited clock question evaluator).exceeds (by omega)).1

/-- What is not remembered has to be found. -/
theorem evaluate_of_unknown (unknown : evaluator.remembered? question = none)
    : evaluator.evaluate clock question
      = ((evaluator.answer clock question).1,
        evaluator.remember question (evaluator.answer clock question)) := by
  simp only [evaluate, unknown]

/-- The budget is exact. An answer that has to be found is an error of the limit just in case the
rule takes more visits than the limit allows. Otherwise it is what the rule comes to, which is no
such error, and the visits are counted, of which there are at most as many as nodes. Such an answer
stays as it is under a larger limit.
-/
theorem evaluate_within_budget (clock : Instant) (unknown : evaluator.remembered? question = none)
    : ((evaluator.evaluate clock question).1 = .error (.evaluationLimit evaluator.maxEvaluations)
        ↔ evaluator.maxEvaluations < evaluator.visits clock question)
      ∧ (evaluator.visits clock question ≤ evaluator.maxEvaluations →
        (evaluator.evaluate clock question).1 = evaluator.outcome clock question
        ∧ (evaluator.evaluate clock question).2.evaluations = evaluator.visits clock question)
      ∧ (∀ limit, evaluator.outcome clock question ≠ .error (.evaluationLimit limit))
      ∧ evaluator.visits clock question ≤ question.rule.nodes
      ∧ ∀ limit, evaluator.maxEvaluations ≤ limit →
          (evaluator.evaluate clock question).1
            ≠ .error (.evaluationLimit evaluator.maxEvaluations) →
          ({ evaluator with maxEvaluations := limit }.evaluate clock question).1
            = (evaluator.evaluate clock question).1 := by
  simp only [evaluate_of_unknown unknown]
  refine ⟨answer_fst_eq_evaluationLimit_iff, fun enough => ?_, fun limit => ?_, ?_, ?_⟩
  · obtain ⟨found, visited⟩ := (answer_isLimited clock question evaluator).fits (by omega)
    exact ⟨found, visited.trans (Nat.zero_add _)⟩
  · exact outcome_ne_evaluationLimit question.rule
  · exact visits_le_nodes question.rule
  · intro limit raised answered
    have enough : evaluator.visits clock question ≤ evaluator.maxEvaluations :=
      Nat.le_of_not_lt fun beyond => answered (answer_fst_eq_evaluationLimit_iff.mpr beyond)
    have unknownMore : { evaluator with maxEvaluations := limit }.remembered? question = none :=
      unknown
    have enoughMore
        : { evaluator with maxEvaluations := limit }.visits clock question ≤ limit :=
      Nat.le_trans enough raised
    rw [evaluate_of_unknown unknownMore, answer_fst_of_visits_le enough]
    exact answer_fst_of_visits_le enoughMore

end Evaluator

/-- Whether a guest of age is admitted, who would also be if under age or known to the host. -/
def admission : Question where
  rule :=
    .any [.negate (.compare .gte (.string "$.age") (.ofInt 18)),
      .equals (.string "$.guest") (.bool true), .custom "known" [.string "$.name"]]
  data := .object [("age", .ofInt 20), ("guest", .bool true)]
  facts := Context.facts {}

/-- An evaluator that may visit the given number of nodes. -/
def thrifty (limit : Nat) : Evaluator :=
  .ofConfig { maxEvaluations := limit }

/-- The guest is admitted after four of the five nodes. -/
theorem evaluate_within_budget_admission
    : ((thrifty 4).evaluate default admission).1 = .ok true
      ∧ ((thrifty 4).evaluate default admission).2.evaluations = 4
      ∧ ((thrifty 3).evaluate default admission).1 = .error (.evaluationLimit 3)
      ∧ admission.rule.nodes = 5 := by
  have unknown (limit : Nat) : (thrifty limit).remembered? admission = none := rfl
  obtain ⟨-, enough, -⟩ := Evaluator.evaluate_within_budget default (unknown 4)
  obtain ⟨exceeds, -⟩ := Evaluator.evaluate_within_budget default (unknown 3)
  obtain ⟨answer, counted⟩ := enough (by decide +kernel)
  have came : (thrifty 4).outcome default admission = .ok true := rfl
  have visits : (thrifty 4).visits default admission = 4 := rfl
  exact ⟨answer.trans came, counted.trans visits, exceeds.mpr (by decide +kernel), rfl⟩

end FormWizard.Rule
