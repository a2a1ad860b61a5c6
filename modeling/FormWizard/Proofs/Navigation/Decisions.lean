import FormWizard.Navigation.Path
import FormWizard.Proofs.Rule.Persistence

/-! What a decision on where to go next owes to the memory of the guide. A guide stands by its
decisions, whatever was decided in between, and guides whose evaluators answer alike decide alike.
-/

namespace FormWizard

open Calendar (Instant)
open Navigation (Situation)
open Rule (Evaluator Question)
open Schema (Transition)

/-- The evaluators are set up alike, and what they remember is true. -/
structure Rule.Evaluator.Interchangeable (evaluator other : Evaluator) : Prop where
  truthful : evaluator.IsTruthful
  truthful' : other.IsTruthful
  setup : evaluator.SameSetup other

/-- The evaluators are set up alike, and what they remember is true of the given contexts. -/
structure Rule.Evaluator.InterchangeableOn (contexts : List Facts) (evaluator other : Evaluator)
    : Prop where
  truthful : evaluator.TruthfulOn contexts
  truthful' : other.TruthfulOn contexts
  setup : evaluator.SameSetup other

theorem Rule.Evaluator.Interchangeable.on {evaluator other : Evaluator}
    (h : evaluator.Interchangeable other) (facts : Facts)
    : evaluator.InterchangeableOn [facts] other :=
  ⟨h.truthful.on facts, h.truthful'.on facts, h.setup⟩

namespace Navigation.Situation

/-- The question that the condition of a transition asks. -/
def question (situation : Situation) (rule : Rule) : Question :=
  ⟨rule, situation.data, situation.context.facts⟩

/-- All conditions of transitions were read or put together by the constructors of rules. -/
def IsBuilt (situation : Situation) : Prop :=
  ∀ transition ∈ situation.schema.transitions, ∀ rule ∈ transition.condition, rule.IsBuilt

/-- The clock is pinned, or no condition of a transition looks at it. -/
def IsTimeless (situation : Situation) : Prop :=
  situation.context.now.isSome = true
  ∨ ∀ transition ∈ situation.schema.transitions, ∀ rule ∈ transition.condition,
      rule.readsClock = false

theorem IsTimeless.question {situation : Situation} (h : situation.IsTimeless)
    {transition : Transition} (member : transition ∈ situation.schema.transitions) {rule : Rule}
    (condition : rule ∈ transition.condition)
    : (situation.question rule).isTimeless = true := by
  rcases h with pinned | clockFree
  · have now : (situation.question rule).facts.now.isSome = true := pinned
    simp [Question.isTimeless, now]
  · have free : (situation.question rule).rule.readsClock = false :=
      clockFree transition member rule condition
    simp [Question.isTimeless, free]

/-- Evaluators that are related answer the conditions of all transitions alike, each at its own
time, and are related afterwards.
-/
def Agree (situation : Situation) (related : Evaluator → Evaluator → Prop)
    (clock otherClock : Instant)
    : Prop :=
  ∀ transition ∈ situation.schema.transitions, ∀ rule ∈ transition.condition,
    ∀ {evaluator other}, related evaluator other →
      (evaluator.evaluate clock (situation.question rule)).1
        = (other.evaluate otherClock (situation.question rule)).1
      ∧ related (evaluator.evaluate clock (situation.question rule)).2
          (other.evaluate otherClock (situation.question rule)).2

theorem agree_eq (situation : Situation) (clock : Instant)
    : situation.Agree Eq clock clock := by
  rintro transition - rule - evaluator other rfl
  exact ⟨rfl, rfl⟩

/-- Interchangeable evaluators agree on conditions that were read or put together, at one time or
where time does not matter.
-/
theorem agree_interchangeable {situation : Situation} (built : situation.IsBuilt)
    {contexts : List Facts} (member : situation.context.facts ∈ contexts)
    {clock otherClock : Instant} (times : situation.IsTimeless ∨ clock = otherClock)
    : situation.Agree (Evaluator.InterchangeableOn contexts) clock otherClock := by
  rintro transition listed rule condition evaluator other ⟨truthful, truthful', setup⟩
  have ruleBuilt : (situation.question rule).rule.IsBuilt := built transition listed rule condition
  have asked : (situation.question rule).facts ∈ contexts := member
  have clocks (h : (situation.question rule).isTimeless = false) : clock = otherClock := by
    rcases times with timeless | same
    · cases h.symm.trans (timeless.question listed condition)
    · exact same
  have kept := Evaluator.sameSetup_evaluate clock (situation.question rule) evaluator
  have kept' := Evaluator.sameSetup_evaluate otherClock (situation.question rule) other
  refine ⟨?_, truthful.evaluate clock ruleBuilt asked,
    truthful'.evaluate otherClock ruleBuilt asked, ?_⟩
  · rw [truthful.evaluate_fst clock ruleBuilt asked,
      truthful'.evaluate_fst otherClock ruleBuilt asked]
    exact setup.answer_eq (situation.question rule) clocks
  · exact kept.trans (setup.trans kept'.symm)

end Navigation.Situation

namespace Navigator

variable {clock otherClock : Instant} {situation : Situation}

-----------------------------------------------------------------------------------------
-- Conditions
-----------------------------------------------------------------------------------------

theorem extends_conditionHolds (transition : Transition) (evaluator : Evaluator)
    : (conditionHolds clock situation transition evaluator).2.Extends evaluator := by
  unfold conditionHolds
  split
  · exact .refl evaluator
  · exact Evaluator.extends_evaluate clock _ evaluator

/-- A condition that was found to hold, or not to hold, is found so again later. -/
theorem conditionHolds_of_extends {transition : Transition} {evaluator later : Evaluator}
    {holds : Bool} (answered : (conditionHolds clock situation transition evaluator).1 = .ok holds)
    (h : later.Extends (conditionHolds clock situation transition evaluator).2)
    : (conditionHolds clock situation transition later).1 = .ok holds := by
  unfold conditionHolds at answered h ⊢
  split
  · rename_i none
    simpa only [none] using answered
  · rename_i rule some
    simp only [some] at answered h
    exact h.evaluate answered

theorem conditionHolds_agree {related : Evaluator → Evaluator → Prop}
    (agree : situation.Agree related clock otherClock) {transition : Transition}
    (member : transition ∈ situation.schema.transitions) {evaluator other : Evaluator}
    (h : related evaluator other)
    : (conditionHolds clock situation transition evaluator).1
        = (conditionHolds otherClock situation transition other).1
      ∧ related (conditionHolds clock situation transition evaluator).2
          (conditionHolds otherClock situation transition other).2 := by
  unfold conditionHolds
  split
  · exact ⟨rfl, h⟩
  · rename_i rule some
    exact agree transition member rule some h

-----------------------------------------------------------------------------------------
-- The first open transition
-----------------------------------------------------------------------------------------

theorem extends_firstOpen (transitions : List Transition) (evaluator : Evaluator)
    : (firstOpen clock situation transitions evaluator).2.Extends evaluator := by
  induction transitions generalizing evaluator with
  | nil => exact .refl evaluator
  | cons transition rest ih =>
      have asked : (conditionHolds clock situation transition evaluator).2.Extends evaluator :=
        extends_conditionHolds transition evaluator
      rw [firstOpen]
      split
      · rename_i error next answer
        rw [answer] at asked
        exact asked
      · rename_i holds next answer
        rw [answer] at asked
        split
        · exact asked
        · exact (ih next).trans asked

/-- The transition that was found to be the first open one is found again later. Witness: induction
on the transitions; the conditions in front of it, and its own, are answered as before.
-/
theorem firstOpen_of_extends {transitions : List Transition} {evaluator later : Evaluator}
    {found : Option Transition}
    (decided : (firstOpen clock situation transitions evaluator).1 = .ok found)
    (h : later.Extends (firstOpen clock situation transitions evaluator).2)
    : (firstOpen clock situation transitions later).1 = .ok found := by
  induction transitions generalizing evaluator later with
  | nil => exact decided
  | cons transition rest ih =>
      rw [firstOpen] at decided h ⊢
      cases asked : conditionHolds clock situation transition evaluator with
      | mk answer next =>
          cases answer with
          | error error =>
              simp only [asked] at decided
              cases decided
          | ok holds =>
              simp only [asked] at decided h
              have further : later.Extends next := by
                split at h
                · exact h
                · exact h.trans (extends_firstOpen rest next)
              have again : (conditionHolds clock situation transition later).1 = .ok holds :=
                conditionHolds_of_extends (by rw [asked]) (by rw [asked]; exact further)
              have grown : (conditionHolds clock situation transition later).2.Extends later :=
                extends_conditionHolds transition later
              cases askedAgain : conditionHolds clock situation transition later with
              | mk answer' next' =>
                  rw [askedAgain] at again grown
                  obtain rfl : answer' = .ok holds := again
                  dsimp only
                  split
                  · rename_i isOpen
                    rwa [if_pos isOpen] at decided
                  · rename_i isShut
                    rw [if_neg isShut] at decided h
                    exact ih decided (grown.trans h)

theorem firstOpen_agree {related : Evaluator → Evaluator → Prop}
    (agree : situation.Agree related clock otherClock) {transitions : List Transition}
    (sub : transitions ⊆ situation.schema.transitions) {evaluator other : Evaluator}
    (h : related evaluator other)
    : (firstOpen clock situation transitions evaluator).1
        = (firstOpen otherClock situation transitions other).1
      ∧ related (firstOpen clock situation transitions evaluator).2
          (firstOpen otherClock situation transitions other).2 := by
  induction transitions generalizing evaluator other with
  | nil => exact ⟨rfl, h⟩
  | cons transition rest ih =>
      rw [List.cons_subset] at sub
      obtain ⟨same, kept⟩ := conditionHolds_agree agree sub.1 h
      rw [firstOpen, firstOpen]
      cases asked : conditionHolds clock situation transition evaluator with
      | mk answer next =>
          cases askedToo : conditionHolds otherClock situation transition other with
          | mk answer' next' =>
              rw [asked, askedToo] at same kept
              obtain rfl : answer = answer' := same
              cases answer with
              | error error => exact ⟨rfl, kept⟩
              | ok holds =>
                  dsimp only
                  split
                  · exact ⟨rfl, kept⟩
                  · exact ih sub.2 kept

-----------------------------------------------------------------------------------------
-- Decisions
-----------------------------------------------------------------------------------------

/-- The later guide has the review steps of the earlier one, and its evaluator stands by all that
the evaluator of the earlier one remembers.
-/
structure Extends (later earlier : Navigator) : Prop where
  evaluator : later.visibility.evaluator.Extends earlier.visibility.evaluator
  reviewSteps : later.reviewSteps = earlier.reviewSteps

theorem Extends.refl (navigator : Navigator) : navigator.Extends navigator :=
  ⟨.refl _, rfl⟩

theorem Extends.trans {last later earlier : Navigator} (h : last.Extends later)
    (h' : later.Extends earlier)
    : last.Extends earlier :=
  ⟨h.evaluator.trans h'.evaluator, h.reviewSteps.trans h'.reviewSteps⟩

theorem endsAt_congr {navigator other : Navigator} (h : navigator.reviewSteps = other.reviewSteps)
    (step : String)
    : navigator.endsAt situation step = other.endsAt situation step := by
  simp only [endsAt, isReviewStep, h]

theorem extends_decision (step : String) (navigator : Navigator)
    : (navigator.decision clock situation step).2.Extends navigator := by
  unfold decision
  split
  · exact .refl navigator
  · dsimp only
    split
    · exact .refl navigator
    · exact ⟨extends_firstOpen _ _, rfl⟩

/-- A decision that was made is made again later. -/
theorem decision_of_extends {step : String} {navigator later : Navigator}
    {found : Option Transition}
    (decided : (navigator.decision clock situation step).1 = .ok found)
    (h : later.Extends (navigator.decision clock situation step).2)
    : (later.decision clock situation step).1 = .ok found := by
  have reviewSteps := h.reviewSteps.trans (extends_decision step navigator).reviewSteps
  unfold decision at decided h ⊢
  generalize (situation.schema.transitionsFrom step).partition Transition.isDefault = parts
    at decided h ⊢
  rw [endsAt_congr reviewSteps]
  split
  · rename_i ends
    rwa [if_pos ends] at decided
  · rename_i goesOn
    rw [if_neg goesOn] at decided h
    dsimp only at decided h ⊢
    split
    · rename_i many
      rwa [if_pos many] at decided
    · rename_i few
      rw [if_neg few] at decided h
      cases opened : (firstOpen clock situation parts.2 navigator.visibility.evaluator).1 with
      | error error =>
          rw [opened] at decided
          cases decided
      | ok transition =>
          rw [firstOpen_of_extends opened h.evaluator, ← opened]
          exact decided

/-- The guides have related evaluators and the same review steps. -/
structure Related (related : Evaluator → Evaluator → Prop) (navigator other : Navigator) : Prop where
  evaluator : related navigator.visibility.evaluator other.visibility.evaluator
  reviewSteps : navigator.reviewSteps = other.reviewSteps

theorem Related.on {navigator other : Navigator}
    (h : Related Evaluator.Interchangeable navigator other) (facts : Facts)
    : Related (Evaluator.InterchangeableOn [facts]) navigator other :=
  ⟨h.evaluator.on facts, h.reviewSteps⟩

theorem decision_agree {related : Evaluator → Evaluator → Prop}
    (agree : situation.Agree related clock otherClock) (step : String)
    {navigator other : Navigator} (h : Related related navigator other)
    : (navigator.decision clock situation step).1 = (other.decision otherClock situation step).1
      ∧ Related related (navigator.decision clock situation step).2
          (other.decision otherClock situation step).2 := by
  have sub : ((situation.schema.transitionsFrom step).partition Transition.isDefault).2
      ⊆ situation.schema.transitions := by
    intro transition member
    rw [List.partition_eq_filter_filter] at member
    exact List.mem_of_mem_filter (List.mem_of_mem_filter member)
  unfold decision
  generalize (situation.schema.transitionsFrom step).partition Transition.isDefault = parts
    at sub ⊢
  rw [endsAt_congr h.reviewSteps]
  split
  · exact ⟨rfl, h⟩
  · dsimp only
    split
    · exact ⟨rfl, h⟩
    · obtain ⟨same, kept⟩ := firstOpen_agree agree sub h.evaluator
      exact ⟨by rw [same], kept, h.reviewSteps⟩

-----------------------------------------------------------------------------------------
-- Moves
-----------------------------------------------------------------------------------------

/-- The step that a decision leads to is the target of its transition. -/
theorem next_fst (clock : Instant) (situation : Situation) (step : String) (navigator : Navigator)
    : (navigator.next clock situation step).1
      = (navigator.decision clock situation step).1.map (Option.map Transition.target) := by
  unfold next
  split <;> rename_i decided <;> simp [decided, Except.map]

/-- A move leaves the guide that its decision leaves, but for the history. -/
theorem related_next (clock : Instant) (situation : Situation) (step : String)
    (navigator : Navigator)
    : Related Eq (navigator.next clock situation step).2
        (navigator.decision clock situation step).2 := by
  unfold next
  split <;> rename_i decided <;> simp only [decided] <;> exact ⟨rfl, rfl⟩

theorem next_agree {related : Evaluator → Evaluator → Prop}
    (agree : situation.Agree related clock otherClock) (step : String)
    {navigator other : Navigator} (h : Related related navigator other)
    : (navigator.next clock situation step).1 = (other.next otherClock situation step).1
      ∧ Related related (navigator.next clock situation step).2
          (other.next otherClock situation step).2 := by
  obtain ⟨same, evaluator, reviewSteps⟩ := decision_agree agree step h
  obtain ⟨left, leftReviewSteps⟩ := related_next clock situation step navigator
  obtain ⟨left', leftReviewSteps'⟩ := related_next otherClock situation step other
  refine ⟨by rw [next_fst, next_fst, same], ?_, ?_⟩
  · rw [left, left']
    exact evaluator
  · rw [leftReviewSteps, leftReviewSteps']
    exact reviewSteps

theorem Related.extends {navigator other : Navigator} (h : Related Eq navigator other)
    : navigator.Extends other := by
  refine ⟨?_, h.reviewSteps⟩
  rw [h.evaluator]
  exact .refl _

theorem extends_next (step : String) (navigator : Navigator)
    : (navigator.next clock situation step).2.Extends navigator :=
  (related_next clock situation step navigator).extends.trans (extends_decision step navigator)

/-- The other step is the next one if the move would lead there. -/
theorem canMove_fst (clock : Instant) (situation : Situation) (source target : String)
    (navigator : Navigator)
    : (navigator.canMove clock situation source target).1
      = (navigator.next clock situation source).1.map fun next => next == some target := by
  have moved : (navigator.canMove clock situation source target).1
      = (navigator.decision clock situation source).1.map
          fun found => found.any (·.target = target) := rfl
  rw [next_fst, moved]
  cases (navigator.decision clock situation source).1 with
  | error error => rfl
  | ok found => cases found <;> simp [Except.map, beq_eq_decide]

end Navigator

end FormWizard
