import FormWizard.Proofs.Navigation.Decisions

/-! Journeys through a form: the decision on where to go next, made over and over. A journey that
comes back to a step goes round from there on, whether its transitions allow it or not: it sees no
further step, it does not end, and no decision fails.
-/

namespace FormWizard.Navigation

open Calendar (Instant)
open Navigator (Related)
open Rule (Evaluator)

/-- A journey: the step it starts at, when and where it takes place, and the guide at its start. -/
structure Journey where
  start : String
  clock : Instant
  situation : Situation
  navigator : Navigator

namespace Journey

/-- The step after some moves, and the guide then. There is no step if the way has ended before, and
an error remains if a decision has failed.
-/
def after (journey : Journey) : (moves : Nat) → Except Error (Option String) × Navigator
  | 0 => (.ok (some journey.start), journey.navigator)
  | moves + 1 =>
    match journey.after moves with
    | (.ok (some step), navigator) => navigator.next journey.clock journey.situation step
    | stopped => stopped

/-- After some moves, the journey is at a step. -/
def IsAt (journey : Journey) (moves : Nat) (step : String) : Prop :=
  (journey.after moves).1 = .ok (some step)

/-- After some moves, the journey is at the goal for the first time. -/
structure Arrives (journey : Journey) (goal : String) (moves : Nat) : Prop where
  arrived : journey.IsAt moves goal
  first : ∀ fewer < moves, ¬ journey.IsAt fewer goal

/-- After some moves, the decision on the next one fails. -/
def FailsAt (journey : Journey) (moves : Nat) (error : Error) : Prop :=
  ∃ step, journey.IsAt moves step ∧ (journey.after (moves + 1)).1 = .error error

/-- After some moves, the next one comes back to a step, along a transition that does not allow it.
-/
def TurnsBack (journey : Journey) (moves : Nat) : Prop :=
  ∃ step transition, journey.IsAt moves step
    ∧ ((journey.after moves).2.decision journey.clock journey.situation step).1
      = .ok (some transition)
    ∧ transition.allowCycle = false
    ∧ ∃ earlier ≤ moves, journey.IsAt earlier transition.target

/-- The steps of the journey from its start up to some number of moves. -/
structure IsTrail (journey : Journey) (steps : List String) (moves : Nat) : Prop where
  length : steps.length = moves + 1
  found : ∀ fewer ≤ moves, (journey.after fewer).1 = .ok steps[fewer]?

variable {journey other : Journey}

-----------------------------------------------------------------------------------------
-- One move more
-----------------------------------------------------------------------------------------

theorem after_succ {moves : Nat} {step : String} (h : journey.IsAt moves step)
    : journey.after (moves + 1)
      = (journey.after moves).2.next journey.clock journey.situation step := by
  rw [after]
  cases reached : journey.after moves with
  | mk answer navigator =>
      rw [IsAt, reached] at h
      obtain rfl : answer = .ok (some step) := h
      rfl

/-- A guide like the one of the journey makes its next move, and leaves a guide like the next one.
-/
theorem after_succ_of_related {moves : Nat} {step : String} (h : journey.IsAt moves step)
    {navigator : Navigator} (guide : Related Eq navigator (journey.after moves).2)
    : (journey.after (moves + 1)).1
        = (navigator.decision journey.clock journey.situation step).1.map
            (Option.map Schema.Transition.target)
      ∧ Related Eq (navigator.decision journey.clock journey.situation step).2
          (journey.after (moves + 1)).2 := by
  obtain ⟨same, evaluator, reviewSteps⟩ := Navigator.decision_agree
    (journey.situation.agree_eq journey.clock) step guide
  obtain ⟨evaluator', reviewSteps'⟩ := Navigator.related_next journey.clock journey.situation step
    (journey.after moves).2
  rw [after_succ h]
  refine ⟨?_, evaluator.trans evaluator'.symm, reviewSteps.trans reviewSteps'.symm⟩
  rw [Navigator.next_fst, same]

theorem after_of_stopped {moves later : Nat} (stopped : ∀ step, ¬ journey.IsAt moves step)
    (h : moves ≤ later)
    : journey.after later = journey.after moves := by
  induction later, h using Nat.le_induction with
  | base => rfl
  | succ later _ ih =>
      rw [after]
      split
      · rename_i step navigator reached
        exact absurd (by rw [IsAt, ← ih, reached]) (stopped step)
      · exact ih

theorem IsAt.unique {moves : Nat} {step step' : String} (h : journey.IsAt moves step)
    (h' : journey.IsAt moves step')
    : step = step' := by
  cases h.symm.trans h'
  rfl

theorem IsAt.exists_earlier {moves fewer : Nat} {step : String} (h : journey.IsAt moves step)
    (le : fewer ≤ moves)
    : ∃ earlier, journey.IsAt fewer earlier := by
  by_contra none
  rw [not_exists] at none
  rw [IsAt, after_of_stopped none le] at h
  exact none step h

theorem extends_after {moves later : Nat} (h : moves ≤ later)
    : (journey.after later).2.Extends (journey.after moves).2 := by
  induction later, h using Nat.le_induction with
  | base => exact .refl _
  | succ later _ ih =>
      by_cases stopped : ∃ step, journey.IsAt later step
      · obtain ⟨step, reached⟩ := stopped
        rw [after_succ reached]
        exact (Navigator.extends_next step _).trans ih
      · rw [after_of_stopped (not_exists.mp stopped) (Nat.le_succ later)]
        exact ih

-----------------------------------------------------------------------------------------
-- Going round
-----------------------------------------------------------------------------------------

/-- What was decided at a step is decided there again, by any guide who stands by the decision. -/
theorem IsAt.next_of_extends {moves : Nat} {step : String} (h : journey.IsAt moves step)
    {next : Option String} (decided : (journey.after (moves + 1)).1 = .ok next) {guide : Navigator}
    (grown : guide.Extends (journey.after (moves + 1)).2)
    : (guide.next journey.clock journey.situation step).1 = .ok next := by
  rw [after_succ h] at decided grown
  rw [Navigator.next_fst] at decided
  cases found : ((journey.after moves).2.decision journey.clock journey.situation step).1 with
  | error error =>
      rw [found] at decided
      cases decided
  | ok transition =>
      have left := Navigator.related_next journey.clock journey.situation step
        (journey.after moves).2
      rw [Navigator.next_fst, Navigator.decision_of_extends found (grown.trans left.extends),
        ← found]
      exact decided

theorem IsAt.after_succ_eq {earlier later : Nat} {step : String} (h : journey.IsAt earlier step)
    (h' : journey.IsAt later step) (lt : earlier < later) {next : Option String}
    (decided : (journey.after (earlier + 1)).1 = .ok next)
    : (journey.after (later + 1)).1 = .ok next := by
  rw [after_succ h']
  exact h.next_of_extends decided (extends_after lt)

/-- A journey that comes back to a step sees no other steps than up to then. Witness: induction on
the moves; a step at which the journey was before leads on as it did then, and the step it came back
to as at its first visit.
-/
theorem IsAt.goes_round {earlier later : Nat} {step : String} (h : journey.IsAt earlier step)
    (h' : journey.IsAt later step) (lt : earlier < later) (moves : Nat)
    : ∃ before < later, ∃ reached, before ≤ moves ∧ journey.IsAt before reached
      ∧ journey.IsAt moves reached := by
  induction moves with
  | zero => exact ⟨0, by omega, journey.start, le_rfl, rfl, rfl⟩
  | succ moves ih =>
      obtain ⟨before, ltLater, reached, le, atBefore, atMoves⟩ := ih
      obtain ⟨next, atNext⟩ : ∃ next, journey.IsAt (before + 1) next :=
        h'.exists_earlier ltLater
      have atSucc : journey.IsAt (moves + 1) next := by
        rcases le.eq_or_lt with rfl | fewer
        · exact atNext
        · exact atBefore.after_succ_eq atMoves fewer atNext
      rcases Nat.lt_or_ge (before + 1) later with stillBefore | back
      · exact ⟨before + 1, stillBefore, next, by omega, atNext, atSucc⟩
      · obtain rfl : before + 1 = later := by omega
        obtain rfl := atNext.unique h'
        exact ⟨earlier, lt, next, by omega, h, atSucc⟩

theorem IsAt.never_elsewhere {earlier later : Nat} {step goal : String}
    (h : journey.IsAt earlier step) (h' : journey.IsAt later step) (lt : earlier < later)
    (missed : ∀ fewer < later, ¬ journey.IsAt fewer goal) (moves : Nat)
    : ¬ journey.IsAt moves goal := by
  intro arrived
  obtain ⟨before, ltLater, reached, -, atBefore, atMoves⟩ := h.goes_round h' lt moves
  obtain rfl := atMoves.unique arrived
  exact missed before ltLater atBefore

-----------------------------------------------------------------------------------------
-- Arrival and failure
-----------------------------------------------------------------------------------------

theorem Arrives.unique {goal : String} {moves moves' : Nat} (h : journey.Arrives goal moves)
    (h' : journey.Arrives goal moves')
    : moves = moves' := by
  rcases Nat.lt_trichotomy moves moves' with fewer | same | more
  · exact absurd h.arrived (h'.first moves fewer)
  · exact same
  · exact absurd h'.arrived (h.first moves' more)

theorem FailsAt.after_eq {moves later : Nat} {error : Error} (h : journey.FailsAt moves error)
    (lt : moves < later)
    : (journey.after later).1 = .error error := by
  obtain ⟨step, -, failed⟩ := h
  have stopped (next : String) : ¬ journey.IsAt (moves + 1) next := by
    intro reached
    cases failed.symm.trans reached
  rw [after_of_stopped stopped lt]
  exact failed

theorem FailsAt.not_isAt {moves later : Nat} {error : Error} (h : journey.FailsAt moves error)
    (lt : moves < later) (step : String)
    : ¬ journey.IsAt later step := by
  intro reached
  cases (h.after_eq lt).symm.trans reached

theorem FailsAt.unique {moves moves' : Nat} {error error' : Error}
    (h : journey.FailsAt moves error) (h' : journey.FailsAt moves' error')
    : error = error' := by
  have failed : (journey.after (max moves moves' + 1)).1 = .error error :=
    h.after_eq (by omega)
  have failed' : (journey.after (max moves moves' + 1)).1 = .error error' :=
    h'.after_eq (by omega)
  cases failed.symm.trans failed'
  rfl

/-- A journey that comes back to a step does not fail. -/
theorem IsAt.not_failsAt {earlier later moves : Nat} {step : String}
    (h : journey.IsAt earlier step) (h' : journey.IsAt later step) (lt : earlier < later)
    (error : Error)
    : ¬ journey.FailsAt moves error := by
  intro failed
  obtain ⟨-, -, reached, -, -, atSucc⟩ := h.goes_round h' lt (moves + 1)
  exact failed.not_isAt (Nat.lt_succ_self moves) reached atSucc

theorem TurnsBack.isAt_succ {moves : Nat} (h : journey.TurnsBack moves)
    : ∃ step, ∃ earlier ≤ moves, journey.IsAt earlier step ∧ journey.IsAt (moves + 1) step := by
  obtain ⟨step, transition, reached, decided, -, earlier, le, atEarlier⟩ := h
  refine ⟨transition.target, earlier, le, atEarlier, ?_⟩
  rw [IsAt, after_succ reached, Navigator.next_fst, decided]
  rfl

theorem FailsAt.not_turnsBack {moves back : Nat} {error : Error} (h : journey.FailsAt moves error)
    : ¬ journey.TurnsBack back := by
  intro turned
  obtain ⟨step, earlier, le, atEarlier, atSucc⟩ := turned.isAt_succ
  exact atEarlier.not_failsAt atSucc (Nat.lt_succ_of_le le) error h

-----------------------------------------------------------------------------------------
-- Trails
-----------------------------------------------------------------------------------------

namespace IsTrail

variable {steps : List String} {moves : Nat}

theorem isAt (h : journey.IsTrail steps moves) {fewer : Nat} (lt : fewer < steps.length)
    : journey.IsAt fewer steps[fewer] := by
  rw [IsAt, h.found fewer (by rw [h.length] at lt; omega), List.getElem?_eq_getElem lt]

theorem isAt_last {step : String} {before : List String}
    (h : journey.IsTrail (step :: before).reverse moves)
    : journey.IsAt moves step := by
  obtain rfl : before.reverse.length = moves := by simpa using h.length
  have found := h.found before.reverse.length le_rfl
  rwa [List.reverse_cons, List.getElem?_concat_length] at found

theorem mem_iff (h : journey.IsTrail steps moves) {step : String}
    : step ∈ steps ↔ ∃ earlier ≤ moves, journey.IsAt earlier step := by
  constructor
  · intro member
    obtain ⟨earlier, lt, rfl⟩ := List.mem_iff_getElem.mp member
    exact ⟨earlier, by rw [h.length] at lt; omega, h.isAt lt⟩
  · rintro ⟨earlier, le, reached⟩
    have lt : earlier < steps.length := by
      rw [h.length]
      omega
    rw [reached.unique (h.isAt lt)]
    exact List.getElem_mem lt

theorem unique {steps' : List String} (h : journey.IsTrail steps moves)
    (h' : journey.IsTrail steps' moves)
    : steps = steps' := by
  apply List.ext_getElem (h.length.trans h'.length.symm)
  intro fewer lt lt'
  exact (h.isAt lt).unique (h'.isAt lt')

theorem start (journey : Journey)
    : journey.IsTrail [journey.start] 0 := by
  refine ⟨rfl, ?_⟩
  intro fewer le
  obtain rfl : fewer = 0 := by omega
  rfl

theorem concat (h : journey.IsTrail steps moves) {next : String}
    (reached : journey.IsAt (moves + 1) next)
    : journey.IsTrail (steps ++ [next]) (moves + 1) := by
  refine ⟨by simp [h.length], ?_⟩
  intro fewer le
  rcases le.eq_or_lt with rfl | lt
  · rw [← h.length, List.getElem?_concat_length, h.length]
    exact reached
  · rw [List.getElem?_append_left (by rw [h.length]; exact lt)]
    exact h.found fewer (by omega)

/-- No step is seen twice on the way to the first arrival at a goal. -/
theorem nodup (h : journey.IsTrail steps moves) {goal : String}
    (arrives : journey.Arrives goal moves)
    : steps.Nodup := by
  rw [List.Nodup, List.pairwise_iff_getElem]
  intro earlier later ltLength ltLength' lt same
  have back := h.isAt ltLength'
  rw [← same] at back
  refine (h.isAt ltLength).never_elsewhere back lt ?_ moves arrives.arrived
  intro fewer ltLater
  exact arrives.first fewer (by rw [h.length] at ltLength'; omega)

end IsTrail

-----------------------------------------------------------------------------------------
-- Journeys the same way
-----------------------------------------------------------------------------------------

/-- The journeys are at the same steps, and stop alike. -/
def SameWay (journey other : Journey) : Prop :=
  ∀ moves, (journey.after moves).1 = (other.after moves).1

theorem SameWay.symm (h : journey.SameWay other) : other.SameWay journey := by
  intro moves
  exact (h moves).symm

theorem SameWay.isAt_iff (h : journey.SameWay other) {moves : Nat} {step : String}
    : journey.IsAt moves step ↔ other.IsAt moves step := by
  rw [IsAt, IsAt, h moves]

theorem Arrives.congr {goal : String} {moves : Nat} (arrives : journey.Arrives goal moves)
    (h : journey.SameWay other)
    : other.Arrives goal moves := by
  refine ⟨h.isAt_iff.mp arrives.arrived, ?_⟩
  intro fewer lt arrived
  exact arrives.first fewer lt (h.isAt_iff.mpr arrived)

theorem FailsAt.congr {moves : Nat} {error : Error} (fails : journey.FailsAt moves error)
    (h : journey.SameWay other)
    : other.FailsAt moves error := by
  obtain ⟨step, reached, failed⟩ := fails
  exact ⟨step, h.isAt_iff.mp reached, (h (moves + 1)).symm.trans failed⟩

theorem IsTrail.congr {steps : List String} {moves : Nat} (trail : journey.IsTrail steps moves)
    (h : journey.SameWay other)
    : other.IsTrail steps moves := by
  refine ⟨trail.length, ?_⟩
  intro fewer le
  rw [← h fewer]
  exact trail.found fewer le

-----------------------------------------------------------------------------------------
-- Other guides
-----------------------------------------------------------------------------------------

theorem after_agree {related : Evaluator → Evaluator → Prop} {clock : Instant}
    (agree : journey.situation.Agree related journey.clock clock) {navigator : Navigator}
    (h : Related related journey.navigator navigator) (moves : Nat)
    : (journey.after moves).1 = (Journey.after { journey with clock, navigator } moves).1
      ∧ Related related (journey.after moves).2
          (Journey.after { journey with clock, navigator } moves).2 := by
  induction moves with
  | zero => exact ⟨rfl, h⟩
  | succ moves ih =>
      rw [after, after]
      cases reached : journey.after moves with
      | mk answer guide =>
          cases reached' : Journey.after { journey with clock, navigator } moves with
          | mk answer' guide' =>
              rw [reached, reached'] at ih
              obtain ⟨same, kept⟩ := ih
              obtain rfl : answer = answer' := same
              rcases answer with error | _ | step
              · exact ⟨rfl, kept⟩
              · exact ⟨rfl, kept⟩
              · exact Navigator.next_agree agree step kept

/-- A guide that shares neither the memory nor the clock with the guide of the journey moves on from
its steps as that one does.
-/
theorem next_interchangeable {clock : Instant} (built : journey.situation.IsBuilt)
    (times : journey.situation.IsTimeless ∨ journey.clock = clock) {navigator : Navigator}
    (h : Related Evaluator.Interchangeable journey.navigator navigator) {moves : Nat}
    {step : String} (reached : journey.IsAt moves step)
    : (navigator.next clock journey.situation step).1 = (journey.after (moves + 1)).1 := by
  have agree : journey.situation.Agree
      (Evaluator.InterchangeableOn [journey.situation.context.facts]) journey.clock clock :=
    Situation.agree_interchangeable built List.mem_cons_self times
  replace h := h.on journey.situation.context.facts
  have kept := (after_agree agree h moves).2
  have grown : (journey.after moves).2.Extends journey.navigator := extends_after (Nat.zero_le moves)
  have guides : Related (Evaluator.InterchangeableOn [journey.situation.context.facts])
      (journey.after moves).2 navigator :=
    ⟨⟨kept.evaluator.truthful, h.evaluator.truthful',
      grown.evaluator.setup.trans h.evaluator.setup⟩, grown.reviewSteps.trans h.reviewSteps⟩
  rw [after_succ reached]
  exact (Navigator.next_agree agree step guides).1.symm

end Journey

end FormWizard.Navigation
