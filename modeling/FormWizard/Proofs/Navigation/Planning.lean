import FormWizard.Proofs.Navigation.Journeys

/-! A planned path is the trail of a journey. It leads to the first arrival at the goal within the
bound; without one, planning fails where the journey fails, and is empty otherwise.
-/

namespace FormWizard

open Calendar (Instant)
open Navigation (Error Journey Situation)
open Rule (Evaluator)

namespace Navigation.Journey

/-- What planning finds out about a journey: the trail to the first arrival at the goal, together
with a guide who stands by the decisions on the way; or, if there is no arrival within the bound,
the error of the first failure; or nothing if there is no failure either.
-/
inductive Planned (journey : Journey) (goal : String) (bound : Nat)
    : Except Error (List String) × Navigator → Prop where
  | arrival {hops : Nat} {steps : List String} {navigator : Navigator}
      (within : hops ≤ bound) (arrives : journey.Arrives goal hops)
      (trail : journey.IsTrail steps hops) (left : navigator.Extends (journey.after hops).2)
      : Planned journey goal bound (.ok steps, navigator)
  | failure {moves : Nat} {error : Error} {navigator : Navigator}
      (missed : ∀ hops ≤ bound, ¬ journey.IsAt hops goal) (within : moves < bound)
      (fails : journey.FailsAt moves error)
      : Planned journey goal bound (.error error, navigator)
  | nowhere {navigator : Navigator}
      (missed : ∀ hops ≤ bound, ¬ journey.IsAt hops goal)
      (succeeds : ∀ moves < bound, ∀ error, ¬ journey.FailsAt moves error)
      : Planned journey goal bound (.ok [], navigator)

variable {journey : Journey} {goal : String}

-----------------------------------------------------------------------------------------
-- The walk
-----------------------------------------------------------------------------------------

theorem planned_of_failure {bound taken : Nat} {error : Error} (within : taken < bound)
    (fails : journey.FailsAt taken error) (missed : ∀ hops ≤ taken, ¬ journey.IsAt hops goal)
    (navigator : Navigator)
    : journey.Planned goal bound (.error error, navigator) := by
  refine .failure ?_ within fails
  intro hops _
  rcases Nat.lt_or_ge taken hops with later | earlier
  · exact fails.not_isAt later goal
  · exact missed hops earlier

theorem planned_of_end {bound taken : Nat} {step : String} (here : journey.IsAt taken step)
    (ended : (journey.after (taken + 1)).1 = .ok none)
    (missed : ∀ hops ≤ taken, ¬ journey.IsAt hops goal) (navigator : Navigator)
    : journey.Planned goal bound (.ok [], navigator) := by
  have beyond {later : Nat} (lt : taken < later) : (journey.after later).1 = .ok none := by
    have stopped (next : String) : ¬ journey.IsAt (taken + 1) next := by
      intro reached
      cases ended.symm.trans reached
    rw [after_of_stopped stopped lt]
    exact ended
  refine .nowhere ?_ ?_
  · intro hops _ arrived
    rcases Nat.lt_or_ge taken hops with later | within
    · cases (beyond later).symm.trans arrived
    · exact missed hops within arrived
  · intro moves _ error fails
    rcases Nat.lt_or_ge moves taken with earlier | later
    · exact fails.not_isAt earlier step here
    · cases (beyond (Nat.lt_succ_of_le later)).symm.trans (fails.after_eq (Nat.lt_succ_self moves))

theorem planned_of_return {bound earlier later : Nat} {step : String}
    (h : journey.IsAt earlier step) (h' : journey.IsAt later step) (lt : earlier < later)
    (missed : ∀ hops < later, ¬ journey.IsAt hops goal) (navigator : Navigator)
    : journey.Planned goal bound (.ok [], navigator) := by
  refine .nowhere ?_ ?_
  · intro hops _
    exact h.never_elsewhere h' lt missed hops
  · intro moves _ error
    exact h.not_failsAt h' lt error

/-- A walk that has gone along a journey for some moves goes on along it. Witness: induction on the
moves that are left; the exits of the walk are the arrival, the failure, the end of the way, and the
step that was seen before, from where on the journey goes round.
-/
theorem planned_walk {moves taken : Nat} {step : String} {before : List String}
    {navigator : Navigator} (trail : journey.IsTrail (step :: before).reverse taken)
    (guide : Navigator.Related Eq navigator (journey.after taken).2)
    (missed : ∀ hops ≤ taken, ¬ journey.IsAt hops goal)
    : journey.Planned goal (taken + moves)
        (navigator.walk journey.clock journey.situation goal moves step before) := by
  induction moves generalizing taken step before navigator with
  | zero =>
      refine .nowhere missed ?_
      intro moves lt error failed
      exact failed.not_isAt lt step trail.isAt_last
  | succ moves ih =>
      have here : journey.IsAt taken step := trail.isAt_last
      have missedBefore (hops : Nat) (lt : hops < taken + 1) : ¬ journey.IsAt hops goal :=
        missed hops (Nat.le_of_lt_succ lt)
      obtain ⟨next, left⟩ := after_succ_of_related here guide
      rw [Navigator.walk]
      cases decided : navigator.decision journey.clock journey.situation step with
      | mk answer navigator' =>
          rw [decided] at next left
          rcases answer with error | _ | transition
          · exact planned_of_failure (Nat.lt_add_of_pos_right (Nat.succ_pos moves))
              ⟨step, here, next⟩ missed _
          · exact planned_of_end here next missed _
          · have there : journey.IsAt (taken + 1) transition.target := next
            have onward : journey.IsTrail (transition.target :: step :: before).reverse
                (taken + 1) := by
              rw [List.reverse_cons]
              exact trail.concat there
            dsimp only
            split
            · rename_i back
              obtain ⟨earlier, le, seen⟩ := trail.mem_iff.mp (List.mem_reverse.mpr back.1)
              exact planned_of_return seen there (Nat.lt_succ_of_le le) missedBefore _
            · split
              · rename_i found
                exact .arrival (by omega) ⟨found ▸ there, missedBefore⟩ onward left.extends
              · rename_i other
                rw [show taken + (moves + 1) = taken + 1 + moves by omega]
                -- A step seen before, along a transition that allows it, is walked on from as any
                -- other: that the journey goes round then only shows in the induction hypothesis.
                refine ih onward left ?_
                intro hops le arrived
                rcases le.eq_or_lt with rfl | lt
                · exact other (there.unique arrived)
                · exact missedBefore hops lt arrived

-----------------------------------------------------------------------------------------
-- The plan
-----------------------------------------------------------------------------------------

/-- The path that the guide of the journey plans from its start to a goal. -/
def plan (journey : Journey) (goal : String) (maxSteps : Option Nat)
    : Except Error (List String) × Navigator :=
  journey.navigator.path journey.clock journey.situation journey.start goal maxSteps

/-- The moves that a plan may take. -/
def bound (journey : Journey) (maxSteps : Option Nat) : Nat :=
  maxSteps.getD journey.navigator.maxPathSteps

theorem planned_plan (journey : Journey) (goal : String) (maxSteps : Option Nat)
    : journey.Planned goal (journey.bound maxSteps) (journey.plan goal maxSteps) := by
  have first (fewer : Nat) (le : fewer ≤ 0) : journey.IsAt fewer journey.start := by
    obtain rfl : fewer = 0 := by omega
    rfl
  rw [plan, Navigator.path]
  split
  · rename_i found
    refine .arrival (Nat.zero_le _) ⟨found ▸ rfl, by omega⟩ (.start journey) (.refl _)
  · rename_i other
    rw [← Nat.zero_add (journey.bound maxSteps)]
    refine planned_walk (.start journey) ⟨rfl, rfl⟩ ?_
    intro hops le arrived
    exact other ((first hops le).unique arrived)

/-- Planning finds out one thing only. -/
theorem Planned.unique {other : Journey} (same : journey.SameWay other) {bound : Nat}
    {plan plan' : Except Error (List String) × Navigator}
    (h : journey.Planned goal bound plan) (h' : other.Planned goal bound plan')
    : plan.1 = plan'.1 := by
  cases h with
  | arrival within arrives trail left =>
      cases h' with
      | arrival within' arrives' trail' left' =>
          obtain rfl := (arrives.congr same).unique arrives'
          rw [(trail.congr same).unique trail']
      | failure missed' within' fails' =>
          exact absurd (arrives.congr same).arrived (missed' _ within)
      | nowhere missed' succeeds' =>
          exact absurd (arrives.congr same).arrived (missed' _ within)
  | failure missed within fails =>
      cases h' with
      | arrival within' arrives' trail' left' =>
          exact absurd (arrives'.congr same.symm).arrived (missed _ within')
      | failure missed' within' fails' =>
          rw [(fails.congr same).unique fails']
      | nowhere missed' succeeds' =>
          exact absurd (fails.congr same) (succeeds' _ within _)
  | nowhere missed succeeds =>
      cases h' with
      | arrival within' arrives' trail' left' =>
          exact absurd (arrives'.congr same.symm).arrived (missed _ within')
      | failure missed' within' fails' =>
          exact absurd (fails'.congr same.symm) (succeeds _ within' _)
      | nowhere missed' succeeds' => rfl

theorem Planned.of_arrives {bound hops : Nat} {plan : Except Error (List String) × Navigator}
    (h : journey.Planned goal bound plan) (arrives : journey.Arrives goal hops)
    (within : hops ≤ bound)
    : ∃ steps, plan.1 = .ok steps ∧ journey.IsTrail steps hops
      ∧ plan.2.Extends (journey.after hops).2 := by
  cases h with
  | arrival within' arrives' trail left =>
      obtain rfl := arrives.unique arrives'
      exact ⟨_, rfl, trail, left⟩
  | failure missed within' fails => exact absurd arrives.arrived (missed hops within)
  | nowhere missed succeeds => exact absurd arrives.arrived (missed hops within)

theorem Planned.of_steps {bound : Nat} {plan : Except Error (List String) × Navigator}
    (h : journey.Planned goal bound plan) {steps : List String} (found : plan.1 = .ok steps)
    (nonempty : steps ≠ [])
    : ∃ hops ≤ bound, journey.Arrives goal hops ∧ journey.IsTrail steps hops := by
  cases h with
  | arrival within arrives trail left =>
      cases found
      exact ⟨_, within, arrives, trail⟩
  | failure missed within fails => cases found
  | nowhere missed succeeds =>
      cases found
      exact absurd rfl nonempty

theorem Planned.error_iff {bound : Nat} {plan : Except Error (List String) × Navigator}
    (h : journey.Planned goal bound plan)
    (missed : ∀ hops ≤ bound, ¬ journey.Arrives goal hops) (error : Error)
    : plan.1 = .error error ↔ ∃ moves < bound, journey.FailsAt moves error := by
  cases h with
  | arrival within arrives trail left => exact absurd arrives (missed _ within)
  | failure missed' within fails =>
      constructor
      · intro failed
        cases failed
        exact ⟨_, within, fails⟩
      · rintro ⟨moves, _, fails'⟩
        rw [fails.unique fails']
  | nowhere missed' succeeds =>
      constructor
      · intro failed
        cases failed
      · rintro ⟨moves, within, fails⟩
        exact absurd fails (succeeds moves within error)

theorem Planned.eq_nil {bound : Nat} {plan : Except Error (List String) × Navigator}
    (h : journey.Planned goal bound plan)
    (missed : ∀ hops ≤ bound, ¬ journey.Arrives goal hops)
    (succeeds : ∀ error, plan.1 ≠ .error error)
    : plan.1 = .ok [] := by
  cases h with
  | arrival within arrives trail left => exact absurd arrives (missed _ within)
  | failure missed' within fails => exact absurd rfl (succeeds _)
  | nowhere missed' succeeds' => rfl

/-- A guide who stands by the decisions on the way confirms each move of the trail. -/
theorem IsTrail.canMove {steps : List String} {hops : Nat} (trail : journey.IsTrail steps hops)
    {guide : Navigator} (grown : guide.Extends (journey.after hops).2)
    : steps.IsChain fun source target =>
        (guide.canMove journey.clock journey.situation source target).1 = .ok true := by
  rw [List.isChain_iff_getElem]
  intro moves lt
  have decided := trail.isAt lt
  have stands : guide.Extends (journey.after (moves + 1)).2 :=
    grown.trans (extends_after (by rw [trail.length] at lt; omega))
  rw [Navigator.canMove_fst, (trail.isAt (by omega)).next_of_extends decided stands]
  simp [Except.map]

/-- Planning is bounded iteration of the decision on where to go next. A journey that first arrives
within the bound is planned as its trail, and each move of the trail can be made later on; without
an arrival, planning fails where a decision fails before the bound, and finds nothing otherwise.
Larger bounds keep a path, and bounds below its number of moves find none. None of it depends on
what the guide remembers or, where no condition looks at it, on the clock.
-/
theorem plan_exact (journey : Journey) (goal : String) (maxSteps : Option Nat)
    : (∀ hops ≤ journey.bound maxSteps, journey.Arrives goal hops →
        ∃ steps, (journey.plan goal maxSteps).1 = .ok steps ∧ journey.IsTrail steps hops
          ∧ steps.length ≤ journey.bound maxSteps + 1
          ∧ ∀ later : Navigator, later.Extends (journey.plan goal maxSteps).2 →
              steps.IsChain fun source target =>
                (later.canMove journey.clock journey.situation source target).1 = .ok true)
      ∧ ((∀ hops ≤ journey.bound maxSteps, ¬ journey.Arrives goal hops) →
          (∀ error, (journey.plan goal maxSteps).1 = .error error
            ↔ ∃ moves < journey.bound maxSteps, journey.FailsAt moves error
                ∧ ∀ earlier < moves, ¬ journey.TurnsBack earlier)
          ∧ ((∀ error, (journey.plan goal maxSteps).1 ≠ .error error) →
              (journey.plan goal maxSteps).1 = .ok []))
      ∧ (∀ steps ≠ [], (journey.plan goal maxSteps).1 = .ok steps → ∀ other,
          (journey.bound maxSteps ≤ journey.bound other → (journey.plan goal other).1 = .ok steps)
          ∧ (journey.bound other + 1 < steps.length → (journey.plan goal other).1 = .ok []))
      ∧ (journey.situation.IsBuilt → ∀ (clock : Instant) (guide : Navigator),
          journey.situation.IsTimeless ∨ journey.clock = clock →
          Navigator.Related Evaluator.Interchangeable journey.navigator guide →
          ∀ moves step, journey.IsAt moves step →
            (guide.next clock journey.situation step).1 = (journey.after (moves + 1)).1
            ∧ ∀ target, (guide.canMove clock journey.situation step target).1
                = (journey.after (moves + 1)).1.map fun next => next == some target) := by
  have planned := planned_plan journey goal
  refine ⟨?_, ?_, ?_, ?_⟩
  · intro hops within arrives
    obtain ⟨steps, found, trail, left⟩ := (planned maxSteps).of_arrives arrives within
    refine ⟨steps, found, trail, by rw [trail.length]; omega, ?_⟩
    intro later grown
    exact trail.canMove (grown.trans left)
  · intro missed
    refine ⟨?_, (planned maxSteps).eq_nil missed⟩
    intro error
    rw [(planned maxSteps).error_iff missed]
    constructor
    · rintro ⟨moves, within, fails⟩
      exact ⟨moves, within, fails, fun earlier _ => fails.not_turnsBack⟩
    · rintro ⟨moves, within, fails, -⟩
      exact ⟨moves, within, fails⟩
  · intro steps nonempty found other
    obtain ⟨hops, within, arrives, trail⟩ := (planned maxSteps).of_steps found nonempty
    constructor
    · intro larger
      obtain ⟨steps', found', trail', -⟩ := (planned other).of_arrives arrives (within.trans larger)
      rw [trail.unique trail']
      exact found'
    · intro smaller
      rw [trail.length] at smaller
      have missed (fewer : Nat) (le : fewer ≤ journey.bound other)
          : ¬ journey.Arrives goal fewer := by
        intro arrives'
        obtain rfl := arrives.unique arrives'
        omega
      apply (planned other).eq_nil missed
      intro error failed
      obtain ⟨moves, lt, fails⟩ := ((planned other).error_iff missed error).mp failed
      exact fails.not_isAt (by omega) goal arrives.arrived
  · intro built clock guide times guides moves step reached
    have moved := next_interchangeable built times guides reached
    refine ⟨moved, ?_⟩
    intro target
    rw [Navigator.canMove_fst, moved]

/-- A form that asks until the answer is confirmed. -/
def confirmation (allowCycle : Bool) : Schema where
  id := "confirmation"
  steps := [{ id := "ask" }, { id := "confirm" }, { id := "finish" }]
  transitions := [
    { source := "ask", target := "confirm", isDefault := true },
    { source := "confirm", target := "ask", allowCycle,
      condition := some (.compare .neq (.string "$.confirmed") (.bool true)) },
    { source := "confirm", target := "finish", isDefault := true }]

/-- The journey through the form from its first step, with an answer. -/
def confirming (confirmed : Bool) : Journey where
  start := "ask"
  clock := default
  situation := ⟨confirmation true, .object [("confirmed", .bool confirmed)], {}⟩
  navigator := .ofConfig {}

theorem plan_confirming
    : ((confirming true).plan "finish" none).1 = .ok ["ask", "confirm", "finish"]
      ∧ ((confirming true).plan "finish" (some 1)).1 = .ok []
      ∧ ((confirming false).plan "finish" none).1 = .ok [] := by
  have found : ((confirming true).plan "finish" (some 2)).1 = .ok ["ask", "confirm", "finish"] := by
    rfl
  obtain ⟨-, -, bounds, -⟩ := plan_exact (confirming true) "finish" (some 2)
  have other := bounds _ (by simp) found
  exact ⟨(other none).1 (by decide), (other (some 1)).2 (by decide), rfl⟩

end Navigation.Journey

end FormWizard
