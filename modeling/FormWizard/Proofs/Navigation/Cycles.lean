import FormWizard.Proofs.Navigation.Planning

/-! Whether transitions allow to come back to a step has no influence on planned paths: a journey
that comes back goes round, and never sees its goal.
-/

namespace FormWizard

open Calendar (Instant)
open Navigation (Journey Situation)
open Rule (Evaluator)
open Schema (Transition)

/-- The transition, if it does not allow to come back to a step. -/
def Schema.Transition.oneWay (transition : Transition) : Transition :=
  { transition with allowCycle := false }

/-- The schema, if none of its transitions allows to come back to a step. Two schemas with the same
result differ in nothing but in which of their transitions allow it.
-/
def Schema.oneWay (schema : Schema) : Schema :=
  { schema with transitions := schema.transitions.map Transition.oneWay }

/-- The situation with the schema none of whose transitions allows to come back. -/
def Navigation.Situation.oneWay (situation : Situation) : Situation :=
  { situation with schema := situation.schema.oneWay }

variable {clock : Instant} {situation : Situation}

theorem Schema.transitionsFrom_oneWay (schema : Schema) (step : String)
    : schema.oneWay.transitionsFrom step
      = (schema.transitionsFrom step).map Transition.oneWay := by
  rw [transitionsFrom, transitionsFrom, oneWay, List.filter_map]
  rfl

namespace Navigator

theorem firstOpen_oneWay (transitions : List Transition) (evaluator : Evaluator)
    : firstOpen clock situation.oneWay (transitions.map Transition.oneWay) evaluator
      = ((firstOpen clock situation transitions evaluator).1.map (Option.map Transition.oneWay),
        (firstOpen clock situation transitions evaluator).2) := by
  induction transitions generalizing evaluator with
  | nil => rfl
  | cons transition rest ih =>
      have asked : conditionHolds clock situation.oneWay transition.oneWay evaluator
          = conditionHolds clock situation transition evaluator := rfl
      have guarded : guardAllows situation.oneWay transition.oneWay
          = guardAllows situation transition := rfl
      rw [List.map_cons, firstOpen, firstOpen, asked]
      split
      · rfl
      · rw [guarded]
        split
        · rfl
        · exact ih _

theorem decision_oneWay (step : String) (navigator : Navigator)
    : navigator.decision clock situation.oneWay step
      = ((navigator.decision clock situation step).1.map (Option.map Transition.oneWay),
        (navigator.decision clock situation step).2) := by
  have parted : (situation.oneWay.schema.transitionsFrom step).partition Transition.isDefault
      = (((situation.schema.transitionsFrom step).partition Transition.isDefault).1.map
          Transition.oneWay,
        ((situation.schema.transitionsFrom step).partition Transition.isDefault).2.map
          Transition.oneWay) := by
    rw [Situation.oneWay, Schema.transitionsFrom_oneWay, List.partition_eq_filter_filter,
      List.partition_eq_filter_filter, List.filter_map, List.filter_map]
    rfl
  have ends : navigator.endsAt situation.oneWay step = navigator.endsAt situation step := rfl
  unfold decision
  rw [parted, ends]
  generalize (situation.schema.transitionsFrom step).partition Transition.isDefault = parts
  split
  · rfl
  · dsimp only
    rw [List.length_map]
    split
    · rfl
    · rw [firstOpen_oneWay, List.head?_map]
      rcases (firstOpen clock situation parts.2 navigator.visibility.evaluator).1
        with error | _ | transition
      · rfl
      · rfl
      · rfl

theorem next_oneWay (step : String) (navigator : Navigator)
    : navigator.next clock situation.oneWay step = navigator.next clock situation step := by
  unfold next
  rw [decision_oneWay]
  rcases navigator.decision clock situation step with ⟨error | _ | transition, navigator'⟩
  · rfl
  · rfl
  · rfl

end Navigator

namespace Navigation.Journey

theorem after_oneWay (journey : Journey) (moves : Nat)
    : Journey.after { journey with situation := journey.situation.oneWay } moves
      = journey.after moves := by
  induction moves with
  | zero => rfl
  | succ moves ih =>
      rw [after, after, ih]
      split
      · exact Navigator.next_oneWay _ _
      · rfl

theorem sameWay_of_oneWay_eq {journey other : Journey}
    (same : { journey with situation := journey.situation.oneWay }
      = { other with situation := other.situation.oneWay })
    : journey.SameWay other := by
  intro moves
  rw [← after_oneWay journey, same, after_oneWay]

end Navigation.Journey

namespace Navigator

/-- Which transitions allow to come back to a step makes no difference to a planned path, and a
planned path never comes back to a step. Nor is there a difference if the second path is planned by
another guide or at another time.
-/
theorem path_ignores_allowCycle {schema other : Schema} (same : schema.oneWay = other.oneWay)
    (clock : Instant) (data : Json) (context : Context) (start goal : String)
    (maxSteps : Option Nat) (navigator : Navigator)
    : (navigator.path clock ⟨schema, data, context⟩ start goal maxSteps).1
        = (navigator.path clock ⟨other, data, context⟩ start goal maxSteps).1
      ∧ (∀ steps, (navigator.path clock ⟨schema, data, context⟩ start goal maxSteps).1 = .ok steps →
          steps.Nodup)
      ∧ (Situation.IsBuilt ⟨schema, data, context⟩ → ∀ (otherClock : Instant) (guide : Navigator),
          Situation.IsTimeless ⟨schema, data, context⟩ ∨ clock = otherClock →
          Related Evaluator.Interchangeable navigator guide →
          guide.maxPathSteps = navigator.maxPathSteps →
          (navigator.path clock ⟨schema, data, context⟩ start goal maxSteps).1
            = (guide.path otherClock ⟨other, data, context⟩ start goal maxSteps).1) := by
  have planned (clock : Instant) (schema : Schema) (navigator : Navigator) :=
    Journey.planned_plan ⟨start, clock, ⟨schema, data, context⟩, navigator⟩ goal maxSteps
  have flags (clock : Instant) (navigator : Navigator)
      : (navigator.path clock ⟨schema, data, context⟩ start goal maxSteps).1
        = (navigator.path clock ⟨other, data, context⟩ start goal maxSteps).1 := by
    refine Journey.Planned.unique ?_ (planned clock schema navigator)
      (planned clock other navigator)
    apply Journey.sameWay_of_oneWay_eq
    rw [Situation.oneWay, Situation.oneWay, same]
  refine ⟨flags clock navigator, ?_, ?_⟩
  · intro steps found
    by_cases nonempty : steps = []
    · rw [nonempty]
      exact List.nodup_nil
    · obtain ⟨hops, -, arrives, trail⟩ := (planned clock schema navigator).of_steps found nonempty
      exact trail.nodup arrives
  · intro built otherClock guide times guides bounds
    rw [← flags]
    have sameWay : Journey.SameWay ⟨start, clock, ⟨schema, data, context⟩, navigator⟩
        ⟨start, otherClock, ⟨schema, data, context⟩, guide⟩ := by
      intro moves
      have agree : Situation.Agree ⟨schema, data, context⟩
          (Evaluator.InterchangeableOn [context.facts]) clock otherClock :=
        Situation.agree_interchangeable built List.mem_cons_self times
      exact (Journey.after_agree agree (guides.on context.facts) moves).1
    have planned' := planned otherClock schema guide
    rw [Journey.bound, bounds] at planned'
    exact (planned clock schema navigator).unique sameWay planned'

theorem path_confirmation
    : (Journey.confirmation true).oneWay = (Journey.confirmation false).oneWay
      ∧ ((Navigator.ofConfig {}).path (.midnight 0)
            ⟨Journey.confirmation true, .object [("confirmed", .bool true)], {}⟩
            "ask" "finish" none).1
          = ((Navigator.ofConfig {}).path (.midnight 1)
              ⟨Journey.confirmation false, .object [("confirmed", .bool true)], {}⟩
              "ask" "finish" none).1
      ∧ ["ask", "confirm", "finish"].Nodup := by
  have same : (Journey.confirmation true).oneWay = (Journey.confirmation false).oneWay := by
    decide
  obtain ⟨-, once, guides⟩ := path_ignores_allowCycle same (.midnight 0)
    (.object [("confirmed", .bool true)]) {} "ask" "finish" none (Navigator.ofConfig {})
  have truthful : (Navigator.ofConfig {}).visibility.evaluator.IsTruthful :=
    Evaluator.isTruthful_of_known_nil (Evaluator.known_registerAll _ rfl)
  have condition : ∀ transition ∈ (Journey.confirmation true).transitions,
      ∀ rule ∈ transition.condition,
        rule = .compare .neq (.string "$.confirmed") (.bool true) := by
    simp [Journey.confirmation]
  refine ⟨same, guides ?_ (.midnight 1) (Navigator.ofConfig {}) (.inl (.inr ?_))
    ⟨⟨truthful, truthful, ⟨rfl, rfl, rfl⟩⟩, rfl⟩ rfl, once _ rfl⟩
  · intro transition member rule asked
    rw [condition transition member rule asked]
    exact .compare ..
  · intro transition member rule asked
    rw [condition transition member rule asked]
    rfl

end Navigator

end FormWizard
