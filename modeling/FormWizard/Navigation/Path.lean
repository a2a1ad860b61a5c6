import FormWizard.Navigation.Basic

/-! Planning the way forward from one step to another. -/

namespace FormWizard.Navigator

open Calendar (Instant)
open Navigation (Situation)

/-- Goes on from a step, for at most the given number of moves, until the goal is reached. The
steps gone through before are given last one first; the result is empty if the way ends or would
come back to a step along a transition that does not allow it.
-/
def walk (clock : Instant) (situation : Situation) (goal : String)
    : (moves : Nat) → (step : String) → (before : List String) → Navigator
      → Except Navigation.Error (List String) × Navigator
  | 0, _, _, navigator => (.ok [], navigator)
  | moves + 1, step, before, navigator =>
    match navigator.decision clock situation step with
    | (.error error, navigator) => (.error error, navigator)
    | (.ok none, navigator) => (.ok [], navigator)
    | (.ok (some transition), navigator) =>
      let gone := step :: before
      let next := transition.target
      if next ∈ gone ∧ !transition.allowCycle then (.ok [], navigator)
      else if next = goal then (.ok (next :: gone).reverse, navigator)
      else walk clock situation goal moves next gone navigator

/-- The steps on the way from one step to another, both included. The way takes at most the given
number of moves, or the configured one; the result is empty if there is no such way.
-/
def path (clock : Instant) (situation : Situation) (start goal : String)
    (maxSteps : Option Nat) (navigator : Navigator)
    : Except Navigation.Error (List String) × Navigator :=
  if start = goal then (.ok [start], navigator)
  else walk clock situation goal (maxSteps.getD navigator.maxPathSteps) start [] navigator

end FormWizard.Navigator
