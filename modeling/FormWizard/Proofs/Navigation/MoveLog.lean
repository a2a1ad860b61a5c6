import Mathlib.Data.List.DropRight
import FormWizard.Proofs.Navigation.FreshDecisions
import FormWizard.Proofs.Schema.Agreement

/-! The history of a guide is a log of the moves that it has accepted. It forgets moves for two
reasons only: it is told to forget all of them, or newer ones take up its capacity.
-/

namespace FormWizard

open Calendar (Instant)
open Navigation (Move Situation)
open Schema (Transition)

namespace Navigator

variable {clock : Instant} {situation : Situation} {navigator : Navigator}

-----------------------------------------------------------------------------------------
-- Accepted moves
-----------------------------------------------------------------------------------------

namespace Request

/-- The move that a guide accepts with a request: one for the next step that is answered with a
step. It is a default move if the transition that is taken is the default one of the step.
-/
def move? (navigator : Navigator) : Request → Option Move
  | .next clock situation step =>
    match (navigator.next clock situation step).1 with
    | .ok (some target) =>
      let taken := (navigator.decision clock situation step).1
      let kind := if taken = .ok (situation.defaultsFrom step).head? then .default else .conditional
      some ⟨step, target, kind⟩
    | _ => none
  | _ => none

/-- Whether the moves made so far stay: the request is not to forget them all. -/
def keepsMoves : Request → Bool
  | .clearHistory => false
  | _ => true

end Request

/-- The moves that a guide accepts in a run of requests, oldest first. -/
def accepted : List Request → Navigator → List Move
  | [], _ => []
  | request :: rest, navigator =>
    (request.move? navigator).toList ++ accepted rest (navigator.perform request)

/-- The moves that a guide accepts in a run of requests since it was told for the last time to
forget all moves, or since the start of the run if it never was.
-/
def acceptedSinceClear (requests : List Request) (navigator : Navigator) : List Move :=
  accepted (requests.rtakeWhile Request.keepsMoves)
    (navigator.after (requests.rdropWhile Request.keepsMoves))

theorem after_append (navigator : Navigator) (requests more : List Request)
    : navigator.after (requests ++ more) = (navigator.after requests).after more :=
  List.foldl_append

theorem accepted_append (requests more : List Request) (navigator : Navigator)
    : accepted (requests ++ more) navigator
      = accepted requests navigator ++ accepted more (navigator.after requests) := by
  induction requests generalizing navigator with
  | nil => rfl
  | cons request rest ih =>
      rw [List.cons_append, accepted, accepted, ih, List.append_assoc]
      rfl

/-- One more request adds the move that is accepted with it, or starts the moves over. -/
theorem acceptedSinceClear_concat (requests : List Request) (request : Request)
    (navigator : Navigator)
    : acceptedSinceClear (requests ++ [request]) navigator
      = if request.keepsMoves then
          acceptedSinceClear requests navigator
            ++ (request.move? (navigator.after requests)).toList
        else [] := by
  rw [acceptedSinceClear]
  split
  · rename_i keeps
    have whole : (navigator.after (requests.rdropWhile Request.keepsMoves)).after
          (requests.rtakeWhile Request.keepsMoves)
        = navigator.after requests := by
      rw [← after_append, List.rdropWhile_append_rtakeWhile]
    rw [List.rtakeWhile_concat_pos _ _ _ keeps, List.rdropWhile_concat_pos _ _ _ keeps,
      accepted_append, whole]
    simp only [accepted, List.append_nil, acceptedSinceClear]
  · rename_i forgets
    rw [List.rtakeWhile_concat_neg _ _ _ forgets, accepted]

-----------------------------------------------------------------------------------------
-- Taken transitions
-----------------------------------------------------------------------------------------

/-- A transition that is taken leaves the step, and is its default one if it is a default one. -/
theorem decision_from {step : String} {transition : Transition}
    (decided : (navigator.decision clock situation step).1 = .ok (some transition))
    : transition.source = step
      ∧ (transition.isDefault = true
        ↔ some transition = (situation.defaultsFrom step).head?) := by
  have source (leaves : transition ∈ situation.schema.transitionsFrom step)
      : transition.source = step :=
    of_decide_eq_true (List.mem_filter.mp leaves).2
  have isDefault (first : some transition = (situation.defaultsFrom step).head?)
      : transition ∈ situation.schema.transitionsFrom step ∧ transition.isDefault = true :=
    List.mem_filter.mp (List.mem_of_head? first.symm)
  rcases decision_mem_or decided with other | first
  · obtain ⟨leaves, notDefault⟩ := List.mem_filter.mp other
    refine ⟨source leaves, fun taken => ?_, fun first => (isDefault first).2⟩
    simp [taken] at notDefault
  · obtain ⟨leaves, taken⟩ := isDefault first
    exact ⟨source leaves, fun _ => first, fun _ => taken⟩

/-- With a request for the next step the move along the transition that is taken is accepted. -/
theorem move?_next (clock : Instant) (situation : Situation) (step : String)
    (navigator : Navigator)
    : (Request.next clock situation step).move? navigator
      = match (navigator.decision clock situation step).1 with
        | .ok (some transition) => some (.along transition)
        | _ => none := by
  rw [Request.move?, next_fst]
  cases decided : (navigator.decision clock situation step).1 with
  | error error => rfl
  | ok found =>
      cases found with
      | none => rfl
      | some transition =>
          obtain ⟨source, isDefault⟩ := decision_from decided
          simp only [Except.map, Option.map_some, Move.along, Except.ok.injEq, source, isDefault]

-----------------------------------------------------------------------------------------
-- What a request does to the history
-----------------------------------------------------------------------------------------

/-- The guides have the same history, of the same capacity. -/
structure SameHistory (navigator other : Navigator) : Prop where
  history : navigator.history = other.history
  capacity : navigator.historyCapacity = other.historyCapacity

namespace SameHistory

theorem refl (navigator : Navigator) : SameHistory navigator navigator :=
  ⟨rfl, rfl⟩

theorem trans {first second third : Navigator} (h : SameHistory first second)
    (h' : SameHistory second third)
    : SameHistory first third :=
  ⟨h.history.trans h'.history, h.capacity.trans h'.capacity⟩

/-- Deciding records nothing. -/
theorem decision (clock : Instant) (situation : Situation) (step : String) (navigator : Navigator)
    : SameHistory (navigator.decision clock situation step).2 navigator := by
  unfold Navigator.decision
  split
  · exact .refl navigator
  · dsimp only
    split <;> exact ⟨rfl, rfl⟩

/-- Planning records nothing. -/
theorem walk (goal : String) (moves : Nat) (step : String) (before : List String)
    (navigator : Navigator)
    : SameHistory (navigator.walk clock situation goal moves step before).2 navigator :=
  walk_induction (motive := (SameHistory · navigator))
    (fun step guide same => (decision clock situation step guide).trans same) (.refl navigator)

end SameHistory

/-- A request for the next step records the move that is accepted with it. -/
theorem next_snd (clock : Instant) (situation : Situation) (step : String) (navigator : Navigator)
    : (navigator.next clock situation step).2
      = match (Request.next clock situation step).move? navigator with
        | some move => (navigator.decision clock situation step).2.record move
        | none => (navigator.decision clock situation step).2 := by
  rw [move?_next, next]
  rcases navigator.decision clock situation step with ⟨_ | _ | _, _⟩ <;> rfl

/-- With a request that keeps the moves made so far, and adds none, nothing is recorded. -/
theorem sameHistory_perform {request : Request} (keeps : request.keepsMoves)
    (stays : request.move? navigator = none)
    : SameHistory (navigator.perform request) navigator := by
  cases request with
  | next clock situation step =>
      rw [perform, next_snd, stays]
      exact .decision clock situation step navigator
  | canMove clock situation source target => exact .decision clock situation source navigator
  | path clock situation start goal maxSteps =>
      rw [perform, path]
      split
      · exact .refl navigator
      · exact .walk ..
  | clearHistory => cases keeps
  | _ => exact ⟨rfl, rfl⟩

/-- With a request that a move is accepted with, this move is recorded. -/
theorem perform_of_move? {request : Request} {move : Move}
    (accepts : request.move? navigator = some move)
    : ∃ decided, SameHistory decided navigator ∧ navigator.perform request = decided.record move := by
  cases request with
  | next clock situation step =>
      refine ⟨_, .decision clock situation step navigator, ?_⟩
      rw [perform, next_snd, accepts]
  | _ => cases accepts

-----------------------------------------------------------------------------------------
-- The log
-----------------------------------------------------------------------------------------

/-- The history of the guide holds the latest of the moves, as many as the capacity allows. -/
structure Logs (moves : List Move) (capacity : Nat) (navigator : Navigator) : Prop where
  history : navigator.history = moves.rtake capacity
  capacity : navigator.historyCapacity = capacity

namespace Logs

variable {moves : List Move} {capacity : Nat}

theorem of_sameHistory (h : Logs moves capacity navigator) {other : Navigator}
    (same : SameHistory other navigator)
    : Logs moves capacity other :=
  ⟨same.history.trans h.history, same.capacity.trans h.capacity⟩

/-- A move that is recorded is logged. What was forgotten before would be forgotten now. -/
theorem record (h : Logs moves capacity navigator) (move : Move)
    : Logs (moves ++ [move]) capacity (navigator.record move) where
  history := by
    have before : moves.length - capacity ≤ moves.length := Nat.sub_le ..
    simp only [Navigator.record, h.history, h.capacity, List.rtake]
    rw [← List.drop_append_of_le_length before, List.drop_drop]
    congr 1
    simp only [List.length_drop, List.length_append, List.length_singleton]
    omega
  capacity := h.capacity

/-- Every request logs the move that is accepted with it, or starts a new log. -/
theorem perform (h : Logs moves capacity navigator) (request : Request)
    : Logs (if request.keepsMoves then moves ++ (request.move? navigator).toList else []) capacity
        (navigator.perform request) := by
  split
  · rename_i keeps
    cases accepts : request.move? navigator with
    | none =>
        rw [Option.toList_none, List.append_nil]
        exact h.of_sameHistory (sameHistory_perform keeps accepts)
    | some move =>
        obtain ⟨decided, same, recorded⟩ := perform_of_move? accepts
        rw [recorded]
        exact (h.of_sameHistory same).record move
  · rename_i forgets
    cases request with
    | clearHistory => exact ⟨(List.rtake_nil capacity).symm, h.capacity⟩
    | _ => exact absurd rfl forgets

/-- The history of a new guide logs the moves that were accepted since it was last told to forget
them, by induction on the run from its end.
-/
theorem after (config : Config) (requests : List Request)
    : Logs (acceptedSinceClear requests (.ofConfig config)) config.historyCapacity
        ((ofConfig config).after requests) := by
  induction requests using List.reverseRecOn with
  | nil => exact ⟨(List.rtake_nil config.historyCapacity).symm, rfl⟩
  | append_singleton requests request ih =>
      rw [acceptedSinceClear_concat, after_append]
      exact ih.perform request

end Logs

/-- The history is the bounded log of the accepted moves. After any run of requests to a new guide
it holds the latest of the moves that were accepted since the guide was last told to forget them,
oldest first, and as many as its capacity allows. No request changes it but the one to forget all
moves and those that a move is accepted with, and without any capacity it stays empty.
-/
theorem history_is_log (config : Config) (requests : List Request)
    : let navigator := (ofConfig config).after requests
      let moves := acceptedSinceClear requests (ofConfig config)
      navigator.history = moves.rtake config.historyCapacity
      ∧ navigator.history.length = min config.historyCapacity moves.length
      ∧ (∀ request : Request, request.keepsMoves → request.move? navigator = none →
        (navigator.perform request).history = navigator.history)
      ∧ (config.historyCapacity = 0 → navigator.history = []) := by
  intro navigator moves
  have log : Logs moves config.historyCapacity navigator := .after config requests
  refine ⟨log.history, ?_, fun request keeps stays => ?_, fun none => ?_⟩
  · rw [log.history, List.rtake, List.length_drop]
    omega
  · exact (sameHistory_perform keeps stays).history
  · rw [log.history, none, List.rtake_zero]

/-- A form that leads round between two steps. -/
def ring : Situation where
  schema := {
    id := "ring"
    steps := [{ id := "cart" }, { id := "summary" }]
    transitions := [{ source := "cart", target := "summary" },
      { source := "summary", target := "cart", isDefault := true }] }
  data := .null
  context := {}

/-- Once round, with a question and a dead end behind it. -/
def round : List Request :=
  [.next default ring "cart", .next default ring "summary", .canMove default ring "cart" "cart",
    .next default ring "delivery"]

/-- A guide with room for one move keeps the last one. -/
theorem history_is_log_round
    : acceptedSinceClear round (ofConfig { historyCapacity := 1 })
        = [⟨"cart", "summary", .conditional⟩, ⟨"summary", "cart", .default⟩]
      ∧ ((ofConfig { historyCapacity := 1 }).after round).history
        = [⟨"summary", "cart", .default⟩] := by
  have accepted : acceptedSinceClear round (ofConfig { historyCapacity := 1 })
      = [⟨"cart", "summary", .conditional⟩, ⟨"summary", "cart", .default⟩] := by
    decide +kernel
  obtain ⟨logged, -⟩ := history_is_log { historyCapacity := 1 } round
  rw [accepted] at logged
  exact ⟨accepted, logged⟩

end Navigator

end FormWizard
