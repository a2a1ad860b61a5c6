import FormWizard.Proofs.Calendar.Reading
import FormWizard.Proofs.Rule.Keys
import FormWizard.Proofs.Rule.Visits
import FormWizard.Proofs.Tables
import FormWizard.Rule.Predicates

/-! Contexts that are written alike. They differ at most in a leap second of a pinned clock that
does not end a minute, as no calendar has it, which is written as the second after it. To operands
it is that second, and so it is to the built-in predicates; a predicate of the host may tell the two
apart.
-/

namespace FormWizard

open Calendar (Instant)

-----------------------------------------------------------------------------------------
-- Facts
-----------------------------------------------------------------------------------------

variable {facts other : Facts} {clock : Instant}

theorem Facts.value?_of_alike (alike : facts.asWritten = other.asWritten) (key : String)
    : facts.value? key = other.value? key := by
  show facts.asWritten.value? key = other.asWritten.value? key
  rw [alike]

theorem Facts.environment_of_alike (alike : facts.asWritten = other.asWritten)
    : facts.environment = other.environment := by
  show facts.asWritten.environment = other.asWritten.environment
  rw [alike]

theorem Facts.isSome_now_of_alike (alike : facts.asWritten = other.asWritten)
    : facts.now.isSome = other.now.isSome := by
  simpa [asWritten] using congrArg (fun facts : Facts => facts.now.isSome) alike

/-- Clocks of contexts that are written alike show times that are written alike. -/
theorem Facts.time_of_alike (alike : facts.asWritten = other.asWritten) (clock : Instant)
    : (facts.time clock).asWritten = (other.time clock).asWritten := by
  have shown (facts : Facts)
      : (facts.time clock).asWritten = facts.asWritten.now.getD clock.asWritten :=
    (Option.getD_map ..).symm
  rw [shown, shown, alike]

/-- A context without a leap second within a minute is written as itself. -/
theorem Facts.asWritten_eq_self (h : ∀ now ∈ facts.now, now.asWritten = now)
    : facts.asWritten = facts := by
  have now : facts.now.map Instant.asWritten = facts.now :=
    (Option.map_congr h).trans Option.map_id'
  rw [asWritten, now]

namespace Rule

-----------------------------------------------------------------------------------------
-- Predicates
-----------------------------------------------------------------------------------------

/-- The predicate reads no more of a context than its values, its environment, its guard names, its
review flag and its clock as it is written: among the given contexts it answers alike for those that
are written alike.
-/
def Predicate.ReadsAsWritten (contexts : List Facts) (predicate : Predicate) : Prop :=
  ∀ facts ∈ contexts, ∀ other ∈ contexts, facts.asWritten = other.asWritten →
    ∀ args data clock,
      predicate args data facts (facts.time clock) = predicate args data other (other.time clock)

/-- All of the predicates read the clocks of the given contexts as they are written. -/
def ReadAsWritten (contexts : List Facts) (functions : Table Predicate) : Prop :=
  ∀ entry ∈ functions, entry.2.ReadsAsWritten contexts

variable {contexts : List Facts} {functions : Table Predicate}

/-- Any predicate reads a clock as it is written that is in no leap second within a minute. -/
theorem readAsWritten_of_clocks (h : ∀ facts ∈ contexts, facts.asWritten = facts)
    : ReadAsWritten contexts functions := by
  intro entry _ facts member other otherMember alike args data clock
  rw [h facts member, h other otherMember] at alike
  rw [alike]

/-- Any predicate reads a clock as it is written that was read from a time stamp. -/
theorem readAsWritten_of_timeStamps
    (h : ∀ facts ∈ contexts, ∀ now ∈ facts.now, ∃ text, Instant.ofTimeStamp? text = some now)
    : ReadAsWritten contexts functions := by
  refine readAsWritten_of_clocks fun facts member => Facts.asWritten_eq_self fun now pinned => ?_
  obtain ⟨text, read⟩ := h facts member now pinned
  exact Instant.asWritten_of_ofTimeStamp? read

/-- Any predicate answers alike where there is one context only. -/
theorem readAsWritten_singleton (facts : Facts) (functions : Table Predicate)
    : ReadAsWritten [facts] functions := by
  intro entry _ facts' member other otherMember _ args data clock
  rw [List.mem_singleton.mp member, List.mem_singleton.mp otherMember]

theorem ReadAsWritten.insert (h : ReadAsWritten contexts functions) {name : String}
    {predicate : Predicate} (reads : predicate.ReadsAsWritten contexts)
    : ReadAsWritten contexts (functions.insert name predicate) := by
  intro entry member
  rcases Table.mem_of_mem_insert member with rfl | older
  · exact reads
  · exact h entry older

/-- The predicates that every rule may call read the clock as it is written. -/
theorem Predicates.readAsWritten_builtin (contexts : List Facts)
    : ReadAsWritten contexts builtin := by
  intro entry member facts _ other _ alike args data clock
  have days : (facts.time clock).dayNumber = (other.time clock).dayNumber := by
    rw [← Instant.dayNumber_asWritten, Facts.time_of_alike alike, Instant.dayNumber_asWritten]
  have values := Facts.value?_of_alike alike
  have listed := Table.mem_of_mem_ofEntries member
  simp only [List.mem_cons, List.not_mem_nil, or_false] at listed
  rcases listed with rfl | rfl | rfl | rfl
  · simp only [isWeekday, days]
  · simp only [hasRole, contextItems, values]
  · simp only [stepCompleted, contextItems, values]
  · rfl

-----------------------------------------------------------------------------------------
-- Rules
-----------------------------------------------------------------------------------------

/-- The scope with other facts, in which the time is that of their clock. -/
def Scope.withFacts (scope : Scope) (clock : Instant) (facts : Facts) : Scope :=
  { scope with facts, time := facts.time clock }

variable {scope : Scope}

theorem resolve?_of_alike (alike : facts.asWritten = other.asWritten) (operand : Operand)
    : operand.resolve? (scope.withFacts clock facts)
      = operand.resolve? (scope.withFacts clock other) := by
  have times := Facts.time_of_alike alike clock
  have milliseconds : (facts.time clock).milliseconds = (other.time clock).milliseconds := by
    rw [← Instant.milliseconds_asWritten, times, Instant.milliseconds_asWritten]
  have dates : (facts.time clock).date = (other.time clock).date := by
    rw [← Instant.date_asWritten, times, Instant.date_asWritten]
  cases operand with
  | literal value => rfl
  | data path => rfl
  | context key =>
      have standing : Operand.standing? (scope.withFacts clock facts) key
          = Operand.standing? (scope.withFacts clock other) key := by
        simp only [Operand.standing?, Scope.withFacts, milliseconds, dates,
          Facts.environment_of_alike alike]
      rw [Operand.resolve?, Operand.resolve?, standing]
      exact congrArg (Option.or · _) (Facts.value?_of_alike alike key)

theorem call_of_alike (reads : ReadAsWritten contexts scope.functions) (member : facts ∈ contexts)
    (otherMember : other ∈ contexts) (alike : facts.asWritten = other.asWritten)
    (function : String) (args : List Json)
    : call (scope.withFacts clock facts) function args
      = call (scope.withFacts clock other) function args := by
  unfold call
  simp only [resolve?_of_alike alike]
  simp only [Scope.withFacts]
  cases found : Table.find? function scope.functions with
  | none => rfl
  | some predicate =>
      have same := reads _ (Table.mem_of_find? found) facts member other otherMember alike
      exact congrArg (Except.mapError (EvalError.function function)) (same ..)

mutual

/-- A rule finds the same in contexts that are written alike, by mutual induction on the rule and
its arguments.
-/
theorem findsSame_of_alike (reads : ReadAsWritten contexts scope.functions)
    (member : facts ∈ contexts) (otherMember : other ∈ contexts)
    (alike : facts.asWritten = other.asWritten) (clock : Instant) (rule : Rule)
    : FindsSame (scope.withFacts clock facts) (scope.withFacts clock other) rule := by
  match rule with
  | .always value => exact trivial
  | .comparison op left right => exact ⟨resolve?_of_alike alike left, resolve?_of_alike alike right⟩
  | .custom function args => exact call_of_alike reads member otherMember alike function args
  | .logical op args => exact findSame_of_alike reads member otherMember alike clock args

theorem findSame_of_alike (reads : ReadAsWritten contexts scope.functions)
    (member : facts ∈ contexts) (otherMember : other ∈ contexts)
    (alike : facts.asWritten = other.asWritten) (clock : Instant) (rules : List Rule)
    : FindSame (scope.withFacts clock facts) (scope.withFacts clock other) rules := by
  match rules with
  | [] => exact trivial
  | rule :: rest =>
      exact ⟨findsSame_of_alike reads member otherMember alike clock rule,
        findSame_of_alike reads member otherMember alike clock rest⟩

end

end Rule

end FormWizard
