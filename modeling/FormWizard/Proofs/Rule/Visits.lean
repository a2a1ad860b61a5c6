import FormWizard.Rule.Evaluation

/-! What an evaluation comes to depends on the values of the operands and the answers of the calls
alone: neither on the patterns that are kept when it starts nor, for a rule that does not look at
the clock, on the time.
-/

namespace FormWizard

open Calendar (Instant)

namespace Rule

-----------------------------------------------------------------------------------------
-- Patterns
-----------------------------------------------------------------------------------------

/-- The tree of a pattern is the one that its source is parsed to, whether it was kept or not. -/
theorem regex?_fst (source : String) (patterns : List Pattern)
    : (regex? source patterns).1 = Regex.parse? source := by
  unfold regex?
  split
  · rename_i pattern found
    have named : pattern.source = source := by simpa using List.find?_some found
    rw [← named, pattern.parsed]
  · split
    · rename_i parsed
      exact parsed.symm
    · rename_i parsed
      exact parsed.symm

end Rule

namespace Comparison

theorem isMatch_fst (left : Json) (right : Option Json) (patterns more : List Rule.Pattern)
    : (isMatch left right patterns).1 = (isMatch left right more).1 := by
  unfold isMatch
  split
  · rename_i text source _
    have tree := Rule.regex?_fst source patterns
    rw [← Rule.regex?_fst source more] at tree
    generalize Rule.regex? source patterns = found at tree ⊢
    generalize Rule.regex? source more = again at tree ⊢
    obtain ⟨tree?, _⟩ := found
    obtain ⟨_, _⟩ := again
    cases tree
    cases tree? <;> rfl
  · rfl

/-- Whether a comparison holds does not depend on the patterns that are kept. -/
theorem apply_fst (op : Comparison) (left right : Option Json)
    (patterns more : List Rule.Pattern)
    : (op.apply left right patterns).1 = (op.apply left right more).1 := by
  unfold apply
  split
  · rfl
  · rfl
  · unfold ofPresent
    cases op with
    | regex => exact isMatch_fst _ _ _ _
    | _ => rfl

end Comparison

/-- An operand that is not the clock has the same value at every time. -/
theorem Operand.resolve?_time {scope : Rule.Scope} {time : Instant} {operand : Operand}
    (h : operand.isClock = true → time = scope.time)
    : operand.resolve? { scope with time } = operand.resolve? scope := by
  by_cases clock : operand.isClock
  · rw [h clock]
  · cases operand with
    | literal value => rfl
    | data path => rfl
    | context key =>
        have standing : standing? { scope with time } key = standing? scope key := by
          unfold standing?
          split
          · exact absurd rfl clock
          · exact absurd rfl clock
          · rfl
          · rfl
        simp only [resolve?, standing]

namespace Rule

-----------------------------------------------------------------------------------------
-- Visits
-----------------------------------------------------------------------------------------

/-- The same answer was found after visiting the same number of nodes. -/
structure Alike (found other : Answer × Progress) : Prop where
  answer : found.1 = other.1
  visited : found.2.visited = other.2.visited

/-- Two evaluations that are alike differ in nothing but the patterns that they keep. -/
theorem Alike.exists_answer {found other : Answer × Progress} (h : Alike found other)
    : ∃ answer progress more, found = (answer, progress) ∧ other = (answer, more)
        ∧ progress.visited = more.visited := by
  obtain ⟨answer, progress⟩ := found
  obtain ⟨_, more⟩ := other
  obtain ⟨rfl, same⟩ := h
  exact ⟨answer, progress, more, rfl, rfl, same⟩

theorem within_alike (limit : Nat) {progress other : Progress}
    {answer otherAnswer : Progress → Answer × Progress}
    (h : ∀ {progress other : Progress}, progress.visited = other.visited
      → Alike (answer progress) (otherAnswer other))
    (same : progress.visited = other.visited)
    : Alike (within limit progress answer) (within limit other otherAnswer) := by
  unfold within
  simp only [same]
  split
  · exact ⟨rfl, rfl⟩
  · exact h rfl

variable {scope other : Scope} {limit : Nat} {time : Instant}

mutual

/-- A rule finds the same in two scopes: its operands have the same values in both, and its calls
the same answers.
-/
def FindsSame (scope other : Scope) : Rule → Prop
  | .comparison _ left right =>
    left.resolve? scope = left.resolve? other ∧ right.resolve? scope = right.resolve? other
  | .logical _ args => FindSame scope other args
  | .custom function args => call scope function args = call other function args
  | .always _ => True

/-- All of the rules find the same in two scopes. -/
def FindSame (scope other : Scope) : List Rule → Prop
  | [] => True
  | rule :: rest => FindsSame scope other rule ∧ FindSame scope other rest

end

/-- Visits rules until one is of the deciding value. -/
def visitUntil (scope : Scope) (limit : Nat) (deciding : Bool)
    : List Rule → Progress → Answer × Progress
  | [], progress => (.ok !deciding, progress)
  | rule :: rest, progress =>
    match visit scope limit rule progress with
    | (.ok holds, progress) =>
      if holds = deciding then (.ok deciding, progress)
      else visitUntil scope limit deciding rest progress
    | (.error error, progress) => (.error error, progress)

theorem visitAll_eq (rules : List Rule) (progress : Progress)
    : visitAll scope limit rules progress = visitUntil scope limit false rules progress := by
  induction rules generalizing progress with
  | nil => rfl
  | cons rule rest ih =>
      rw [visitAll, visitUntil]
      rcases visit scope limit rule progress with ⟨_ | _ | _, after⟩
      · rfl
      · rfl
      · exact ih after

theorem visitAny_eq (rules : List Rule) (progress : Progress)
    : visitAny scope limit rules progress = visitUntil scope limit true rules progress := by
  induction rules generalizing progress with
  | nil => rfl
  | cons rule rest ih =>
      rw [visitAny, visitUntil]
      rcases visit scope limit rule progress with ⟨_ | _ | _, after⟩
      · rfl
      · exact ih after
      · rfl

mutual

/-- A rule has the same answer in scopes in which it finds the same, whatever patterns are kept, by
mutual induction on the rule and its arguments.
-/
theorem visit_alike (limit : Nat) (rule : Rule) (h : FindsSame scope other rule)
    {progress more : Progress} (same : progress.visited = more.visited)
    : Alike (visit scope limit rule progress) (visit other limit rule more) := by
  match rule with
  | .always value =>
      exact within_alike limit (fun same => ⟨rfl, same⟩) same
  | .comparison op left right =>
      simp only [visit, h.1, h.2]
      refine within_alike limit ?_ same
      intro progress more same
      exact ⟨Comparison.apply_fst _ _ _ _ _, same⟩
  | .custom function args =>
      have called : call scope function args = call other function args := h
      simp only [visit, called]
      exact within_alike limit (fun same => ⟨rfl, same⟩) same
  | .logical .all args =>
      rw [visit, visit, funext (visitAll_eq args), funext (visitAll_eq args)]
      exact within_alike limit (visitUntil_alike limit false args h) same
  | .logical .any args =>
      rw [visit, visit, funext (visitAny_eq args), funext (visitAny_eq args)]
      exact within_alike limit (visitUntil_alike limit true args h) same
  | .logical .negation args =>
      exact within_alike limit (visitNone_alike limit args h) same

theorem visitUntil_alike (limit : Nat) (deciding : Bool) (rules : List Rule)
    (h : FindSame scope other rules) {progress more : Progress}
    (same : progress.visited = more.visited)
    : Alike (visitUntil scope limit deciding rules progress)
        (visitUntil other limit deciding rules more) := by
  match rules with
  | [] =>
      exact ⟨rfl, same⟩
  | rule :: rest =>
      obtain ⟨answer, progress, more, found, again, same⟩ :=
        (visit_alike limit rule h.1 same).exists_answer
      simp only [visitUntil, found, again]
      match answer with
      | .error _ => exact ⟨rfl, same⟩
      | .ok holds =>
          dsimp only
          split
          · exact ⟨rfl, same⟩
          · exact visitUntil_alike limit deciding rest h.2 same

theorem visitNone_alike (limit : Nat) (rules : List Rule) (h : FindSame scope other rules)
    {progress more : Progress} (same : progress.visited = more.visited)
    : Alike (visitNone scope limit rules progress) (visitNone other limit rules more) := by
  match rules with
  | [] =>
      exact ⟨rfl, same⟩
  | rule :: rest =>
      have first := visit_alike limit rule h.1 same
      exact ⟨congrArg (Except.map not) first.answer, first.visited⟩

end

-----------------------------------------------------------------------------------------
-- The clock
-----------------------------------------------------------------------------------------

mutual

/-- A rule finds the same at every time unless it looks at the clock. -/
theorem findsSame_time (rule : Rule) (h : rule.readsClock = true → time = scope.time)
    : FindsSame { scope with time } scope rule := by
  match rule with
  | .always value => exact trivial
  | .comparison op left right =>
      simp only [readsClock, Bool.or_eq_true] at h
      exact ⟨Operand.resolve?_time fun clock => h (.inl clock),
        Operand.resolve?_time fun clock => h (.inr clock)⟩
  | .custom function args =>
      rw [h rfl]
      rfl
  | .logical op args => exact findSame_time args h

theorem findSame_time (rules : List Rule) (h : readClockArgs rules = true → time = scope.time)
    : FindSame { scope with time } scope rules := by
  match rules with
  | [] => exact trivial
  | rule :: rest =>
      simp only [readClockArgs, Bool.or_eq_true] at h
      exact ⟨findsSame_time rule fun clock => h (.inl clock),
        findSame_time rest fun clock => h (.inr clock)⟩

end

end Rule

end FormWizard
