import FormWizard.Proofs.Tables
import FormWizard.Schema.Check

/-! What the issues of a schema say. Each one is reported exactly where there is the mistake that it
names, so a schema without issues has none of these mistakes.
-/

namespace FormWizard.Schema

variable {schema : Schema}

/-- Sound schemas are those without issues. -/
theorem isSound_iff : schema.isSound = true ↔ ∀ issue, issue ∉ schema.issues := by
  rw [isSound, List.isEmpty_iff, List.eq_nil_iff_forall_not_mem]

theorem mem_fieldIssues_iff {step : Step} {issue : Issue}
    : issue ∈ fieldIssues schema step
      ↔ ∃ cause, issue = .unresolvedReference step.id cause
        ∧ ∃ entry ∈ step.fields, schema.resolve entry = .error cause := by
  simp only [fieldIssues, List.mem_filterMap]
  constructor
  · rintro ⟨entry, listed, reported⟩
    split at reported
    · cases reported
    · rename_i cause unresolved
      cases reported
      exact ⟨cause, rfl, entry, listed, unresolved⟩
  · rintro ⟨cause, rfl, entry, listed, unresolved⟩
    exact ⟨entry, listed, by rw [unresolved]⟩

/-- The issues of steps are about ids that came before, and about references that lead nowhere.
Witness: induction on the steps.
-/
theorem mem_stepIssues {seen : List String} {steps : List Step} {issue : Issue}
    (h : issue ∈ stepIssues schema seen steps)
    : (∃ id, issue = .duplicateStep id) ∨ ∃ step ∈ steps, issue ∈ fieldIssues schema step := by
  induction steps generalizing seen with
  | nil => simp [stepIssues] at h
  | cons step rest ih =>
      rw [stepIssues, List.mem_append, List.mem_append] at h
      rcases h with (before | own) | later
      · split at before
        · exact .inl ⟨step.id, List.mem_singleton.mp before⟩
        · cases before
      · exact .inr ⟨step, List.mem_cons_self, own⟩
      · exact (ih later).imp_right fun ⟨other, listed, reported⟩ =>
          ⟨other, List.mem_cons_of_mem _ listed, reported⟩

theorem mem_stepIssues_of_mem_fieldIssues {seen : List String} {steps : List Step} {step : Step}
    (listed : step ∈ steps) {issue : Issue} (h : issue ∈ fieldIssues schema step)
    : issue ∈ stepIssues schema seen steps := by
  induction steps generalizing seen with
  | nil => cases listed
  | cons first rest ih =>
      rw [stepIssues, List.mem_append, List.mem_append]
      rcases List.mem_cons.mp listed with rfl | later
      · exact .inl (.inr h)
      · exact .inr (ih later)

theorem mem_transitionIssues_iff {transition : Transition} {issue : Issue}
    : issue ∈ transitionIssues schema transition
      ↔ ∃ missing ∈ [transition.source, transition.target], missing ∉ schema.stepIds
        ∧ .unknownStep transition.source transition.target missing = issue := by
  simp only [transitionIssues, List.mem_map, List.mem_filter, decide_eq_true_eq, and_assoc]

theorem mem_defaultSources_iff {step : String}
    : step ∈ schema.defaultSources
      ↔ ∃ transition ∈ schema.transitions, transition.isDefault ∧ transition.source = step := by
  rw [defaultSources, Table.mem_keys_ofEntries_iff]
  simp [and_assoc]

/-- Steps that no default transition leaves need not be counted. -/
theorem mem_defaultSources_of_lt {step : String} (several : 1 < schema.defaultCount step)
    : step ∈ schema.defaultSources := by
  obtain ⟨transition, listed, leaves⟩ := List.countP_pos_iff.mp (Nat.zero_lt_of_lt several)
  rw [Bool.and_eq_true, decide_eq_true_eq] at leaves
  exact mem_defaultSources_iff.mpr ⟨transition, listed, leaves⟩

theorem mem_defaultIssues_iff {issue : Issue}
    : issue ∈ schema.defaultIssues
      ↔ ∃ step, 1 < schema.defaultCount step
        ∧ .ambiguousDefault step (schema.defaultCount step) = issue := by
  simp only [defaultIssues, List.mem_map, List.mem_filter, decide_eq_true_eq, and_assoc]
  exact exists_congr fun step =>
    and_iff_right_of_imp fun several => mem_defaultSources_of_lt several.1

theorem mem_reviewIssues_iff {issue : Issue}
    : issue ∈ schema.reviewIssues
      ↔ ∃ step ∈ schema.reviewStep, step ∉ schema.stepIds ∧ .unknownReviewStep step = issue := by
  simp [reviewIssues, and_assoc]

theorem mem_expressionIssues_iff {issue : Issue}
    : issue ∈ schema.expressionIssues
      ↔ ∃ field ∈ schema.computed, ∃ cause, Expr.parse field.expr = .error cause
        ∧ .invalidExpression field.path cause = issue := by
  simp only [expressionIssues, List.mem_filterMap]
  refine exists_congr fun field => and_congr_right fun _ => ?_
  cases Expr.parse field.expr <;> simp

theorem mem_cycleIssues_iff {issue : Issue}
    : issue ∈ schema.cycleIssues
      ↔ ∃ cause, Computed.order schema.computed = .error cause
        ∧ .circularDependency cause = issue := by
  rw [cycleIssues]
  cases Computed.order schema.computed <;> simp [eq_comm]

/-- What any issue of a schema may be. -/
theorem mem_issues_iff {issue : Issue}
    : issue ∈ schema.issues
      ↔ issue ∈ stepIssues schema [] schema.steps
        ∨ (∃ transition ∈ schema.transitions,
            ∃ missing ∈ [transition.source, transition.target], missing ∉ schema.stepIds
              ∧ .unknownStep transition.source transition.target missing = issue)
        ∨ (∃ step, 1 < schema.defaultCount step
          ∧ .ambiguousDefault step (schema.defaultCount step) = issue)
        ∨ (∃ step ∈ schema.reviewStep, step ∉ schema.stepIds ∧ .unknownReviewStep step = issue)
        ∨ (∃ field ∈ schema.computed, ∃ cause, Expr.parse field.expr = .error cause
          ∧ .invalidExpression field.path cause = issue)
        ∨ ∃ cause, Computed.order schema.computed = .error cause
          ∧ .circularDependency cause = issue := by
  simp only [issues, List.mem_append, List.mem_flatMap, or_assoc, mem_transitionIssues_iff,
    mem_defaultIssues_iff, mem_reviewIssues_iff, mem_expressionIssues_iff, mem_cycleIssues_iff]

-----------------------------------------------------------------------------------------
-- One kind of issues at a time
-----------------------------------------------------------------------------------------

/-- Some step has an entry that leads to no definition. -/
theorem unresolvedReference_mem_issues_iff {id : String} {cause : UnresolvedReference}
    : .unresolvedReference id cause ∈ schema.issues
      ↔ ∃ step ∈ schema.steps, step.id = id
        ∧ ∃ entry ∈ step.fields, schema.resolve entry = .error cause := by
  simp only [mem_issues_iff, reduceCtorEq, and_false, exists_false, or_false]
  constructor
  · intro reported
    obtain ⟨_, other⟩ | ⟨step, listed, own⟩ := mem_stepIssues reported
    · cases other
    · obtain ⟨_, same, unresolved⟩ := mem_fieldIssues_iff.mp own
      cases same
      exact ⟨step, listed, rfl, unresolved⟩
  · rintro ⟨step, listed, rfl, unresolved⟩
    exact mem_stepIssues_of_mem_fieldIssues listed (mem_fieldIssues_iff.mpr ⟨_, rfl, unresolved⟩)

/-- Issues of other kinds are not among those of steps. -/
theorem not_mem_stepIssues {seen : List String} {steps : List Step} {issue : Issue}
    (new : ∀ id, issue ≠ .duplicateStep id)
    (leads : ∀ id cause, issue ≠ .unresolvedReference id cause)
    : issue ∉ stepIssues schema seen steps := by
  intro reported
  obtain ⟨id, same⟩ | ⟨step, -, own⟩ := mem_stepIssues reported
  · exact new id same
  · obtain ⟨cause, same, -⟩ := mem_fieldIssues_iff.mp own
    exact leads step.id cause same

/-- Some transition has an end that is not declared. -/
theorem unknownStep_mem_issues_iff {source target missing : String}
    : .unknownStep source target missing ∈ schema.issues
      ↔ ∃ transition ∈ schema.transitions, missing ∈ [transition.source, transition.target]
        ∧ missing ∉ schema.stepIds ∧ transition.source = source ∧ transition.target = target := by
  rw [mem_issues_iff, iff_false_intro (not_mem_stepIssues (by simp) (by simp)), false_or]
  simp only [reduceCtorEq, and_false, exists_false, or_false]
  refine exists_congr fun transition => and_congr_right fun _ => ⟨?_, ?_⟩
  · rintro ⟨_, isEnd, undeclared, same⟩
    cases same
    exact ⟨isEnd, undeclared, rfl, rfl⟩
  · rintro ⟨isEnd, undeclared, rfl, rfl⟩
    exact ⟨missing, isEnd, undeclared, rfl⟩

/-- More than one default transition leaves a step. -/
theorem ambiguousDefault_mem_issues_iff {step : String} {count : Nat}
    : .ambiguousDefault step count ∈ schema.issues
      ↔ 1 < schema.defaultCount step ∧ schema.defaultCount step = count := by
  rw [mem_issues_iff, iff_false_intro (not_mem_stepIssues (by simp) (by simp)), false_or]
  simp only [reduceCtorEq, and_false, exists_false, or_false, false_or,
    Issue.ambiguousDefault.injEq]
  exact ⟨by rintro ⟨_, several, rfl, counted⟩; exact ⟨several, counted⟩,
    fun ⟨several, counted⟩ => ⟨step, several, rfl, counted⟩⟩

/-- The expression of some computed field cannot be read. -/
theorem invalidExpression_mem_issues_iff {path : String} {cause : Expr.ParseError}
    : .invalidExpression path cause ∈ schema.issues
      ↔ ∃ field ∈ schema.computed, field.path = path ∧ Expr.parse field.expr = .error cause := by
  rw [mem_issues_iff, iff_false_intro (not_mem_stepIssues (by simp) (by simp)), false_or]
  simp only [reduceCtorEq, and_false, exists_false, or_false, false_or,
    Issue.invalidExpression.injEq]
  refine exists_congr fun field => and_congr_right fun _ => ⟨?_, ?_⟩
  · rintro ⟨_, unread, named, rfl⟩
    exact ⟨named, unread⟩
  · rintro ⟨named, unread⟩
    exact ⟨cause, unread, named, rfl⟩

/-- The computed fields cannot be put in order. -/
theorem circularDependency_mem_issues_iff {cause : Computed.CircularDependency}
    : .circularDependency cause ∈ schema.issues
      ↔ Computed.order schema.computed = .error cause := by
  rw [mem_issues_iff, iff_false_intro (not_mem_stepIssues (by simp) (by simp)), false_or]
  simp

end FormWizard.Schema
