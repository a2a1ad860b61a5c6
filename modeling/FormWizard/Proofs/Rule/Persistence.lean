import FormWizard.Proofs.Rule.Memory

/-! An evaluator stands by its answers: what it has answered once it answers again, whatever it was
asked in between. This holds of any memory, a truthful one or not.
-/

namespace FormWizard.Rule.Evaluator

open Calendar (Instant)

/-- The later evaluator is set up like the earlier one, and remembers all that the earlier one
remembers.
-/
structure Extends (later earlier : Evaluator) : Prop where
  setup : later.SameSetup earlier
  kept : ∀ {key holds}, Table.find? key earlier.known = some holds →
    Table.find? key later.known = some holds

theorem SameSetup.trans {first second third : Evaluator} (h : first.SameSetup second)
    (h' : second.SameSetup third)
    : first.SameSetup third :=
  ⟨h.limit.trans h'.limit, h.environment.trans h'.environment, h.functions.trans h'.functions⟩

theorem SameSetup.symm {evaluator other : Evaluator} (h : evaluator.SameSetup other)
    : other.SameSetup evaluator :=
  ⟨h.limit.symm, h.environment.symm, h.functions.symm⟩

theorem Extends.refl (evaluator : Evaluator) : evaluator.Extends evaluator :=
  ⟨⟨rfl, rfl, rfl⟩, id⟩

theorem Extends.trans {last later earlier : Evaluator} (h : last.Extends later)
    (h' : later.Extends earlier)
    : last.Extends earlier :=
  ⟨h.setup.trans h'.setup, fun found => h.kept (h'.kept found)⟩

theorem Extends.remembered? {later earlier : Evaluator} (h : later.Extends earlier)
    {question : Question} {holds : Bool}
    (found : earlier.remembered? question = some holds)
    : later.remembered? question = some holds := by
  unfold Evaluator.remembered? at found ⊢
  split at found
  · rename_i timeless
    rw [if_pos timeless]
    exact h.kept found
  · cases found

/-- Remembering an answer adds at most one entry, under a key that had none. -/
theorem find?_known_remember {question : Question} {evaluator : Evaluator}
    (unknown : evaluator.remembered? question = none) (found : Answer × Progress) {key : String}
    {holds : Bool} (h : Table.find? key evaluator.known = some holds)
    : Table.find? key (evaluator.remember question found).known = some holds := by
  simp only [remember]
  split
  · split
    · rename_i timeless
      rw [Evaluator.remembered?, if_pos timeless] at unknown
      have other : key ≠ question.key := by
        rintro rfl
        cases unknown.symm.trans h
      rw [Table.find?_insert_of_ne other]
      exact h
    · exact h
  · exact h

theorem extends_evaluate (clock : Instant) (question : Question) (evaluator : Evaluator)
    : (evaluator.evaluate clock question).2.Extends evaluator := by
  refine ⟨sameSetup_evaluate clock question evaluator, ?_⟩
  intro key holds h
  unfold evaluate
  split
  · exact h
  · rename_i unknown
    exact find?_known_remember unknown _ h

/-- The answer to a timeless question is remembered once it was given. -/
theorem remembered?_evaluate {clock : Instant} {question : Question} {evaluator : Evaluator}
    {holds : Bool} (timeless : question.isTimeless = true)
    (h : (evaluator.evaluate clock question).1 = .ok holds)
    : (evaluator.evaluate clock question).2.remembered? question = some holds := by
  unfold evaluate at h ⊢
  split at h
  · rename_i known
    cases h
    exact known
  · replace h : (evaluator.answer clock question).1 = .ok holds := h
    simp [Evaluator.remembered?, remember, timeless, h]

/-- What was answered once is answered again later. Witness: the answer to a timeless question is
remembered by then, and any other one is found anew, at the same time and with the same setup.
-/
theorem Extends.evaluate {clock : Instant} {question : Question} {later evaluator : Evaluator}
    (h : later.Extends (evaluator.evaluate clock question).2) {holds : Bool}
    (answered : (evaluator.evaluate clock question).1 = .ok holds)
    : (later.evaluate clock question).1 = .ok holds := by
  cases timeless : question.isTimeless with
  | true =>
      have found := h.remembered? (remembered?_evaluate timeless answered)
      simp [Evaluator.evaluate, found]
  | false =>
      have unknown (evaluator : Evaluator) : evaluator.remembered? question = none := by
        simp [Evaluator.remembered?, timeless]
      have setup := h.setup.trans (sameSetup_evaluate clock question evaluator)
      simp only [Evaluator.evaluate, unknown] at answered ⊢
      rw [setup.answer_eq question fun _ => rfl]
      exact answered

end FormWizard.Rule.Evaluator
