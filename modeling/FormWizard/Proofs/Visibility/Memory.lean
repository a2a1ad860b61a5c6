import FormWizard.Proofs.Rule.Persistence
import FormWizard.Proofs.Visibility.Verdicts

/-! What a judge of visibility remembers. As long as every element comes with one and the same rule,
each verdict is the one that the rule of the element comes to when it is asked anew, whatever the
judge and its evaluator remember.
-/

namespace FormWizard

open Calendar (Instant)

-----------------------------------------------------------------------------------------
-- Keys of views
-----------------------------------------------------------------------------------------

/-- Texts that are split at the last mark in them. -/
theorem Text.append_cons_inj_right {left right rest more : List Char} {mark : Char}
    (h : mark ∉ rest) (h' : mark ∉ more) (same : left ++ mark :: rest = right ++ mark :: more)
    : left = right ∧ rest = more := by
  replace same := congrArg List.reverse same
  simp only [List.reverse_append, List.reverse_cons, List.append_assoc, List.singleton_append]
    at same
  obtain ⟨back, front⟩ := append_cons_inj (by simpa using h) (by simpa using h') same
  exact ⟨List.reverse_injective front, List.reverse_injective back⟩

namespace Visibility

theorem separator_notMem_key (facts : Facts) : '\x1f' ∉ facts.key.toList :=
  Rule.separator_notMem_text _

/-- Views with the same key have the same element and the same data, and facts that are written
alike. The element may hold the separator itself, but the other two parts do not, so the key can be
split from its end.
-/
theorem View.alike_of_key_eq {view other : View} (same : view.key = other.key)
    : view.element = other.element ∧ view.data = other.data
      ∧ view.facts.asWritten = other.facts.asWritten := by
  have chars (view : View)
      : view.key.toList
        = (view.element.toList ++ '\x1f' :: view.data.text.toList)
          ++ '\x1f' :: view.facts.key.toList := by
    simp [View.key]
  replace same := congrArg String.toList same
  rw [chars, chars] at same
  obtain ⟨front, facts⟩ :=
    Text.append_cons_inj_right (separator_notMem_key _) (separator_notMem_key _) same
  obtain ⟨elements, values⟩ :=
    Text.append_cons_inj_right (Rule.separator_notMem_text _) (Rule.separator_notMem_text _) front
  exact ⟨String.toList_injective elements, Json.text_injective (String.toList_injective values),
    Facts.key_eq_iff.mp (String.toList_injective facts)⟩

-----------------------------------------------------------------------------------------
-- Verdicts without a memory
-----------------------------------------------------------------------------------------

/-- The settings of a judge, and the predicates that it was supplied with so far. -/
structure Host where
  config : Config
  predicates : Table Rule.Predicate

namespace Host

/-- An evaluator with these settings and predicates that has answered nothing yet. -/
def fresh (host : Host) : Rule.Evaluator :=
  (Rule.Evaluator.ofConfig host.config).registerAll host.predicates

/-- Whether an element with the given rule is shown: without a rule it is, and otherwise it is if
its rule, evaluated afresh, holds or has no answer.
-/
def shows (host : Host) (clock : Instant) (rule : Option Rule) (data : Json) (facts : Facts)
    : Bool :=
  match rule with
  | none => true
  | some rule =>
    match (host.fresh.evaluate clock ⟨rule, data, facts⟩).1 with
    | .ok holds => holds
    | .error _ => true

variable {host : Host} {evaluator : Rule.Evaluator} {rule : Rule}

theorem known_fresh (host : Host) : host.fresh.known = [] :=
  Rule.Evaluator.known_registerAll _ rfl

theorem isTruthful_fresh (host : Host) : host.fresh.IsTruthful :=
  Rule.Evaluator.isTruthful_of_known_nil host.known_fresh

variable {contexts : List Facts} {clock other : Instant} {data : Json} {facts : Facts}

/-- A truthful evaluator that is set up alike has the same answer as one that has answered nothing
yet, at another time too unless the answer may change with the time.
-/
theorem evaluate_fst (truthful : evaluator.TruthfulOn contexts)
    (setup : evaluator.SameSetup host.fresh) (built : rule.IsBuilt) (member : facts ∈ contexts)
    (clocks : (Rule.Question.mk rule data facts).isTimeless = false → clock = other)
    : (evaluator.evaluate clock ⟨rule, data, facts⟩).1
      = (host.fresh.evaluate other ⟨rule, data, facts⟩).1 := by
  rw [truthful.evaluate_fst clock built member, setup.answer_eq ⟨rule, data, facts⟩ clocks,
    Rule.Evaluator.evaluate_fst_of_known_nil host.known_fresh]

theorem verdict_evaluate (truthful : evaluator.TruthfulOn contexts)
    (setup : evaluator.SameSetup host.fresh) (built : rule.IsBuilt) (member : facts ∈ contexts)
    (clocks : (Rule.Question.mk rule data facts).isTimeless = false → clock = other)
    : verdict (evaluator.evaluate clock ⟨rule, data, facts⟩).1
      = host.shows other (some rule) data facts :=
  congrArg verdict (evaluate_fst truthful setup built member clocks)

/-- An element is shown alike in contexts that are written alike. -/
theorem shows_of_alike (reads : Rule.ReadAsWritten contexts host.fresh.functions)
    {otherFacts : Facts} (member : facts ∈ contexts) (otherMember : otherFacts ∈ contexts)
    (alike : facts.asWritten = otherFacts.asWritten) (clock : Instant) (rule : Rule) (data : Json)
    : host.shows clock (some rule) data facts = host.shows clock (some rule) data otherFacts := by
  have questions : Rule.Question.Alike ⟨rule, data, facts⟩ ⟨rule, data, otherFacts⟩ :=
    ⟨rfl, rfl, alike⟩
  have answers := Rule.Evaluator.answer_of_alike reads questions member otherMember clock
  have fresh := Rule.Evaluator.evaluate_fst_of_known_nil host.known_fresh clock
  simp only [shows, fresh, answers]

end Host

-----------------------------------------------------------------------------------------
-- Faithful judges
-----------------------------------------------------------------------------------------

/-- Every element that is used comes with one and the same rule. -/
def OneRule (uses : List Use) : Prop :=
  ∀ use ∈ uses, ∀ other ∈ uses, use.1 = other.1 → use.2 = other.2

instance (uses : List Use) : Decidable (OneRule uses) :=
  inferInstanceAs (Decidable (∀ use ∈ uses, ∀ other ∈ uses, use.1 = other.1 → use.2 = other.2))

/-- The rules that are used were read or put together by the constructors of rules. -/
def AreBuilt (uses : List Use) : Prop :=
  ∀ element rule, (element, some rule) ∈ uses → rule.IsBuilt

/-- The judge answers for the elements in use as their rules do in the given contexts: its evaluator
is truthful and set up as the host has it, and each verdict that is remembered of an element in use
is that of its rule at any time.
-/
structure Faithful (contexts : List Facts) (uses : List Use) (host : Host) (judge : Visibility)
    : Prop where
  truthful : judge.evaluator.TruthfulOn contexts
  setup : judge.evaluator.SameSetup host.fresh
  known : ∀ {element rule data facts shown}, (element, some rule) ∈ uses → facts ∈ contexts →
    (Rule.Question.mk rule data facts).isTimeless = true →
    Table.find? (View.mk element data facts).key judge.known = some shown →
    ∀ clock, host.shows clock (some rule) data facts = shown

variable {contexts : List Facts} {uses : List Use} {host : Host} {judge : Visibility}

/-- A judge who remembers no verdict has none that is wrong. -/
theorem faithful_of_known_nil (truthful : judge.evaluator.TruthfulOn contexts)
    (setup : judge.evaluator.SameSetup host.fresh) (h : judge.known = [])
    : Faithful contexts uses host judge where
  truthful := truthful
  setup := setup
  known := by
    intro _ _ _ _ _ _ _ _ found
    rw [h] at found
    cases found

/-- Asking the evaluator of a faithful judge leaves it faithful. -/
theorem Faithful.evaluate (h : Faithful contexts uses host judge) (clock : Instant)
    {question : Rule.Question} (built : question.rule.IsBuilt) (member : question.facts ∈ contexts)
    : Faithful contexts uses host
        { judge with evaluator := (judge.evaluator.evaluate clock question).2 } where
  truthful := h.truthful.evaluate clock built member
  setup := (Rule.Evaluator.sameSetup_evaluate clock question judge.evaluator).trans h.setup
  known := h.known

/-- Remembering the verdict of a timeless rule leaves a judge faithful. What it is remembered by
belongs to no other element, the element has no other rule, and its rule shows it alike in contexts
that are written alike.
-/
theorem Faithful.insert (h : Faithful contexts uses host judge) (one : OneRule uses)
    {element : String} {rule : Rule} (use : (element, some rule) ∈ uses) {data : Json}
    {facts : Facts} (member : facts ∈ contexts) {shown : Bool}
    (verdict : ∀ clock, host.shows clock (some rule) data facts = shown)
    : Faithful contexts uses host
        { judge with known := judge.known.insert (View.mk element data facts).key shown } where
  truthful := h.truthful
  setup := h.setup
  known := by
    intro other otherRule otherData otherFacts otherShown otherUse otherMember timeless found clock
    by_cases same : (View.mk other otherData otherFacts).key = (View.mk element data facts).key
    · obtain ⟨rfl, rfl, alike⟩ := View.alike_of_key_eq same
      obtain rfl : otherRule = rule := Option.some.inj (one _ otherUse _ use rfl)
      rw [same, Table.find?_insert_self] at found
      rw [← Option.some.inj found, ← verdict clock]
      exact Host.shows_of_alike (h.setup.functions ▸ h.truthful.reads) otherMember member alike
        clock _ _
    · rw [Table.find?_insert_of_ne same] at found
      exact h.known otherUse otherMember timeless found clock

/-- A faithful judge finds of an element in use what its rule says. -/
theorem Faithful.judgeBy (h : Faithful contexts uses host judge) (one : OneRule uses)
    {element : String} {rule : Rule} (use : (element, some rule) ∈ uses) (built : rule.IsBuilt)
    (clock : Instant) (data : Json) {facts : Facts} (member : facts ∈ contexts)
    : Judged (host.shows clock (some rule) data facts) (Faithful contexts uses host)
        (judge.judgeBy clock rule ⟨element, data, facts⟩) := by
  have fresh {other : Instant}
      (clocks : (Rule.Question.mk rule data facts).isTimeless = false → clock = other) :=
    host.verdict_evaluate h.truthful h.setup built member clocks
  have asked : Faithful contexts uses host
      { judge with evaluator := (judge.evaluator.evaluate clock ⟨rule, data, facts⟩).2 } :=
    h.evaluate clock built member
  cases timeless : (Rule.Question.mk rule data facts).isTimeless with
  | false =>
      rw [judgeBy_of_timed timeless]
      exact ⟨fresh fun _ => rfl, asked⟩
  | true =>
      cases found : Table.find? (View.mk element data facts).key judge.known with
      | some shown =>
          rw [judgeBy_of_known timeless found]
          exact ⟨(h.known use member timeless found clock).symm, h⟩
      | none =>
          rw [judgeBy_of_unknown timeless found]
          refine ⟨fresh fun _ => rfl, asked.insert one use member fun other => ?_⟩
          exact (fresh (by simp [timeless])).symm

/-- A faithful judge stays ready for all elements in use, and finds of each what its rule says. -/
theorem answers_faithful (one : OneRule uses) (built : AreBuilt uses) (clock : Instant)
    (data : Json) {facts : Facts} (member : facts ∈ contexts)
    : Answers clock data facts
        (fun rest judge => rest ⊆ uses ∧ Faithful contexts uses host judge)
        (fun use => host.shows clock use.2 data facts) := by
  refine ⟨?_⟩
  rintro ⟨element, rule⟩ rest judge ⟨use, h⟩
  obtain ⟨use, others⟩ := List.cons_subset.mp use
  cases rule with
  | none => exact ⟨rfl, others, h⟩
  | some rule =>
      have judged := h.judgeBy one use (built element rule use) clock data member
      exact ⟨judged.answer, others, judged.after⟩

end Visibility

end FormWizard
