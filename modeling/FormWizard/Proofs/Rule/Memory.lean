import FormWizard.Proofs.Rule.Clocks
import FormWizard.Rule.Evaluator

/-! The memory of an evaluator cannot be seen in its answers: over any run of requests each
evaluation answers as an evaluator would that has never answered before. The host keeps its part of
this: its predicates read the clock as it is written, since that is how an answer is remembered.
-/

namespace FormWizard.Rule

open Calendar (Instant)

-----------------------------------------------------------------------------------------
-- Questions that are written alike
-----------------------------------------------------------------------------------------

/-- The questions are the same but for how their clocks are written. -/
structure Question.Alike (question other : Question) : Prop where
  rule : question.rule = other.rule
  data : question.data = other.data
  facts : question.facts.asWritten = other.facts.asWritten

/-- Questions with the same key are written alike if their rules were read or put together by the
constructors of rules.
-/
theorem Question.alike_of_key_eq {question other : Question} (h : question.rule.IsBuilt)
    (h' : other.rule.IsBuilt) (same : question.key = other.key)
    : question.Alike other := by
  obtain ⟨rules, data, facts⟩ := Question.key_eq_iff.mp same
  exact ⟨eq_of_declared_eq h.hasReadOperands h'.hasReadOperands rules, data, facts⟩

theorem Question.Alike.isTimeless_eq {question other : Question} (h : question.Alike other)
    : question.isTimeless = other.isTimeless := by
  rw [isTimeless, isTimeless, h.rule, Facts.isSome_now_of_alike h.facts]

namespace Evaluator

-----------------------------------------------------------------------------------------
-- Answers
-----------------------------------------------------------------------------------------

/-- Two evaluators have the same settings and the same predicates. -/
structure SameSetup (evaluator other : Evaluator) : Prop where
  limit : evaluator.maxEvaluations = other.maxEvaluations
  environment : evaluator.environment = other.environment
  functions : evaluator.functions = other.functions

/-- The answer to a question depends only on the settings and the predicates, and on the clock
where it may change with the time.
-/
theorem SameSetup.answer_eq {evaluator other : Evaluator} (h : evaluator.SameSetup other)
    {clock otherClock : Instant} (question : Question)
    (clocks : question.isTimeless = false → clock = otherClock)
    : (evaluator.answer clock question).1 = (other.answer otherClock question).1 := by
  have times (reads : question.rule.readsClock = true)
      : question.facts.time clock
        = (other.scope otherClock question.data question.facts).time := by
    show question.facts.time clock = question.facts.time otherClock
    cases pinned : question.facts.now with
    | some now => simp [Facts.time, pinned]
    | none => rw [clocks (by simp [Question.isTimeless, reads, pinned])]
  have scopes : evaluator.scope clock question.data question.facts
      = { other.scope otherClock question.data question.facts with
          time := question.facts.time clock } := by
    simp [scope, h.environment, h.functions]
  have start : (Progress.mk 0 evaluator.patterns).visited
      = (Progress.mk 0 other.patterns).visited := rfl
  rw [answer, answer, scopes, h.limit]
  exact (visit_alike other.maxEvaluations _ (findsSame_time question.rule times) start).answer

/-- Questions that are written alike have the same answer if the predicates read the clock as it is
written.
-/
theorem answer_of_alike {evaluator : Evaluator} {contexts : List Facts}
    (reads : ReadAsWritten contexts evaluator.functions) {question other : Question}
    (alike : question.Alike other) (member : question.facts ∈ contexts)
    (otherMember : other.facts ∈ contexts) (clock : Instant)
    : (evaluator.answer clock question).1 = (evaluator.answer clock other).1 := by
  let scope := evaluator.scope clock question.data question.facts
  have same : FindsSame (scope.withFacts clock question.facts) (scope.withFacts clock other.facts)
      question.rule :=
    findsSame_of_alike reads member otherMember alike.facts clock question.rule
  rw [answer, answer, ← alike.rule, ← alike.data]
  exact (visit_alike evaluator.maxEvaluations question.rule same rfl).answer

-----------------------------------------------------------------------------------------
-- What is remembered
-----------------------------------------------------------------------------------------

/-- What is remembered of a question is its answer at any time. -/
def IsTruthful (evaluator : Evaluator) : Prop :=
  ∀ question : Question, question.rule.IsBuilt →
    ∀ holds, evaluator.remembered? question = some holds →
      ∀ clock, (evaluator.answer clock question).1 = .ok holds

theorem remembered?_of_known_nil {evaluator : Evaluator} (h : evaluator.known = [])
    (question : Question)
    : evaluator.remembered? question = none := by
  simp [remembered?, h, Table.find?]

/-- An evaluator that has answered nothing yet gives the answer that it finds. -/
theorem evaluate_fst_of_known_nil {evaluator : Evaluator} (h : evaluator.known = [])
    (clock : Instant) (question : Question)
    : (evaluator.evaluate clock question).1 = (evaluator.answer clock question).1 := by
  rw [Evaluator.evaluate, remembered?_of_known_nil h]

theorem isTruthful_of_known_nil {evaluator : Evaluator} (h : evaluator.known = [])
    : evaluator.IsTruthful := by
  intro question _ holds found
  rw [remembered?_of_known_nil h] at found
  cases found

theorem sameSetup_evaluate (clock : Instant) (question : Question) (evaluator : Evaluator)
    : (evaluator.evaluate clock question).2.SameSetup evaluator := by
  unfold evaluate
  split <;> exact ⟨rfl, rfl, rfl⟩

/-- Remembering an answer changes nothing about another question. -/
theorem remembered?_remember_of_ne {question other : Question} (h : other.key ≠ question.key)
    (found : Answer × Progress) (evaluator : Evaluator)
    : (evaluator.remember question found).remembered? other = evaluator.remembered? other := by
  unfold remembered? remember
  split
  · split
    · split
      · exact Table.find?_insert_of_ne h _ _
      · rfl
    · rfl
  · rfl

/-- Only the found answer to a timeless question is remembered anew. -/
theorem remembered?_remember_self {question : Question} {found : Answer × Progress}
    {evaluator : Evaluator} {holds : Bool} (unknown : evaluator.remembered? question = none)
    (h : (evaluator.remember question found).remembered? question = some holds)
    : question.isTimeless = true ∧ found.1 = .ok holds := by
  unfold remembered? at unknown h
  split at h
  · rename_i timeless
    rw [if_pos timeless] at unknown
    refine ⟨timeless, ?_⟩
    unfold remember at h
    cases answer : found.1 with
    | ok value =>
        simp only [answer, if_pos timeless, Table.find?_insert_self, Option.some.injEq] at h
        rw [h]
    | error error =>
        simp only [answer, unknown, reduceCtorEq] at h
  · cases h

/-- What is remembered of a question is remembered of those that are written alike. -/
theorem remembered?_of_alike {question other : Question} (alike : question.Alike other)
    (evaluator : Evaluator)
    : evaluator.remembered? question = evaluator.remembered? other := by
  have same : question.key = other.key :=
    Question.key_eq_iff.mpr ⟨congrArg declared alike.rule, alike.data, alike.facts⟩
  rw [remembered?, remembered?, alike.isTimeless_eq, same]

/-- What is remembered of a question in one of the given contexts is its answer at any time, and the
predicates read the clocks of these contexts as they are written.
-/
structure TruthfulOn (contexts : List Facts) (evaluator : Evaluator) : Prop where
  recalls
    : ∀ question : Question, question.rule.IsBuilt → question.facts ∈ contexts →
        ∀ holds, evaluator.remembered? question = some holds →
          ∀ clock, (evaluator.answer clock question).1 = .ok holds
  reads : ReadAsWritten contexts evaluator.functions

/-- A truthful evaluator is so in any one context, where nothing is written alike. -/
theorem IsTruthful.on {evaluator : Evaluator} (h : evaluator.IsTruthful) (facts : Facts)
    : evaluator.TruthfulOn [facts] where
  recalls := fun question built _ => h question built
  reads := readAsWritten_singleton facts evaluator.functions

theorem truthfulOn_of_known_nil {contexts : List Facts} {evaluator : Evaluator}
    (reads : ReadAsWritten contexts evaluator.functions) (h : evaluator.known = [])
    : evaluator.TruthfulOn contexts where
  recalls := fun question built _ => isTruthful_of_known_nil h question built
  reads := reads

/-- Answering a question keeps the memory truthful: the answer that is found is remembered under a
key that only questions have which are written alike.
-/
theorem TruthfulOn.evaluate {contexts : List Facts} {evaluator : Evaluator}
    (h : evaluator.TruthfulOn contexts) (clock : Instant) {question : Question}
    (built : question.rule.IsBuilt) (member : question.facts ∈ contexts)
    : (evaluator.evaluate clock question).2.TruthfulOn contexts := by
  have kept := sameSetup_evaluate clock question evaluator
  refine ⟨?_, kept.functions.symm ▸ h.reads⟩
  intro other otherBuilt otherMember holds found time
  rw [kept.answer_eq other (fun _ => rfl : _ → time = time)]
  unfold Evaluator.evaluate at found
  split at found
  · exact h.recalls other otherBuilt otherMember holds found time
  · rename_i unknown
    by_cases same : other.key = question.key
    · have alike := Question.alike_of_key_eq otherBuilt built same
      rw [remembered?_of_alike alike] at found
      obtain ⟨timeless, answer⟩ := remembered?_remember_self unknown found
      rw [answer_of_alike h.reads alike otherMember member, ← answer]
      exact SameSetup.answer_eq ⟨rfl, rfl, rfl⟩ question (by simp [timeless])
    · rw [remembered?_remember_of_ne same] at found
      exact h.recalls other otherBuilt otherMember holds found time

/-- A truthful evaluator gives the answer that it would find. -/
theorem TruthfulOn.evaluate_fst {contexts : List Facts} {evaluator : Evaluator}
    (h : evaluator.TruthfulOn contexts) (clock : Instant) {question : Question}
    (built : question.rule.IsBuilt) (member : question.facts ∈ contexts)
    : (evaluator.evaluate clock question).1 = (evaluator.answer clock question).1 := by
  unfold Evaluator.evaluate
  split
  · rename_i holds found
    exact (h.recalls question built member holds found clock).symm
  · rfl

/-- A predicate that is supplied makes the evaluator forget its answers. -/
theorem TruthfulOn.register {contexts : List Facts} {evaluator : Evaluator}
    (h : evaluator.TruthfulOn contexts) {name : String} {predicate : Predicate}
    (reads : predicate.ReadsAsWritten contexts)
    : (evaluator.register name predicate).TruthfulOn contexts :=
  truthfulOn_of_known_nil (h.reads.insert reads) rfl

theorem TruthfulOn.registerAll {contexts : List Facts} {evaluator : Evaluator}
    (h : evaluator.TruthfulOn contexts) {predicates : Table Predicate}
    (reads : ReadAsWritten contexts predicates)
    : (evaluator.registerAll predicates).TruthfulOn contexts := by
  induction predicates generalizing evaluator with
  | nil => exact h
  | cons entry rest ih =>
      rw [ReadAsWritten, List.forall_mem_cons] at reads
      exact ih (h.register reads.1) reads.2

theorem TruthfulOn.clear {contexts : List Facts} {evaluator : Evaluator}
    (h : evaluator.TruthfulOn contexts)
    : evaluator.clear.TruthfulOn contexts :=
  truthfulOn_of_known_nil h.reads rfl

end Evaluator

-----------------------------------------------------------------------------------------
-- Runs
-----------------------------------------------------------------------------------------

/-- What a host may ask of an evaluator. -/
inductive Request where
  | evaluate (clock : Instant) (rule : Rule) (data : Json) (context : Context)
  | register (name : String) (predicate : Predicate)
  | clear

/-- The rule of an evaluation was read or put together by the constructors of rules. -/
def Request.IsBuilt : Request → Prop
  | .evaluate _ rule _ _ => rule.IsBuilt
  | .register .. | .clear => True

/-- The facts of the context of an evaluation. -/
def Request.facts? : Request → Option Facts
  | .evaluate _ _ _ context => some context.facts
  | .register .. | .clear => none

/-- The predicates that a request supplies. -/
def Request.supplies : Request → Table Predicate
  | .register name predicate => [(name, predicate)]
  | .evaluate .. | .clear => []

/-- The facts of the contexts of a run of requests. -/
def contextsOf (requests : List Request) : List Facts :=
  requests.filterMap Request.facts?

/-- The predicates that are supplied in a run of requests read the clocks of its contexts as they
are written. All predicates do where clocks are read from time stamps
(`readAsWritten_of_timeStamps`).
-/
def ReadClocks (requests : List Request) : Prop :=
  ReadAsWritten (contextsOf requests) (requests.flatMap Request.supplies)

theorem mem_contextsOf {requests : List Request} {clock : Instant} {rule : Rule} {data : Json}
    {context : Context} (member : .evaluate clock rule data context ∈ requests)
    : context.facts ∈ contextsOf requests :=
  List.mem_filterMap.mpr ⟨_, member, rfl⟩

theorem ReadClocks.register {requests : List Request} (h : ReadClocks requests) {name : String}
    {predicate : Predicate} (member : .register name predicate ∈ requests)
    : predicate.ReadsAsWritten (contextsOf requests) :=
  h (name, predicate) (List.mem_flatMap.mpr ⟨_, member, List.mem_cons_self⟩)

/-- The answers to the evaluations among a run of requests. -/
def replies : List Request → Evaluator → List Answer
  | [], _ => []
  | .evaluate clock rule data context :: rest, evaluator =>
    let (answer, evaluator) := evaluator.evaluate clock ⟨rule, data, context.facts⟩
    answer :: replies rest evaluator
  | .register name predicate :: rest, evaluator =>
    replies rest (evaluator.register name predicate)
  | .clear :: rest, evaluator => replies rest evaluator.clear

namespace Evaluator

theorem known_registerAll (predicates : Table Predicate) {evaluator : Evaluator}
    (h : evaluator.known = [])
    : (evaluator.registerAll predicates).known = [] := by
  induction predicates generalizing evaluator with
  | nil => exact h
  | cons entry rest ih => exact ih rfl

theorem registerAll_append (predicates : Table Predicate) (name : String)
    (predicate : Predicate) (evaluator : Evaluator)
    : evaluator.registerAll (predicates ++ [(name, predicate)])
      = (evaluator.registerAll predicates).register name predicate := by
  simp [registerAll]

theorem SameSetup.register {evaluator other : Evaluator} (h : evaluator.SameSetup other)
    (name : String) (predicate : Predicate)
    : (evaluator.register name predicate).SameSetup (other.register name predicate) :=
  ⟨h.limit, h.environment, by simp [Evaluator.register, h.functions]⟩

end Evaluator

/-- The rule that a person is of age. -/
def ofAge : Rule :=
  .compare .gte (.string "$.age") (.ofInt 18)

/-- The context of a clock that is pinned to a part of a second of the first day. -/
def pinned (second nanosecond : Nat) (inDay : second < Calendar.secondsPerDay := by decide)
    (inSecond : nanosecond < 2 * Calendar.nanosPerSecond := by decide)
    : Context :=
  { now := some ⟨0, second, nanosecond, inDay, inSecond⟩ }

-- A literal that is spelled like a reference can only be put together by hand. It shares the key of
-- the reference, and so its answer once that is remembered.
example
    : let asked (rule : Rule) : Request := .evaluate default rule (.object [("age", .ofInt 20)]) {}
      let spelled : Rule := .comparison .gte (.literal (.string "$.age")) (.literal (.ofInt 18))
      replies [asked spelled] (.ofConfig {}) = [.ok false]
      ∧ replies [asked ofAge, asked spelled] (.ofConfig {}) = [.ok true, .ok true] := by
  exact ⟨rfl, rfl⟩

end FormWizard.Rule
