import FormWizard.Proofs.Navigation.Decisions
import FormWizard.Proofs.Visibility.Passes
import FormWizard.Proofs.Visibility.Runs

/-! Runs of requests to a guide. Whatever a guide was asked before, about whichever forms, data and
contexts, its evaluator is as good as one that has answered nothing yet. Unlike the verdicts of its
judge of visibility, this does not need an element to come with the same rule each time.
-/

namespace FormWizard

open Calendar (Instant)
open Json (Document)
open Navigation (Situation)
open Rule (Evaluator)

-----------------------------------------------------------------------------------------
-- Evaluators
-----------------------------------------------------------------------------------------

variable {contexts : List Facts}

namespace Rule.Evaluator.InterchangeableOn

variable {evaluator other : Evaluator}

/-- Answering a question leaves an evaluator interchangeable with what it was interchangeable with.
-/
theorem evaluate (h : evaluator.InterchangeableOn contexts other) (clock : Instant)
    {question : Question} (built : question.rule.IsBuilt) (member : question.facts ∈ contexts)
    : (evaluator.evaluate clock question).2.InterchangeableOn contexts other where
  truthful := h.truthful.evaluate clock built member
  truthful' := h.truthful'
  setup := (sameSetup_evaluate clock question evaluator).trans h.setup

/-- An evaluator that has forgotten its answers is as good as before. -/
theorem clear (h : evaluator.InterchangeableOn contexts other)
    : evaluator.clear.InterchangeableOn contexts other where
  truthful := h.truthful.clear
  truthful' := h.truthful'
  setup := ⟨h.setup.limit, h.setup.environment, h.setup.functions⟩

/-- A predicate that is supplied to an evaluator is supplied to the host. -/
theorem register {host : Visibility.Host} (h : evaluator.InterchangeableOn contexts host.fresh)
    {name : String} {predicate : Predicate} (reads : predicate.ReadsAsWritten contexts)
    : (evaluator.register name predicate).InterchangeableOn contexts
        (host.after (.register name predicate)).fresh := by
  have fresh : (host.after (.register name predicate)).fresh
      = host.fresh.register name predicate := registerAll_append ..
  rw [fresh]
  exact ⟨h.truthful.register reads, h.truthful'.register reads, h.setup.register name predicate⟩

end Rule.Evaluator.InterchangeableOn

namespace Visibility

variable {host : Host} {judge : Visibility}

/-- In the given contexts the evaluator of the judge is as good as one that has answered nothing
yet.
-/
def AnswersFor (contexts : List Facts) (host : Host) (judge : Visibility) : Prop :=
  judge.evaluator.InterchangeableOn contexts host.fresh

theorem keeps_answersFor {uses : List Use} (built : AreBuilt uses) (clock : Instant) (data : Json)
    {facts : Facts} (member : facts ∈ contexts)
    : Keeps clock data facts (AnswersFor contexts host) uses := by
  rintro ⟨element, rule⟩ use judge h
  cases rule with
  | none => exact h
  | some rule =>
      simp only [isVisible, judgeBy]
      split
      · exact h
      · exact h.evaluate clock (built element rule use) member

/-- Whatever a judge is asked, its evaluator stays as good as a new one. -/
theorem AnswersFor.respond (h : AnswersFor contexts host judge) {request : Request}
    (built : ∀ rule ∈ request.rules, rule.IsBuilt)
    (inContexts : ∀ facts ∈ request.facts?, facts ∈ contexts)
    (reads : Rule.ReadAsWritten contexts request.supplies)
    : AnswersFor contexts (host.after request) (respond request judge).2 := by
  have uses : AreBuilt request.uses := by
    simpa using areBuilt_uses (List.forall_mem_singleton.mpr built)
  cases request with
  | judge clock element rule data context =>
      exact keeps_answersFor uses clock data (inContexts _ rfl) (element, rule)
        List.mem_cons_self judge h
  | steps clock schema data context =>
      exact (keeps_answersFor uses clock data (inContexts _ rfl)).stepVerdicts h
  | fields clock schema step data context =>
      have kept : Keeps clock data context.facts (AnswersFor contexts host) _ :=
        keeps_answersFor uses clock data (inContexts _ rfl)
      rw [Request.uses] at kept
      simp only [Visibility.respond, visibleFields]
      cases declared : schema.step? step with
      | none => exact h
      | some found =>
          rw [declared] at kept
          exact kept.fieldVerdicts h
  | elements clock schema data context =>
      exact (keeps_answersFor uses clock data (inContexts _ rfl)).elementVerdicts h
  | evaluate clock rule data context =>
      exact h.evaluate clock (built rule List.mem_cons_self) (inContexts _ rfl)
  | register name predicate => exact h.register (reads (name, predicate) List.mem_cons_self)
  | clear => exact h.clear

end Visibility

namespace Navigator

-----------------------------------------------------------------------------------------
-- Requests
-----------------------------------------------------------------------------------------

/-- What may be asked of a guide, of its judge of visibility, and of the evaluator of that judge. -/
inductive Request where
  | next (clock : Instant) (situation : Situation) (step : String)
  | canMove (clock : Instant) (situation : Situation) (source target : String)
  | path (clock : Instant) (situation : Situation) (start goal : String) (maxSteps : Option Nat)
  | previous (clock : Instant) (situation : Situation) (step : String)
  /-- The judge is asked, or its evaluator. -/
  | visibility (request : Visibility.Request)
  /-- A predicate is supplied to the evaluator alone; the judge keeps its verdicts. -/
  | registerRule (name : String) (predicate : Rule.Predicate)
  /-- The evaluator alone forgets its answers; the judge keeps its verdicts. -/
  | clearAnswers
  | clearCache
  | clearHistory

namespace Request

/-- The rules that the request may have evaluated were read or put together by the constructors of
rules.
-/
def IsBuilt : Request → Prop
  | .next _ situation _ | .canMove _ situation _ _ | .path _ situation _ _ _ => situation.IsBuilt
  | .previous _ situation _ => Visibility.AreBuilt (situation.schema.steps.map Visibility.stepUse)
  | .visibility request => ∀ rule ∈ request.rules, rule.IsBuilt
  | .registerRule .. | .clearAnswers | .clearCache | .clearHistory => True

/-- The facts of the context of a request. -/
def facts? : Request → Option Facts
  | .next _ situation _ | .canMove _ situation _ _ | .path _ situation _ _ _
  | .previous _ situation _ => some situation.context.facts
  | .visibility request => request.facts?
  | .registerRule .. | .clearAnswers | .clearCache | .clearHistory => none

/-- The predicates that a request supplies. -/
def supplies : Request → Table Rule.Predicate
  | .visibility request => request.supplies
  | .registerRule name predicate => [(name, predicate)]
  | _ => []

/-- The host after the request: a predicate that was supplied is there from now on. -/
def hostAfter (host : Visibility.Host) : Request → Visibility.Host
  | .visibility request => host.after request
  | .registerRule name predicate => host.after (.register name predicate)
  | _ => host

end Request

/-- The facts of the contexts of a run of requests. -/
def contextsOf (requests : List Request) : List Facts :=
  requests.filterMap Request.facts?

/-- The predicates that are supplied in a run of requests read the clocks of its contexts as they
are written. All predicates do where clocks are read from time stamps
(`readAsWritten_of_timeStamps`).
-/
def ReadClocks (requests : List Request) : Prop :=
  Rule.ReadAsWritten (contextsOf requests) (requests.flatMap Request.supplies)

theorem mem_contextsOf {requests : List Request} {request : Request} {facts : Facts}
    (member : request ∈ requests) (found : request.facts? = some facts)
    : facts ∈ contextsOf requests :=
  List.mem_filterMap.mpr ⟨request, member, found⟩

theorem ReadClocks.supplies {requests : List Request} (h : ReadClocks requests) {request : Request}
    (member : request ∈ requests)
    : Rule.ReadAsWritten (contextsOf requests) request.supplies :=
  fun entry supplied => h entry (List.mem_flatMap.mpr ⟨request, member, supplied⟩)

/-- The guide after a request. -/
def perform (navigator : Navigator) : Request → Navigator
  | .next clock situation step => (navigator.next clock situation step).2
  | .canMove clock situation source target =>
    (navigator.canMove clock situation source target).2
  | .path clock situation start goal maxSteps =>
    (navigator.path clock situation start goal maxSteps).2
  | .previous clock situation step => (navigator.previous clock situation step).2
  | .visibility request =>
    { navigator with visibility := (Visibility.respond request navigator.visibility).2 }
  | .registerRule name predicate =>
    { navigator with visibility := navigator.visibility.registerRule name predicate }
  | .clearAnswers =>
    let evaluator := navigator.visibility.evaluator.clear
    { navigator with visibility := { navigator.visibility with evaluator } }
  | .clearCache => navigator.clearCache
  | .clearHistory => navigator.clearHistory

/-- The guide after a run of requests. -/
def after (navigator : Navigator) (requests : List Request) : Navigator :=
  requests.foldl perform navigator

/-- The host of a new guide with the given settings after a run of requests. -/
def hostAfter (config : Config) (requests : List Request) : Visibility.Host :=
  requests.foldl Request.hostAfter ⟨config, Rule.Predicates.builtin⟩

-----------------------------------------------------------------------------------------
-- Walks
-----------------------------------------------------------------------------------------

/-- What every decision leaves true of a guide, a walk leaves true as well, by induction on the
moves that are left.
-/
theorem walk_induction {motive : Navigator → Prop} {clock : Instant} {situation : Situation}
    (decides : ∀ step navigator, motive navigator →
      motive (navigator.decision clock situation step).2)
    {goal : String} {moves : Nat} {step : String} {before : List String} {navigator : Navigator}
    (start : motive navigator)
    : motive (navigator.walk clock situation goal moves step before).2 := by
  induction moves generalizing step before navigator with
  | zero => exact start
  | succ moves ih =>
      have decided : motive (navigator.decision clock situation step).2 :=
        decides step navigator start
      rw [walk]
      revert decided
      rcases navigator.decision clock situation step with ⟨answer, next⟩
      intro decided
      rcases answer with error | _ | transition
      · exact decided
      · exact decided
      · dsimp only
        split
        · exact decided
        · split
          · exact decided
          · exact ih decided

-----------------------------------------------------------------------------------------
-- Guides that decide for a host
-----------------------------------------------------------------------------------------

variable {host : Visibility.Host} {navigator : Navigator} {clock : Instant} {situation : Situation}

/-- The guide has the review steps of the host, and an evaluator that is as good in the given
contexts as one that has answered nothing yet.
-/
structure DecidesFor (contexts : List Facts) (host : Visibility.Host) (navigator : Navigator)
    : Prop where
  visibility : navigator.visibility.AnswersFor contexts host
  reviewSteps : navigator.reviewSteps = host.config.reviewSteps

namespace DecidesFor

/-- A guide with the given settings, which was asked nothing yet, decides by them. -/
theorem ofConfig (config : Config) (contexts : List Facts)
    : DecidesFor contexts ⟨config, Rule.Predicates.builtin⟩ (.ofConfig config) where
  visibility :=
    have start : (Rule.Evaluator.ofConfig config).TruthfulOn contexts :=
      Rule.Evaluator.truthfulOn_of_known_nil (List.forall_mem_nil _) rfl
    have truthful := start.registerAll (Rule.Predicates.readAsWritten_builtin contexts)
    ⟨truthful, truthful, ⟨rfl, rfl, rfl⟩⟩
  reviewSteps := rfl

theorem decision (h : DecidesFor contexts host navigator) (built : situation.IsBuilt)
    (member : situation.context.facts ∈ contexts) (step : String)
    : DecidesFor contexts host (navigator.decision clock situation step).2 := by
  have grown : (navigator.decision clock situation step).2.Extends navigator :=
    extends_decision step navigator
  have itself : Related (Evaluator.InterchangeableOn contexts) navigator navigator :=
    ⟨⟨h.visibility.truthful, h.visibility.truthful, ⟨rfl, rfl, rfl⟩⟩, rfl⟩
  have agree : situation.Agree (Evaluator.InterchangeableOn contexts) clock clock :=
    Situation.agree_interchangeable built member (.inr rfl)
  obtain ⟨-, decided⟩ := decision_agree agree step itself
  exact ⟨⟨decided.evaluator.truthful, h.visibility.truthful',
    grown.evaluator.setup.trans h.visibility.setup⟩, grown.reviewSteps.trans h.reviewSteps⟩

theorem next (h : DecidesFor contexts host navigator) (built : situation.IsBuilt)
    (member : situation.context.facts ∈ contexts) (step : String)
    : DecidesFor contexts host (navigator.next clock situation step).2 := by
  have decided : DecidesFor contexts host (navigator.decision clock situation step).2 :=
    h.decision built member step
  have moved := related_next clock situation step navigator
  exact ⟨by rw [Visibility.AnswersFor, moved.evaluator]; exact decided.visibility,
    moved.reviewSteps.trans decided.reviewSteps⟩

theorem walk (h : DecidesFor contexts host navigator) (built : situation.IsBuilt)
    (member : situation.context.facts ∈ contexts) (goal : String) {moves : Nat} {step : String}
    {before : List String}
    : DecidesFor contexts host (navigator.walk clock situation goal moves step before).2 :=
  walk_induction (fun step _ decides => decides.decision built member step) h

/-- Every request leaves the guide deciding for the host as it is then. -/
theorem perform (h : DecidesFor contexts host navigator) {request : Request}
    (built : request.IsBuilt) (inContexts : ∀ facts ∈ request.facts?, facts ∈ contexts)
    (reads : Rule.ReadAsWritten contexts request.supplies)
    : DecidesFor contexts (request.hostAfter host) (navigator.perform request) := by
  cases request with
  | next clock situation step => exact h.next built (inContexts _ rfl) step
  | canMove clock situation source target => exact h.decision built (inContexts _ rfl) source
  | path clock situation start goal maxSteps =>
      simp only [Navigator.perform, Navigator.path]
      split
      · exact h
      · exact h.walk built (inContexts _ rfl) goal
  | previous clock situation step =>
      exact ⟨(Visibility.keeps_answersFor built _ _ (inContexts _ rfl)).stepVerdicts h.visibility,
        h.reviewSteps⟩
  | visibility request =>
      refine ⟨h.visibility.respond built inContexts reads, ?_⟩
      cases request <;> exact h.reviewSteps
  | registerRule name predicate =>
      exact ⟨h.visibility.register (reads (name, predicate) List.mem_cons_self), h.reviewSteps⟩
  | clearAnswers => exact ⟨h.visibility.clear, h.reviewSteps⟩
  | clearCache => exact ⟨h.visibility.clear, h.reviewSteps⟩
  | clearHistory => exact ⟨h.visibility, h.reviewSteps⟩

/-- So does a part of a run of requests, by induction on that part. -/
theorem run {run requests : List Request} (h : DecidesFor (contextsOf run) host navigator)
    (built : ∀ request ∈ requests, request.IsBuilt) (reads : ReadClocks run)
    (sub : requests ⊆ run)
    : DecidesFor (contextsOf run) (requests.foldl Request.hostAfter host)
        (navigator.after requests) := by
  induction requests generalizing host navigator with
  | nil => exact h
  | cons request rest ih =>
      rw [List.forall_mem_cons] at built
      rw [List.cons_subset] at sub
      exact ih (h.perform built.1 (fun _ => mem_contextsOf sub.1) (reads.supplies sub.1)) built.2
        sub.2

/-- A new guide decides for its host after any part of a run of requests. -/
theorem after (config : Config) {run requests : List Request}
    (built : ∀ request ∈ requests, request.IsBuilt) (reads : ReadClocks run)
    (sub : requests ⊆ run)
    : DecidesFor (contextsOf run) (hostAfter config requests)
        ((Navigator.ofConfig config).after requests) :=
  (ofConfig config (contextsOf run)).run built reads sub

end DecidesFor

-----------------------------------------------------------------------------------------
-- Messages
-----------------------------------------------------------------------------------------

/-- What reaches a guide from outside. Rules and forms come as documents, in which an operand that
is spelled like a reference is one.
-/
inductive Message where
  | next (clock : Instant) (schema : Document) (data : Json) (context : Context) (step : String)
  | canMove (clock : Instant) (schema : Document) (data : Json) (context : Context)
    (source target : String)
  | path (clock : Instant) (schema : Document) (data : Json) (context : Context)
    (start goal : String) (maxSteps : Option Nat)
  | previous (clock : Instant) (schema : Document) (data : Json) (context : Context)
    (step : String)
  | visibility (message : Visibility.Message)
  | registerRule (name : String) (predicate : Rule.Predicate)
  | clearAnswers
  | clearCache
  | clearHistory

/-- The conditions of a form that was read were read with it. -/
theorem isBuilt_of_read {document : Document} {schema : Schema}
    (read : Schema.ofDocument? document = some schema) (data : Json) (context : Context)
    : (Situation.mk schema data context).IsBuilt :=
  fun transition listed => (Schema.isBuilt_of_read read).transitions transition listed

end Navigator

end FormWizard
