import FormWizard.Proofs.Schema.Reading
import FormWizard.Proofs.Visibility.Memory

/-! The memory of a judge of visibility cannot be seen in its verdicts: over any run of requests in
which every element comes with one and the same rule, each verdict is the one that the rule comes
to when it is evaluated afresh.
-/

namespace FormWizard.Visibility

open Calendar (Instant)
open Json (Document)
open Schema (FieldEntry FieldSpec Step UnresolvedReference)

-----------------------------------------------------------------------------------------
-- Requests
-----------------------------------------------------------------------------------------

/-- What may be asked of a judge. -/
inductive Request where
  | judge (clock : Instant) (element : String) (rule : Option Rule) (data : Json)
    (context : Context)
  | steps (clock : Instant) (schema : Schema) (data : Json) (context : Context)
  | fields (clock : Instant) (schema : Schema) (step : String) (data : Json) (context : Context)
  | elements (clock : Instant) (schema : Schema) (data : Json) (context : Context)
  /-- The evaluator of the judge is asked, not the judge. -/
  | evaluate (clock : Instant) (rule : Rule) (data : Json) (context : Context)
  | register (name : String) (predicate : Rule.Predicate)
  | clear

/-- What is answered to a request. -/
inductive Reply where
  | verdict (shown : Bool)
  | steps (ids : List String)
  | fields (names : Except UnresolvedReference (List String))
  | elements (verdicts : Except UnresolvedReference (Table Bool))
  | answer (answer : Rule.Answer)

/-- The elements that a request has judged, with their rules. -/
def Request.uses : Request → List Use
  | .judge _ element rule _ _ => [(element, rule)]
  | .steps _ schema _ _ => schema.steps.map stepUse
  | .fields _ schema step _ _ =>
    (schema.step? step).elim [] fun found => fieldUses schema step found.fields
  | .elements _ schema _ _ => elementUses schema schema.steps
  | .evaluate .. | .register .. | .clear => []

/-- The rules that a request may have evaluated. -/
def Request.rules : Request → List Rule
  | .evaluate _ rule _ _ => [rule]
  | request => request.uses.filterMap Prod.snd

/-- The facts of the context of a request. -/
def Request.facts? : Request → Option Facts
  | .judge _ _ _ _ context | .steps _ _ _ context | .fields _ _ _ _ context
  | .elements _ _ _ context | .evaluate _ _ _ context => some context.facts
  | .register .. | .clear => none

/-- The predicates that a request supplies. -/
def Request.supplies : Request → Table Rule.Predicate
  | .register name predicate => [(name, predicate)]
  | _ => []

/-- The facts of the contexts of a run of requests. -/
def contextsOf (requests : List Request) : List Facts :=
  requests.filterMap Request.facts?

/-- The predicates that are supplied in a run of requests read the clocks of its contexts as they
are written. All predicates do where clocks are read from time stamps
(`readAsWritten_of_timeStamps`).
-/
def ReadClocks (requests : List Request) : Prop :=
  Rule.ReadAsWritten (contextsOf requests) (requests.flatMap Request.supplies)

theorem mem_contextsOf {requests : List Request} {request : Request} {facts : Facts}
    (member : request ∈ requests) (found : request.facts? = some facts)
    : facts ∈ contextsOf requests :=
  List.mem_filterMap.mpr ⟨request, member, found⟩

theorem ReadClocks.register {requests : List Request} (h : ReadClocks requests) {name : String}
    {predicate : Rule.Predicate} (member : .register name predicate ∈ requests)
    : predicate.ReadsAsWritten (contextsOf requests) :=
  h (name, predicate) (List.mem_flatMap.mpr ⟨_, member, List.mem_cons_self⟩)

/-- The reply of a judge to a request, if the request has one, and the judge afterwards. -/
def respond : Request → Visibility → Option Reply × Visibility
  | .judge clock element rule data context, judge =>
    (judge.isVisible clock rule ⟨element, data, context.facts⟩).map (some <| .verdict ·) id
  | .steps clock schema data context, judge =>
    (judge.visibleSteps clock schema data context.facts).map (some <| .steps ·) id
  | .fields clock schema step data context, judge =>
    (judge.visibleFields clock schema step data context.facts).map (some <| .fields ·) id
  | .elements clock schema data context, judge =>
    (judge.elements clock schema data context.facts).map (some <| .elements ·) id
  | .evaluate clock rule data context, judge =>
    (judge.evaluator.evaluate clock ⟨rule, data, context.facts⟩).map (some <| .answer ·)
      fun evaluator => { judge with evaluator }
  | .register name predicate, judge => (none, judge.register name predicate)
  | .clear, judge => (none, judge.clear)

/-- The replies of a judge to a run of requests. -/
def replies : List Request → Visibility → List Reply
  | [], _ => []
  | request :: rest, judge =>
    let (reply, judge) := respond request judge
    reply.toList ++ replies rest judge

namespace Host

/-- The reply to a request if every rule is evaluated afresh. -/
def reply (host : Host) : Request → Option Reply
  | .judge clock _ rule data context => some (.verdict (host.shows clock rule data context.facts))
  | .steps clock schema data context =>
    some (.steps (shownSteps (fun use => host.shows clock use.2 data context.facts) schema))
  | .fields clock schema step data context =>
    some (.fields (shownFields (fun use => host.shows clock use.2 data context.facts) schema step))
  | .elements clock schema data context =>
    let found :=
      schema.steps.mapM
        (foundElements (fun use => host.shows clock use.2 data context.facts) schema)
    some (.elements (found.map fun elements => Table.ofEntries elements.flatten))
  | .evaluate clock rule data context =>
    some (.answer (host.fresh.evaluate clock ⟨rule, data, context.facts⟩).1)
  | .register .. | .clear => none

/-- The host after a request: a predicate that was supplied is there from now on. -/
def after (host : Host) : Request → Host
  | .register name predicate =>
    { host with predicates := host.predicates ++ [(name, predicate)] }
  | _ => host

/-- The replies to a run of requests if every rule is evaluated afresh, with the predicates that
are supplied by then.
-/
def replies (host : Host) : List Request → List Reply
  | [] => []
  | request :: rest => (host.reply request).toList ++ (host.after request).replies rest

end Host

-----------------------------------------------------------------------------------------
-- Faithful judges
-----------------------------------------------------------------------------------------

variable {run : List Request} {host : Host} {judge : Visibility}

/-- The rules of requests that judge elements are built if all rules of the requests are. -/
theorem areBuilt_uses (rules : ∀ request ∈ run, ∀ rule ∈ request.rules, rule.IsBuilt)
    : AreBuilt (run.flatMap Request.uses) := by
  intro element rule used
  obtain ⟨request, member, used⟩ := List.mem_flatMap.mp used
  refine rules request member rule ?_
  cases request with
  | evaluate clock rule data context => cases used
  | _ => exact List.mem_filterMap.mpr ⟨_, used, rfl⟩

/-- A judge that is faithful over a run of requests replies to each of them as the rules do when
they are evaluated afresh, and is a faithful judge for the host as it is after the request. A
predicate that is supplied may change any answer, but then the judge forgets all answers and
verdicts.
-/
theorem Faithful.respond (h : Faithful (contextsOf run) (run.flatMap Request.uses) host judge)
    (one : OneRule (run.flatMap Request.uses))
    (rules : ∀ request ∈ run, ∀ rule ∈ request.rules, rule.IsBuilt) (reads : ReadClocks run)
    {request : Request} (member : request ∈ run)
    : (respond request judge).1 = host.reply request
      ∧ Faithful (contextsOf run) (run.flatMap Request.uses) (host.after request)
          (respond request judge).2 := by
  have start : request.uses ++ [] ⊆ run.flatMap Request.uses
      ∧ Faithful (contextsOf run) (run.flatMap Request.uses) host judge := by
    rw [List.append_nil]
    exact ⟨fun _ used => List.mem_flatMap.mpr ⟨request, member, used⟩, h⟩
  have answers (clock : Instant) (data : Json) {facts : Facts}
      (found : request.facts? = some facts)
      : Answers clock data facts
          (fun rest judge => rest ⊆ run.flatMap Request.uses
            ∧ Faithful (contextsOf run) (run.flatMap Request.uses) host judge)
          (fun use => host.shows clock use.2 data facts) :=
    answers_faithful one (areBuilt_uses rules) clock data (mem_contextsOf member found)
  cases request with
  | judge clock element rule data context =>
      obtain ⟨answer, -, after⟩ := (answers clock data rfl).isVisible start
      exact ⟨congrArg (fun found => some (Reply.verdict found)) answer, after⟩
  | steps clock schema data context =>
      obtain ⟨answer, -, after⟩ := (answers clock data rfl).visibleSteps start
      exact ⟨congrArg (fun found => some (Reply.steps found)) answer, after⟩
  | fields clock schema step data context =>
      obtain ⟨answer, -, after⟩ := (answers clock data rfl).visibleFields start
      exact ⟨congrArg (fun found => some (Reply.fields found)) answer, after⟩
  | elements clock schema data context =>
      obtain ⟨answer, -, after⟩ := (answers clock data rfl).elements start
      exact ⟨congrArg (fun found => some (Reply.elements found)) answer, after⟩
  | evaluate clock rule data context =>
      have ruleBuilt : rule.IsBuilt := rules _ member rule List.mem_cons_self
      have inContext : context.facts ∈ contextsOf run := mem_contextsOf member rfl
      have answer : (judge.evaluator.evaluate clock ⟨rule, data, context.facts⟩).1
          = (host.fresh.evaluate clock ⟨rule, data, context.facts⟩).1 :=
        Host.evaluate_fst h.truthful h.setup ruleBuilt inContext fun _ => rfl
      exact ⟨congrArg (fun found => some (Reply.answer found)) answer,
        h.evaluate clock ruleBuilt inContext⟩
  | register name predicate =>
      refine ⟨rfl, faithful_of_known_nil (h.truthful.register (reads.register member)) ?_ rfl⟩
      rw [Host.after, Host.fresh, Rule.Evaluator.registerAll_append]
      exact h.setup.register name predicate
  | clear =>
      refine ⟨rfl, faithful_of_known_nil h.truthful.clear ?_ rfl⟩
      exact ⟨h.setup.limit, h.setup.environment, h.setup.functions⟩

/-- A judge that is faithful over a run of requests replies to any part of it as the rules do when
they are evaluated afresh, by induction on that part.
-/
theorem Faithful.replies (h : Faithful (contextsOf run) (run.flatMap Request.uses) host judge)
    (one : OneRule (run.flatMap Request.uses))
    (rules : ∀ request ∈ run, ∀ rule ∈ request.rules, rule.IsBuilt) (reads : ReadClocks run)
    {requests : List Request} (sub : requests ⊆ run)
    : replies requests judge = host.replies requests := by
  induction requests generalizing judge host with
  | nil => rfl
  | cons request rest ih =>
      rw [List.cons_subset] at sub
      obtain ⟨reply, faithful⟩ := h.respond one rules reads sub.1
      change (Visibility.respond request judge).1.toList
          ++ Visibility.replies rest (Visibility.respond request judge).2
        = _
      rw [reply, ih faithful sub.2, Host.replies]

/-- What reaches a judge from outside. Rules and forms come as documents, in which an operand that
is spelled like a reference is one.
-/
inductive Message where
  | judge (clock : Instant) (element : String) (rule : Option Document) (data : Json)
    (context : Context)
  | steps (clock : Instant) (schema : Document) (data : Json) (context : Context)
  | fields (clock : Instant) (schema : Document) (step : String) (data : Json) (context : Context)
  | elements (clock : Instant) (schema : Document) (data : Json) (context : Context)
  | evaluate (clock : Instant) (rule : Document) (data : Json) (context : Context)
  | register (name : String) (predicate : Rule.Predicate)
  | clear

variable {schema : Schema}

/-- The rule that the host does not know a person. -/
def stranger : Rule :=
  .negate (.custom "known" [.string "$.name"])

/-- A form that asks adults for more, and those it does not know for all of it. -/
def application : Schema where
  id := "application"
  steps := [
    { id := "person", fields := [.inline { name := "name" }, .ref "#/definitions/age"] },
    { id := "income", visibleWhen := some Rule.ofAge,
      fields := [.inline { name := "salary" },
        .inline { name := "proof", visibleWhen := some stranger }] }]
  definitions := [("age", { name := "age", visibleWhen := some stranger })]

end FormWizard.Visibility
