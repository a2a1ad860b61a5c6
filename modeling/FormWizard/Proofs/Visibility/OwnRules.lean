import FormWizard.Proofs.Schema.Soundness
import FormWizard.Proofs.Tables
import FormWizard.Proofs.Visibility.Runs

/-! Which rule an element is judged by when a sound form is walked through. Verdicts are remembered
by the names of elements, so the first rule under a name whose verdict is remembered decides for
every later element of that name that has such a rule as well. Steps come first and have names of
their own; fields may share one with a step or with each other.
-/

namespace FormWizard.Visibility

open Calendar (Instant)
open Schema (FieldEntry FieldSpec Step)

-----------------------------------------------------------------------------------------
-- The deciding rule
-----------------------------------------------------------------------------------------

/-- The rules of elements that do not change with the time, by the names of the elements, in the
order in which the elements are judged.
-/
def timelessRules (data : Json) (facts : Facts) (uses : List Use) : Table Rule :=
  uses.filterMap fun use =>
    (use.2.filter fun rule => (Rule.Question.mk rule data facts).isTimeless).map (use.1, ·)

/-- The rule that decides on an element when the given elements are judged one after the other: the
first timeless one under its name if its own is timeless, and its own one otherwise.
-/
def decidingRule (data : Json) (facts : Facts) (uses : List Use) (use : Use) : Option Rule :=
  use.2.map fun rule =>
    if (Rule.Question.mk rule data facts).isTimeless then
      (Table.find? use.1 (timelessRules data facts uses)).getD rule
    else rule

variable {data : Json} {facts : Facts} {uses : List Use} {use : Use} {element : String}
variable {rule : Rule}

theorem timelessRules_append (uses more : List Use)
    : timelessRules data facts (uses ++ more)
      = timelessRules data facts uses ++ timelessRules data facts more :=
  List.filterMap_append

theorem timelessRules_cons_of_timeless
    (timeless : (Rule.Question.mk rule data facts).isTimeless = true)
    : timelessRules data facts ((element, some rule) :: uses)
      = (element, rule) :: timelessRules data facts uses := by
  simp [timelessRules, timeless]

theorem timelessRules_cons_of_timed
    (timed : (Rule.Question.mk rule data facts).isTimeless = false)
    : timelessRules data facts ((element, some rule) :: uses) = timelessRules data facts uses := by
  simp [timelessRules, timed]

theorem mem_timelessRules
    : (element, rule) ∈ timelessRules data facts uses
      ↔ (element, some rule) ∈ uses ∧ (Rule.Question.mk rule data facts).isTimeless = true := by
  simp only [timelessRules, List.mem_filterMap, Option.map_eq_some_iff, Option.filter_eq_some_iff]
  constructor
  · rintro ⟨⟨name, own⟩, member, found, ⟨rfl, timeless⟩, same⟩
    cases same
    exact ⟨member, timeless⟩
  · rintro ⟨member, timeless⟩
    exact ⟨_, member, rule, ⟨rfl, timeless⟩, rfl⟩

/-- Nothing is found under a name that no element bears. -/
theorem find?_timelessRules_of_notMem (absent : element ∉ uses.map Prod.fst)
    : Table.find? element (timelessRules data facts uses) = none := by
  cases found : Table.find? element (timelessRules data facts uses) with
  | none => rfl
  | some rule =>
      obtain ⟨listed, -⟩ := mem_timelessRules.mp (Table.mem_of_find? found)
      exact (absent (List.mem_map_of_mem listed)).elim

/-- A rule that may change with the time decides on its own element. -/
theorem decidingRule_of_timed (timed : (Rule.Question.mk rule data facts).isTimeless = false)
    : decidingRule data facts uses (element, some rule) = some rule := by
  simp [decidingRule, timed]

/-- A timeless rule decides on its own element unless an earlier element has the same name. -/
theorem decidingRule_of_timeless (timeless : (Rule.Question.mk rule data facts).isTimeless = true)
    (judged rest : List Use)
    : decidingRule data facts (judged ++ (element, some rule) :: rest) (element, some rule)
      = some ((Table.find? element (timelessRules data facts judged)).getD rule) := by
  have there : Table.find? element (timelessRules data facts ((element, some rule) :: rest))
      = some rule := by
    rw [timelessRules_cons_of_timeless timeless, Table.find?, if_pos rfl]
  simp only [decidingRule, Option.map_some, timeless, if_true, timelessRules_append,
    Table.find?_append, there]
  cases Table.find? element (timelessRules data facts judged) <;> rfl

theorem find?_timelessRules_concat
    (timeless : (Rule.Question.mk rule data facts).isTimeless = true) (judged : List Use)
    (name : String)
    : Table.find? name (timelessRules data facts (judged ++ [(element, some rule)]))
      = (Table.find? name (timelessRules data facts judged)).or
          (if name = element then some rule else none) := by
  rw [timelessRules_append, timelessRules_cons_of_timeless timeless, Table.find?_append]
  rfl

/-- The rule of an element decides on it if the timeless rules under its name are the same. -/
theorem decidingRule_eq_of_agree (member : use ∈ uses)
    (agree : ∀ own ∈ use.2, (use.1, own) ∈ timelessRules data facts uses →
      ∀ rule, (use.1, rule) ∈ timelessRules data facts uses → rule = own)
    : decidingRule data facts uses use = use.2 := by
  obtain ⟨element, own⟩ := use
  cases own with
  | none => rfl
  | some own =>
      cases timeless : (Rule.Question.mk own data facts).isTimeless with
      | false => exact decidingRule_of_timed timeless
      | true =>
          have listed := mem_timelessRules.mpr ⟨member, timeless⟩
          simp only [decidingRule, Option.map_some, timeless, if_true]
          cases found : Table.find? element (timelessRules data facts uses) with
          | none => rfl
          | some rule => rw [Option.getD_some, agree own rfl listed rule (Table.mem_of_find? found)]

-----------------------------------------------------------------------------------------
-- What a judge remembers
-----------------------------------------------------------------------------------------

/-- A judge with this host that has judged nothing yet. -/
def Host.judge (host : Host) : Visibility :=
  { evaluator := host.fresh }

/-- The judge has judged the given elements, all with the same data and facts, and nothing else: of
each name it remembers the verdict of the first timeless rule.
-/
structure Recalls (host : Host) (data : Json) (facts : Facts) (judged : List Use)
    (judge : Visibility) : Prop where
  truthful : judge.evaluator.TruthfulOn [facts]
  setup : judge.evaluator.SameSetup host.fresh
  known
    : ∀ element clock,
        Table.find? (View.mk element data facts).key judge.known
        = (Table.find? element (timelessRules data facts judged)).map fun rule =>
            host.shows clock (some rule) data facts

variable {host : Host} {judged : List Use} {judge : Visibility}

theorem recalls_judge (host : Host) (data : Json) (facts : Facts)
    : Recalls host data facts [] host.judge :=
  ⟨host.isTruthful_fresh.on facts, ⟨rfl, rfl, rfl⟩, fun _ _ => rfl⟩

/-- Judging an element leaves its verdict in the memory if its rule is timeless and the first one
under its name.
-/
theorem Recalls.judgeBy (h : Recalls host data facts judged judge) (built : rule.IsBuilt)
    (clock : Instant) (element : String) (rest : List Use)
    : Judged
        (host.shows clock
          (decidingRule data facts (judged ++ (element, some rule) :: rest) (element, some rule))
          data facts)
        (Recalls host data facts (judged ++ [(element, some rule)]))
        (judge.judgeBy clock rule ⟨element, data, facts⟩) := by
  have fresh {other : Instant}
      (clocks : (Rule.Question.mk rule data facts).isTimeless = false → clock = other) :=
    host.verdict_evaluate h.truthful h.setup built List.mem_cons_self clocks
  have truthful : (judge.evaluator.evaluate clock ⟨rule, data, facts⟩).2.TruthfulOn [facts] :=
    h.truthful.evaluate clock built List.mem_cons_self
  have setup :=
    (Rule.Evaluator.sameSetup_evaluate clock ⟨rule, data, facts⟩ judge.evaluator).trans h.setup
  cases timeless : (Rule.Question.mk rule data facts).isTimeless with
  | false =>
      rw [decidingRule_of_timed timeless, judgeBy_of_timed timeless]
      refine ⟨fresh fun _ => rfl, truthful, setup, ?_⟩
      rw [timelessRules_append, timelessRules_cons_of_timed timeless]
      simpa [timelessRules] using h.known
  | true =>
      have recalled := h.known element clock
      rw [decidingRule_of_timeless timeless]
      cases first : Table.find? element (timelessRules data facts judged) with
      | some earlier =>
          rw [first, Option.map_some] at recalled
          rw [judgeBy_of_known timeless recalled]
          refine ⟨rfl, h.truthful, h.setup, fun name other => ?_⟩
          rw [find?_timelessRules_concat timeless, h.known]
          by_cases same : name = element
          · rw [same, first, Option.some_or]
          · rw [if_neg same, Option.or_none]
      | none =>
          rw [first, Option.map_none] at recalled
          rw [judgeBy_of_unknown timeless recalled]
          refine ⟨fresh fun _ => rfl, truthful, setup, fun name other => ?_⟩
          rw [find?_timelessRules_concat timeless]
          by_cases same : name = element
          · have settled
                : verdict (judge.evaluator.evaluate clock ⟨rule, data, facts⟩).1
                  = host.shows other (some rule) data facts :=
              fresh (by simp [timeless])
            rw [same, first, Table.find?_insert_self, settled, if_pos rfl]
            rfl
          · have different
                : (View.mk name data facts).key ≠ (View.mk element data facts).key :=
              fun keys => same (View.alike_of_key_eq keys).1
            rw [Table.find?_insert_of_ne different, h.known, if_neg same, Option.or_none]

/-- The given elements are judged one after the other, each by the rule that decides on it. -/
theorem answers_recalls (built : AreBuilt uses) (clock : Instant)
    : Answers clock data facts
        (fun rest judge => ∃ judged, judged ++ rest = uses ∧ Recalls host data facts judged judge)
        (fun use => host.shows clock (decidingRule data facts uses use) data facts) := by
  refine ⟨?_⟩
  rintro ⟨element, rule⟩ rest judge ⟨judged, rfl, h⟩
  cases rule with
  | none =>
      have same : timelessRules data facts (judged ++ [(element, none)])
          = timelessRules data facts judged := by
        simp [timelessRules]
      exact ⟨rfl, judged ++ [(element, none)], by simp, h.truthful, h.setup, same ▸ h.known⟩
  | some rule =>
      have asked := h.judgeBy (built element rule (by simp)) clock element rest
      exact ⟨asked.answer, judged ++ [(element, some rule)], by simp, asked.after⟩

-----------------------------------------------------------------------------------------
-- Walks through a form
-----------------------------------------------------------------------------------------

/-- The elements of a form: its steps, and then the fields of each. -/
def formUses (schema : Schema) : List Use :=
  schema.steps.map stepUse
    ++ schema.steps.flatMap fun step => (schema.fieldsOf step).map (fieldUse step.id)

/-- A walk through a form: which steps are shown, and then which fields of each step. -/
def walk (clock : Instant) (clockAt : String → Instant) (schema : Schema) (data : Json)
    (context : Context)
    : List Request :=
  .steps clock schema data context
    :: schema.steps.map fun step => .fields (clockAt step.id) schema step.id data context

/-- The replies to a walk where every element is judged by the rule that is chosen for it. -/
def Host.walkReplies (host : Host) (clock : Instant) (clockAt : String → Instant) (schema : Schema)
    (data : Json) (facts : Facts) (rule : Use → Option Rule)
    : List Reply :=
  .steps (shownSteps (fun use => host.shows clock (rule use) data facts) schema)
    :: schema.steps.map fun step =>
      .fields <| .ok <|
        shownNames (fun use => host.shows (clockAt step.id) (rule use) data facts) step.id
          (schema.fieldsOf step)

variable {schema : Schema} {clock : Instant} {clockAt : String → Instant} {context : Context}

theorem shownFields_of_mem (sound : schema.isSound = true) {step : Step}
    (member : step ∈ schema.steps) (finds : Use → Bool)
    : shownFields finds schema step.id = .ok (shownNames finds step.id (schema.fieldsOf step)) := by
  rw [shownFields, Schema.step?_of_mem sound member]
  simp only [Schema.mapM_resolve sound member]
  rfl

theorem fieldUses_of_mem (sound : schema.isSound = true) {step : Step}
    (member : step ∈ schema.steps)
    : (schema.step? step.id).elim [] (fun found => fieldUses schema step.id found.fields)
      = (schema.fieldsOf step).map (fieldUse step.id) := by
  rw [Schema.step?_of_mem sound member, Option.elim_some, fieldUses,
    resolvable_of_mapM (Schema.mapM_resolve sound member)]

/-- The fields of steps of a sound form are judged by the rules that decide on them. Witness:
induction on the steps.
-/
theorem replies_fields (sound : schema.isSound = true) (built : AreBuilt uses)
    {steps : List Step} (listed : steps ⊆ schema.steps)
    (start
      : ∃ judged,
          judged ++ steps.flatMap (fun step => (schema.fieldsOf step).map (fieldUse step.id)) = uses
          ∧ Recalls host data context.facts judged judge)
    : replies (steps.map fun step => .fields (clockAt step.id) schema step.id data context) judge
      = steps.map fun step =>
          .fields <| .ok <|
            shownNames
              (fun use =>
                host.shows (clockAt step.id) (decidingRule data context.facts uses use) data
                  context.facts)
              step.id (schema.fieldsOf step) := by
  induction steps generalizing judge with
  | nil => rfl
  | cons step rest ih =>
      rw [List.cons_subset] at listed
      rw [List.flatMap_cons, ← fieldUses_of_mem sound listed.1] at start
      obtain ⟨answer, after⟩ :=
        (answers_recalls built (clockAt step.id)).visibleFields start
      rw [shownFields_of_mem sound listed.1] at answer
      rw [List.map_cons, List.map_cons, ← ih listed.2 after, ← answer]
      rfl

/-- Steps of a sound form are judged by their own rules: they come first, and no two of them have
the same id.
-/
theorem decidingRule_stepUse (sound : schema.isSound = true) {step : Step}
    (member : step ∈ schema.steps)
    : decidingRule data facts (formUses schema) (stepUse step) = step.visibleWhen := by
  cases own : step.visibleWhen with
  | none => simp [decidingRule, stepUse, own]
  | some rule =>
      have same : stepUse step = (step.id, some rule) := by rw [stepUse, own]
      cases timeless : (Rule.Question.mk rule data facts).isTimeless with
      | false => rw [same, decidingRule_of_timed timeless]
      | true =>
          obtain ⟨before, after, split⟩ := List.append_of_mem member
          have nodup := Schema.nodup_stepIds sound
          rw [Schema.stepIds, split, List.map_append, List.map_cons] at nodup
          have fresh : step.id ∉ before.map Step.id := fun listed =>
            List.disjoint_of_nodup_append nodup listed List.mem_cons_self
          have absent : Table.find? step.id (timelessRules data facts (before.map stepUse))
              = none :=
            find?_timelessRules_of_notMem (by rwa [List.map_map])
          rw [formUses, split, List.map_append, List.map_cons, List.append_assoc, List.cons_append,
            same, decidingRule_of_timeless timeless, absent, Option.getD_none]

theorem Host.walkReplies_congr {rule other : Use → Option Rule}
    (same : ∀ use ∈ formUses schema, rule use = other use)
    : host.walkReplies clock clockAt schema data facts rule
      = host.walkReplies clock clockAt schema data facts other := by
  have steps
      : shownSteps (fun use => host.shows clock (rule use) data facts) schema
        = shownSteps (fun use => host.shows clock (other use) data facts) schema := by
    refine congrArg (List.map Step.id) (List.filter_congr fun step member => ?_)
    dsimp only
    rw [same _ (List.mem_append_left _ (List.mem_map_of_mem member))]
  have fields (step : Step) (member : step ∈ schema.steps)
      : shownNames (fun use => host.shows (clockAt step.id) (rule use) data facts) step.id
          (schema.fieldsOf step)
        = shownNames (fun use => host.shows (clockAt step.id) (other use) data facts) step.id
            (schema.fieldsOf step) := by
    refine congrArg (List.map FieldSpec.name) (List.filter_congr fun field listed => ?_)
    have used : fieldUse step.id field ∈ formUses schema :=
      List.mem_append_right _ <|
        List.mem_flatMap.mpr ⟨step, member, List.mem_map_of_mem listed⟩
    dsimp only
    rw [same _ used]
  rw [walkReplies, walkReplies, steps]
  exact congrArg (List.cons _) (List.map_congr_left fun step member => by rw [fields step member])

/-- Walking through a sound form never fails, and every element is judged by the rule that decides
on its name. For a step that is its own rule, and for all elements it is their own rule where the
timeless rules of elements with the same name are the same.
-/
theorem replies_walk (host : Host) (sound : schema.isSound = true)
    (built : AreBuilt (formUses schema)) (clock : Instant) (clockAt : String → Instant)
    (data : Json) (context : Context)
    : let timeless := timelessRules data context.facts (formUses schema)
      let deciding := decidingRule data context.facts (formUses schema)
      let outcome := replies (walk clock clockAt schema data context) host.judge
      outcome = host.walkReplies clock clockAt schema data context.facts deciding
      ∧ (∀ step ∈ schema.steps, deciding (stepUse step) = step.visibleWhen)
      ∧ ((∀ element rule other, (element, rule) ∈ timeless → (element, other) ∈ timeless →
            rule = other) →
          outcome = host.walkReplies clock clockAt schema data context.facts Prod.snd) := by
  intro timeless deciding outcome
  have judged : outcome = host.walkReplies clock clockAt schema data context.facts deciding := by
    obtain ⟨answer, after⟩ :=
      (answers_recalls built clock).visibleSteps ⟨[], rfl, recalls_judge host data context.facts⟩
    rw [Host.walkReplies, ← replies_fields sound built (List.Subset.refl _) after, ← answer]
    rfl
  refine ⟨judged, fun step member => decidingRule_stepUse sound member, fun agree => ?_⟩
  rw [judged]
  refine Host.walkReplies_congr fun use member => decidingRule_eq_of_agree member ?_
  intro own _ listed rule other
  exact agree use.1 rule own other listed

/-- A form with a step whose id reads like a field of another step. -/
def dotted : Schema where
  id := "dotted"
  steps := [
    { id := "a.b", visibleWhen := some (.always (some false)) },
    { id := "a", fields := [.inline { name := "b", visibleWhen := some (.always (some true)) }] }]

theorem replies_walk_dotted
    : replies (walk default (fun _ => default) dotted (.object []) {}) (ofConfig {})
      = [.steps ["a"], .fields (.ok []), .fields (.ok [])] := by
  have rules
      : ∀ use ∈ formUses dotted, ∀ rule ∈ use.2,
          rule = .always (some false) ∨ rule = .always (some true) := by
    decide
  have built : AreBuilt (formUses dotted) := by
    intro element rule used
    rcases rules _ used rule rfl with rfl | rfl
    · exact .always _
    · exact .always _
  change replies _ (Host.judge ⟨{}, Rule.Predicates.builtin⟩) = _
  rw [(replies_walk ⟨{}, Rule.Predicates.builtin⟩ (by decide) built default (fun _ => default)
    (.object []) {}).1]
  rfl

/-- The field is hidden like the step of its name, though its own rule shows it. -/
theorem replies_walk_ne_own
    : dotted.isSound = true
      ∧ replies (walk default (fun _ => default) dotted (.object []) {}) (ofConfig {})
        ≠ Host.walkReplies ⟨{}, Rule.Predicates.builtin⟩ default (fun _ => default) dotted
            (.object []) (Context.facts {}) Prod.snd := by
  refine ⟨by decide, ?_⟩
  have hidden
      : replies (walk default (fun _ => default) dotted (.object []) {}) (ofConfig {})
        = [.steps ["a"], .fields (.ok []), .fields (.ok [])] :=
    rfl
  have shown
      : Host.walkReplies ⟨{}, Rule.Predicates.builtin⟩ default (fun _ => default) dotted
          (.object []) (Context.facts {}) Prod.snd
        = [.steps ["a"], .fields (.ok []), .fields (.ok ["b"])] :=
    rfl
  rw [hidden, shown]
  simp

end FormWizard.Visibility
