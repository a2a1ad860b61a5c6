import FormWizard.Proofs.Schema.Soundness
import FormWizard.Proofs.Tables
import FormWizard.Proofs.Visibility.Runs

/-! The views that a judge of visibility gives of one form: which steps are shown, which fields of a
step, and the verdicts on all elements. Whatever the judge remembers from before, and in whatever
order the views are asked for, they all show the same verdicts.
-/

namespace FormWizard.Visibility

open Calendar (Instant)
open Schema (FieldSpec Step)

-----------------------------------------------------------------------------------------
-- Verdicts that are given again
-----------------------------------------------------------------------------------------

/-- The later judge is set up like the earlier one, and remembers all verdicts that the earlier one
remembers.
-/
structure Extends (later earlier : Visibility) : Prop where
  setup : later.evaluator.SameSetup earlier.evaluator
  kept : ∀ {key shown}, Table.find? key earlier.known = some shown →
    Table.find? key later.known = some shown

theorem Extends.refl (judge : Visibility) : judge.Extends judge :=
  ⟨⟨rfl, rfl, rfl⟩, id⟩

theorem Extends.trans {last later earlier : Visibility} (h : last.Extends later)
    (h' : later.Extends earlier)
    : last.Extends earlier :=
  ⟨h.setup.trans h'.setup, fun found => h.kept (h'.kept found)⟩

section

variable {clock : Instant} {data : Json} {facts : Facts} {judge later : Visibility}

/-- Judging an element adds at most one verdict, under a key that had none. -/
theorem extends_judgeBy (clock : Instant) (rule : Rule) (view : View) (judge : Visibility)
    : (judge.judgeBy clock rule view).2.Extends judge := by
  have setup := Rule.Evaluator.sameSetup_evaluate clock ⟨rule, view.data, view.facts⟩
    judge.evaluator
  cases timeless : (Rule.Question.mk rule view.data view.facts).isTimeless with
  | false =>
      rw [judgeBy_of_timed timeless]
      exact ⟨setup, id⟩
  | true =>
      cases known : Table.find? view.key judge.known with
      | some shown =>
          rw [judgeBy_of_known timeless known]
          exact .refl judge
      | none =>
          rw [judgeBy_of_unknown timeless known]
          refine ⟨setup, fun {key shown} found => ?_⟩
          have other : key ≠ view.key := by
            rintro rfl
            cases known.symm.trans found
          rw [Table.find?_insert_of_ne other]
          exact found

theorem extends_isVisible (clock : Instant) (rule : Option Rule) (view : View)
    (judge : Visibility)
    : (judge.isVisible clock rule view).2.Extends judge := by
  cases rule with
  | none => exact .refl judge
  | some rule => exact extends_judgeBy clock rule view judge

/-- A verdict that was given once is given again at the same time, whatever was judged in between. A
timeless verdict is remembered by then, whichever rule it came from, and any other one is found anew
with the same setup.
-/
theorem Extends.isVisible {rule : Option Rule} {view : View}
    (h : later.Extends (judge.isVisible clock rule view).2)
    : (later.isVisible clock rule view).1 = (judge.isVisible clock rule view).1 := by
  cases rule with
  | none => rfl
  | some rule =>
      change (later.judgeBy clock rule view).1 = (judge.judgeBy clock rule view).1
      change later.Extends (judge.judgeBy clock rule view).2 at h
      cases timeless : (Rule.Question.mk rule view.data view.facts).isTimeless with
      | false =>
          have setup := (h.trans (extends_judgeBy clock rule view judge)).setup
          have found (evaluator : Rule.Evaluator)
              : (evaluator.evaluate clock ⟨rule, view.data, view.facts⟩).1
                = (evaluator.answer clock ⟨rule, view.data, view.facts⟩).1 := by
            simp [Rule.Evaluator.evaluate, Rule.Evaluator.remembered?, timeless]
          simp only [judgeBy_of_timed timeless, found]
          rw [setup.answer_eq ⟨rule, view.data, view.facts⟩ fun _ => rfl]
      | true =>
          have remembered : Table.find? view.key (judge.judgeBy clock rule view).2.known
              = some (judge.judgeBy clock rule view).1 := by
            cases known : Table.find? view.key judge.known with
            | some shown => rw [judgeBy_of_known timeless known, known]
            | none => rw [judgeBy_of_unknown timeless known, Table.find?_insert_self]
          rw [judgeBy_of_known timeless (h.kept remembered)]

/-- A judge after it has judged an element. -/
def judged (clock : Instant) (data : Json) (facts : Facts) (judge : Visibility) (use : Use)
    : Visibility :=
  (judge.isVisible clock use.2 ⟨use.1, data, facts⟩).2

theorem extends_foldl_judged (uses : List Use) (judge : Visibility)
    : (uses.foldl (judged clock data facts) judge).Extends judge := by
  induction uses generalizing judge with
  | nil => exact .refl judge
  | cons use rest ih => exact (ih _).trans (extends_isVisible clock use.2 _ judge)

/-- What a judge says of elements one after the other is what it says of each in the end. -/
theorem answers_foldl_judged (clock : Instant) (data : Json) (facts : Facts) (last : Visibility)
    : Answers clock data facts
        (fun rest judge => last.Extends (rest.foldl (judged clock data facts) judge))
        (fun use => (last.isVisible clock use.2 ⟨use.1, data, facts⟩).1) := by
  refine ⟨fun {use rest judge} leads => ⟨?_, leads⟩⟩
  have settled : last.Extends (judged clock data facts judge use) :=
    leads.trans (extends_foldl_judged rest _)
  exact settled.isVisible.symm

end

-----------------------------------------------------------------------------------------
-- Views of a form
-----------------------------------------------------------------------------------------

/-- The elements of a form, every step in front of its fields. -/
def elementsOf (schema : Schema) : List Use :=
  schema.steps.flatMap fun step =>
    stepUse step :: (schema.fieldsOf step).map (fieldUse step.id)

/-- All entries of the steps of a form stand for fields. -/
def IsResolved (schema : Schema) : Prop :=
  ∀ step ∈ schema.steps, ∀ entry ∈ step.fields, ∃ field, schema.resolve entry = .ok field

/-- A view of a form. -/
inductive Overview where
  | steps
  | fields (step : Step)
  | elements

namespace Overview

/-- The request for a view. -/
def request (clock : Instant) (schema : Schema) (data : Json) (context : Context)
    : Overview → Request
  | steps => .steps clock schema data context
  | fields step => .fields clock schema step.id data context
  | elements => .elements clock schema data context

/-- What a view shows if these are the verdicts on all elements. -/
def reply (schema : Schema) (verdicts : Table Bool) : Overview → Reply
  | steps =>
    .steps (schema.stepIds.filter fun id => Table.find? id verdicts = some true)
  | fields step =>
    .fields <| .ok <|
      ((schema.fieldsOf step).map FieldSpec.name).filter fun name =>
        Table.find? (fieldElement step.id name) verdicts = some true
  | elements => .elements (.ok verdicts)

end Overview

variable {schema : Schema} {finds : Use → Bool} {step : Step}

theorem stepUse_mem_elementsOf (member : step ∈ schema.steps)
    : stepUse step ∈ elementsOf schema :=
  List.mem_flatMap.mpr ⟨step, member, List.mem_cons_self⟩

theorem fieldUse_mem_elementsOf (member : step ∈ schema.steps) {field : FieldSpec}
    (listed : field ∈ schema.fieldsOf step)
    : fieldUse step.id field ∈ elementsOf schema :=
  List.mem_flatMap.mpr ⟨step, member, List.mem_cons_of_mem _ (List.mem_map_of_mem listed)⟩

/-- The ids of steps are among the names of elements, each at its step. -/
theorem nodup_stepIds_of_elementsOf (distinct : ((elementsOf schema).map Prod.fst).Nodup)
    : schema.stepIds.Nodup := by
  refine List.Nodup.sublist ?_ distinct
  rw [Schema.stepIds, elementsOf]
  induction schema.steps with
  | nil => exact .slnil
  | cons step rest ih =>
      rw [List.flatMap_cons, List.map_append]
      exact (List.Sublist.cons_cons step.id (List.nil_sublist _)).append ih

/-- The findings on all elements by their names. -/
def findings (finds : Use → Bool) (schema : Schema) : Table Bool :=
  Table.ofEntries ((elementsOf schema).map fun use => (use.1, finds use))

/-- Under the name of an element its own finding is found. -/
theorem find?_findings (distinct : ((elementsOf schema).map Prod.fst).Nodup) {use : Use}
    (member : use ∈ elementsOf schema)
    : Table.find? use.1 (findings finds schema) = some (finds use) := by
  have names : (((elementsOf schema).map fun use => (use.1, finds use)).map Prod.fst).Nodup := by
    rwa [List.map_map]
  refine (Table.find?_eq_some_iff (Table.sorted_ofEntries _)).mpr ?_
  exact (Table.perm_ofEntries names).mem_iff.mpr (List.mem_map_of_mem member)

/-- The findings on a step and its fields, where all entries stand for fields. -/
theorem foundElements_of_resolved
    (resolved : ∀ entry ∈ step.fields, ∃ field, schema.resolve entry = .ok field)
    : foundElements finds schema step
      = .ok ((stepUse step :: (schema.fieldsOf step).map (fieldUse step.id)).map
          fun use => (use.1, finds use)) := by
  rw [foundElements, Schema.mapM_resolve_of_isOk resolved, List.map_cons, List.map_map]
  rfl

/-- The findings on steps and their fields come in the order of the elements. Witness: induction on
the steps.
-/
theorem mapM_foundElements {steps : List Step}
    (resolved : ∀ step ∈ steps, ∀ entry ∈ step.fields, ∃ field, schema.resolve entry = .ok field)
    : (steps.mapM (foundElements finds schema)).map List.flatten
      = .ok ((steps.flatMap fun step =>
            stepUse step :: (schema.fieldsOf step).map (fieldUse step.id)).map
          fun use => (use.1, finds use)) := by
  induction steps with
  | nil => rfl
  | cons step rest ih =>
      rw [List.forall_mem_cons] at resolved
      have later := ih resolved.2
      rw [List.mapM_cons, foundElements_of_resolved resolved.1]
      cases others : rest.mapM (foundElements finds schema) with
      | error cause =>
          rw [others] at later
          cases later
      | ok found =>
          rw [others] at later
          rw [List.flatMap_cons, List.map_append, ← Except.ok.inj later]
          rfl

/-- The findings on a form make up one table. -/
theorem foundTable_eq (resolved : IsResolved schema)
    : (schema.steps.mapM (foundElements finds schema)).map
        (fun elements => Table.ofEntries elements.flatten)
      = .ok (findings finds schema) := by
  have found : (schema.steps.mapM (foundElements finds schema)).map List.flatten
      = .ok ((elementsOf schema).map fun use => (use.1, finds use)) :=
    mapM_foundElements resolved
  have entries := congrArg (Except.map Table.ofEntries) found
  revert entries
  cases schema.steps.mapM (foundElements finds schema) with
  | error cause =>
      intro entries
      cases entries
  | ok elements => exact id

theorem keys_findings (distinct : ((elementsOf schema).map Prod.fst).Nodup)
    : (findings finds schema).keys.Perm ((elementsOf schema).map Prod.fst) := by
  have names : ((elementsOf schema).map fun use => (use.1, finds use)).map Prod.fst
      = (elementsOf schema).map Prod.fst := by
    rw [List.map_map]
    rfl
  rw [← names] at distinct ⊢
  exact (Table.perm_ofEntries distinct).map Prod.fst

/-- Which elements are found to be shown can be read from the findings by their names. -/
theorem filter_findings {α : Type} {use : α → Use} {listed : List α}
    (distinct : ((elementsOf schema).map Prod.fst).Nodup)
    (member : ∀ element ∈ listed, use element ∈ elementsOf schema)
    : (listed.filter fun element => finds (use element))
      = listed.filter fun element =>
          Table.find? (use element).1 (findings finds schema) = some true := by
  refine List.filter_congr fun element belongs => ?_
  rw [find?_findings distinct (member element belongs)]
  cases finds (use element) <;> rfl

theorem shownSteps_eq (distinct : ((elementsOf schema).map Prod.fst).Nodup)
    : shownSteps finds schema
      = schema.stepIds.filter fun id => Table.find? id (findings finds schema) = some true := by
  rw [shownSteps, filter_findings distinct fun _ => stepUse_mem_elementsOf, Schema.stepIds,
    List.filter_map]
  rfl

theorem shownFields_eq
    (resolved : ∀ entry ∈ step.fields, ∃ field, schema.resolve entry = .ok field)
    (distinct : ((elementsOf schema).map Prod.fst).Nodup) (member : step ∈ schema.steps)
    : shownFields finds schema step.id
      = .ok (((schema.fieldsOf step).map FieldSpec.name).filter fun name =>
          Table.find? (fieldElement step.id name) (findings finds schema) = some true) := by
  have fields : step.fields.mapM schema.resolve = .ok (schema.fieldsOf step) :=
    Schema.mapM_resolve_of_isOk resolved
  rw [shownFields, Schema.step?_of_nodup (nodup_stepIds_of_elementsOf distinct) member]
  dsimp only
  rw [fields, Except.map, shownNames,
    filter_findings distinct fun _ => fieldUse_mem_elementsOf member, List.filter_map]
  rfl

-----------------------------------------------------------------------------------------
-- Agreement
-----------------------------------------------------------------------------------------

/-- The elements that are judged for a view. -/
def Overview.uses (schema : Schema) : Overview → List Use
  | steps => schema.steps.map stepUse
  | fields step => (schema.step? step.id).elim [] fun found => fieldUses schema step.id found.fields
  | elements => elementUses schema schema.steps

/-- What is found of the elements decides what every view shows. -/
theorem Overview.judged_request {clock : Instant} {data : Json} {context : Context}
    {ready : List Use → Visibility → Prop} (h : Answers clock data context.facts ready finds)
    (resolved : IsResolved schema) (distinct : ((elementsOf schema).map Prod.fst).Nodup)
    {view : Overview} (declared : ∀ step, view = .fields step → step ∈ schema.steps)
    {rest : List Use} {judge : Visibility} (start : ready (view.uses schema ++ rest) judge)
    : Judged (some (view.reply schema (findings finds schema))) (ready rest)
        (respond (view.request clock schema data context) judge) := by
  cases view with
  | steps =>
      rw [Overview.reply, ← shownSteps_eq distinct]
      exact (h.visibleSteps start).map fun ids => some (Reply.steps ids)
  | fields step =>
      have member : step ∈ schema.steps := declared step rfl
      rw [Overview.reply, ← shownFields_eq (resolved step member) distinct member]
      exact (h.visibleFields start).map fun names => some (Reply.fields names)
  | elements =>
      rw [Overview.reply, ← foundTable_eq resolved]
      exact (h.elements start).map fun verdicts => some (Reply.elements verdicts)

/-- Views that are asked for one after the other are all decided by what is found of the elements.
Witness: induction on the views.
-/
theorem replies_overviews {clock : Instant} {data : Json} {context : Context}
    {ready : List Use → Visibility → Prop} (h : Answers clock data context.facts ready finds)
    (resolved : IsResolved schema) (distinct : ((elementsOf schema).map Prod.fst).Nodup)
    {views : List Overview} (declared : ∀ step, .fields step ∈ views → step ∈ schema.steps)
    {judge : Visibility} (start : ready (views.flatMap (Overview.uses schema)) judge)
    : replies (views.map (Overview.request clock schema data context)) judge
      = views.map (Overview.reply schema (findings finds schema)) := by
  induction views generalizing judge with
  | nil => rfl
  | cons view rest ih =>
      rw [List.flatMap_cons] at start
      obtain ⟨reply, after⟩ := Overview.judged_request h resolved distinct
        (fun step isIt => declared step (isIt ▸ List.mem_cons_self)) start
      have others := ih (fun step listed => declared step (List.mem_cons_of_mem _ listed)) after
      change (respond _ judge).1.toList ++ replies _ (respond _ judge).2 = _
      rw [reply, others, List.map_cons]
      rfl

/-- The views of a form agree. Where all references lead somewhere and all elements have names of
their own, one table of verdicts on exactly the elements decides what every view shows: the steps
and the fields that are shown are those with the verdict that they are, in the order of the form.
The views are asked for at one time, in any order and as often as one likes, and whatever the judge
remembers from before, be it from other rules for the elements.
-/
theorem overviews_agree (judge : Visibility) (resolved : IsResolved schema)
    (distinct : ((elementsOf schema).map Prod.fst).Nodup) (clock : Instant) (data : Json)
    (context : Context) {views : List Overview}
    (declared : ∀ step, .fields step ∈ views → step ∈ schema.steps)
    : ∃ verdicts : Table Bool,
        verdicts.keys.Perm ((elementsOf schema).map Prod.fst)
          ∧ replies (views.map (Overview.request clock schema data context)) judge
            = views.map (Overview.reply schema verdicts) := by
  let last : Visibility :=
    (views.flatMap (Overview.uses schema)).foldl (judged clock data context.facts) judge
  have answers := answers_foldl_judged clock data context.facts last
  exact ⟨_, keys_findings distinct, replies_overviews answers resolved distinct declared (.refl _)⟩

/-- A judge who has judged the second step of the form by the rule of other elements, and shows it
to a minor since then.
-/
def misled : Visibility :=
  let context : Context := {}
  ((ofConfig {}).isVisible default (some stranger)
    ⟨"income", .object [("age", .ofInt 17)], context.facts⟩).2

/-- The views of the form, those of its steps first. -/
def viewsOfApplication : List Overview :=
  application.steps.map .fields ++ [.elements, .steps]

theorem overviews_of_application
    : IsResolved application ∧ ((elementsOf application).map Prod.fst).Nodup
      ∧ (∀ step, .fields step ∈ viewsOfApplication → step ∈ application.steps)
      ∧ ∃ verdicts : Table Bool,
          verdicts.keys.Perm
              ["person", "person.name", "person.age", "income", "income.salary", "income.proof"]
            ∧ replies
                (viewsOfApplication.map
                  (Overview.request default application (.object [("age", .ofInt 17)]) {}))
                misled
              = viewsOfApplication.map (Overview.reply application verdicts) := by
  have resolved : IsResolved application := by
    intro step member entry listed
    have found : ∀ step ∈ application.steps, ∀ entry ∈ step.fields,
        (application.resolve entry).toOption.isSome := by decide
    have isField := found step member entry listed
    cases resolves : application.resolve entry with
    | ok field => exact ⟨field, rfl⟩
    | error cause =>
        rw [resolves] at isField
        cases isField
  have distinct : ((elementsOf application).map Prod.fst).Nodup := by decide
  have declared : ∀ step, .fields step ∈ viewsOfApplication → step ∈ application.steps := by
    simp [viewsOfApplication]
  exact ⟨resolved, distinct, declared,
    overviews_agree misled resolved distinct default _ {} declared⟩

end FormWizard.Visibility
