import FormWizard.Proofs.Computed.Registrations

/-! Batches that are rejected since their fields read each other in a cycle. Nothing is evaluated
then, but the fields have been registered: the engine is left as their registrations leave it, and
that is as it was exactly if they told it nothing new.
-/

namespace FormWizard.Computed

open Calendar (Instant)

/-- Fields that tell nothing new about those that have been registered: what they read was read
before for the same targets, and those of them that count have counted before.
-/
structure IsKnown (registered fields : List Field) : Prop where
  feeds : ∀ source target, Feeds fields source target → Feeds registered source target
  latest : ∀ target field,
    declared? fields target = some field → declared? registered target = some field

theorem feeds_append_iff {registered fields : List Field} {source target : String}
    : Feeds (registered ++ fields) source target
      ↔ Feeds registered source target ∨ Feeds fields source target := by
  simp [Feeds, or_and_right, exists_or]

/-- Latest definitions tell nothing new. -/
theorem isKnown_of_latest {registered fields : List Field}
    (latest : ∀ field ∈ fields, declared? registered field.target = some field)
    : IsKnown registered fields where
  feeds := by
    rintro source target ⟨field, member, named, reads⟩
    exact ⟨field, (declared?_spec (latest field member)).1, named, reads⟩
  latest := by
    intro target field counts
    obtain ⟨member, rfl⟩ := declared?_spec counts
    exact latest field member

namespace Engine

variable {engine : Engine} {registered fields : List Field}

-----------------------------------------------------------------------------------------
-- What registering changes
-----------------------------------------------------------------------------------------

/-- Registering fields changes nothing but the edges and the definitions. -/
theorem registerAll_eq (fields : List Field) (engine : Engine)
    : engine.registerAll fields
      = { engine with
          edges := (engine.registerAll fields).edges
          fields := (engine.registerAll fields).fields } := by
  induction fields generalizing engine with
  | nil => rfl
  | cons field rest ih => exact ih (engine.register field)

theorem sorted_fields_registerAll (sorted : engine.fields.keys.Pairwise (· < ·))
    (fields : List Field)
    : (engine.registerAll fields).fields.keys.Pairwise (· < ·) := by
  induction fields generalizing engine with
  | nil => exact sorted
  | cons field rest ih =>
      exact @ih (engine.register field) (Table.sorted_insert sorted field.target field)

/-- The definitions that an engine holds are in order, whatever it has been asked. -/
theorem sorted_fields_after (requests : List Request)
    : (after requests).fields.keys.Pairwise (· < ·) := by
  refine after_induction (fun _ engine => engine.fields.keys.Pairwise (· < ·)) .nil
    (fun _ request engine sorted => ?_) requests
  cases request with
  | register field => exact Table.sorted_insert sorted field.target field
  | evaluate clock field data =>
      exact (sameBase_evaluate clock field data engine).fields ▸ sorted
  | evaluateAll clock fields data =>
      exact (sameBase_evaluateAll clock fields data engine).fields ▸
        sorted_fields_registerAll sorted fields
  | evaluateAffected clock changed data =>
      exact (sameBase_evaluateAll clock (engine.downstream changed) data engine).fields ▸
        sorted_fields_registerAll sorted _
  | _ => exact sorted

/-- Registering fields leaves an engine as it was exactly if they tell it nothing new. -/
theorem Knows.registerAll_eq_iff (h : engine.Knows registered)
    (sorted : engine.fields.keys.Pairwise (· < ·))
    : engine.registerAll fields = engine ↔ IsKnown registered fields := by
  have known : (engine.registerAll fields).Knows (registered ++ fields) := h.registerAll fields
  constructor
  · intro same
    rw [same] at known
    constructor
    · intro source target feeds
      exact (h.edges source target).mp
        ((known.edges source target).mpr (feeds_append_iff.mpr (.inr feeds)))
    · intro target field counts
      rw [← h.latest, known.latest, declared?_append, counts, Option.some_or]
  · intro redundant
    have edges : (engine.registerAll fields).edges = engine.edges := by
      refine eq_of_mem_iff_of_sorted known.sorted h.sorted fun edge => ?_
      rw [known.edges, h.edges, feeds_append_iff]
      exact or_iff_left_of_imp (redundant.feeds edge.source edge.target)
    have definitions : (engine.registerAll fields).fields = engine.fields := by
      refine Table.eq_of_find?_eq (sorted_fields_registerAll sorted fields) sorted fun target => ?_
      rw [known.latest, h.latest, declared?_append]
      cases counts : declared? fields target with
      | none => rfl
      | some field => rw [redundant.latest target field counts, Option.some_or]
    rw [registerAll_eq, edges, definitions]

-----------------------------------------------------------------------------------------
-- Rejected batches
-----------------------------------------------------------------------------------------

/-- A batch that is rejected has been registered, and that is all. -/
theorem eq_of_evaluateAll_error {clock : Instant} {data left : Json} {error : CircularDependency}
    {next : Engine}
    (rejected : engine.evaluateAll clock fields data = (.error error, left, next))
    : left = data ∧ next = engine.registerAll fields := by
  unfold evaluateAll at rejected
  cases ordering : order fields with
  | error cause =>
      simp only [ordering, Prod.mk.injEq] at rejected
      exact ⟨rejected.2.1.symm, rejected.2.2.symm⟩
  | ok ordered => simp [ordering] at rejected

/-- A change whose effects are rejected leaves no trace at all: the fields downstream of it are known
already.
-/
theorem evaluateAffected_rejected (requests : List Request) {clock : Instant} {changed : String}
    {data left : Json} {error : CircularDependency} {next : Engine}
    (rejected : (after requests).evaluateAffected clock changed data = (.error error, left, next))
    : left = data ∧ next = after requests := by
  obtain ⟨rfl, rfl⟩ := eq_of_evaluateAll_error rejected
  have known := knows_after requests
  refine ⟨rfl, (known.registerAll_eq_iff (sorted_fields_after requests)).mpr ?_⟩
  exact isKnown_of_latest fun field member => (known.mem_downstream_iff.mp member).2

/-- A batch that is rejected leaves the data alone, and all values that are kept. After any run of
requests the engine is left exactly as if each field of the batch had been registered instead, and
so are all answers that it gives later. It is left exactly as it was if, and only if, the fields tell
it nothing new.
-/
theorem evaluateAll_rejected (requests : List Request) {clock : Instant} {fields : List Field}
    {data left : Json} {error : CircularDependency} {next : Engine}
    (rejected : (after requests).evaluateAll clock fields data = (.error error, left, next))
    : left = data
      ∧ (∀ path, next.value? path = (after requests).value? path)
      ∧ next = after (requests ++ fields.map .register)
      ∧ (next = after requests ↔ IsKnown (registrations requests) fields) := by
  obtain ⟨rfl, rfl⟩ := eq_of_evaluateAll_error rejected
  refine ⟨rfl, fun path => ?_, ?_, ?_⟩
  · rw [registerAll_eq]
    rfl
  · simp only [after, List.foldl_append, List.foldl_map]
    rfl
  · exact (knows_after requests).registerAll_eq_iff (sorted_fields_after requests)

/-- A run in which the total of an order is its price. -/
def priced : List Request :=
  [.register { path := "total", expr := "price", dependsOn := ["price"] }]

/-- A batch in which the total reads the tax, and the tax the total. -/
def taxed : List Field :=
  [{ path := "$.total", expr := "price + tax", dependsOn := ["price", "tax"] },
    { path := "tax", expr := "total / 5", dependsOn := ["total"] }]

/-- An order with a price. -/
def pricedOrder : Json :=
  .object [("price", .ofInt 3)]

/-- The batch is rejected, and does to what the price affects what registering its fields does. -/
theorem evaluateAll_rejected_taxed
    : ((after priced).evaluateAll default taxed pricedOrder).1.isOk = false
      ∧ ((after priced).evaluateAll default taxed pricedOrder).2.1 = pricedOrder
      ∧ ((after priced).evaluateAll default taxed pricedOrder).2.2.affected "price"
        = (after (priced ++ taxed.map .register)).affected "price" := by
  have failed : ((after priced).evaluateAll default taxed pricedOrder).1.isOk = false := by
    decide +kernel
  rcases run : (after priced).evaluateAll default taxed pricedOrder with
    ⟨error | results, left, next⟩
  · obtain ⟨untouched, -, same, -⟩ := evaluateAll_rejected priced run
    exact ⟨rfl, untouched, congrArg (affected "price") same⟩
  · rw [run] at failed
    cases failed

/-- The rejected batch is not forgotten. From then on the price affects the tax, and what it affects
can no longer be evaluated.
-/
theorem rejected_taxed_traced
    : ((after priced).evaluateAll default taxed pricedOrder).1.isOk = false
      ∧ (let next := ((after priced).evaluateAll default taxed pricedOrder).2.2
        next.affected "price" = ["$.total", "$.tax"]
        ∧ (next.evaluateAffected default "price" pricedOrder).1.isOk = false)
      ∧ (after priced).affected "price" = ["$.total"]
      ∧ ((after priced).evaluateAffected default "price" pricedOrder).1.isOk = true := by
  decide +kernel

end Engine

end FormWizard.Computed
