import FormWizard.Proofs.Computed.Downstream
import FormWizard.Proofs.Computed.Histories
import Mathlib.Data.Prod.Lex

/-! What an engine knows of the fields that have been registered: an edge for every source of every
definition, in an order that does not tell when it came, and for every target the latest definition.
-/

namespace FormWizard.Computed

/-- A field with the source among those that it reads has been registered for the target. -/
def Feeds (registered : List Field) (source target : String) : Prop :=
  ∃ field ∈ registered, field.target = target ∧ source ∈ field.sources

/-- The fields that a request registers. The ones downstream of a change are known already. -/
def Request.registers : Request → List Field
  | .register field => [field]
  | .evaluateAll _ fields _ => fields
  | _ => []

/-- The fields that are registered by a run of requests, first to last. -/
def registrations (requests : List Request) : List Field :=
  requests.flatMap Request.registers

namespace Edge

/-- What edges are ordered by: their sources, and then their targets. -/
def rank (edge : Edge) : String ×ₗ String :=
  toLex (edge.source, edge.target)

theorem isBefore_iff {left right : Edge} : left.isBefore right ↔ left.rank < right.rank := by
  simp [isBefore, rank, Prod.Lex.toLex_lt_toLex]

theorem rank_injective : Function.Injective rank := by
  rintro ⟨source, target⟩ ⟨another, other⟩ same
  obtain ⟨rfl, rfl⟩ := Prod.mk.inj (toLex.injective same)
  rfl

/-- Edges are in order, each of them once. -/
def Sorted (edges : List Edge) : Prop :=
  (edges.map rank).Pairwise (· < ·)

theorem Sorted.insert {edges : List Edge} (sorted : Sorted edges) (edge : Edge)
    : Sorted (edge.insert edges) := by
  induction edges with
  | nil => exact List.pairwise_singleton _ _
  | cons head rest ih =>
      obtain ⟨least, sortedRest⟩ := List.pairwise_cons.mp sorted
      rw [Edge.insert]
      split
      · exact sorted
      · rename_i different
        split
        · rename_i before
          replace before := isBefore_iff.mp before
          refine List.pairwise_cons.mpr ⟨fun other member => ?_, sorted⟩
          rcases List.mem_cons.mp member with rfl | later
          · exact before
          · exact before.trans (least other later)
        · rename_i behind
          rw [isBefore_iff] at behind
          refine List.pairwise_cons.mpr ⟨fun other member => ?_, ih sortedRest⟩
          obtain ⟨inserted, added, rfl⟩ := List.mem_map.mp member
          rcases mem_insert_iff.mp added with rfl | later
          · exact (lt_or_gt_of_ne (rank_injective.ne different)).resolve_left behind
          · exact least _ (List.mem_map_of_mem later)

theorem Sorted.insertAll {edges : List Edge} (sorted : Sorted edges) (more : List Edge)
    : Sorted (more.foldl (fun edges edge => edge.insert edges) edges) := by
  induction more generalizing edges with
  | nil => exact sorted
  | cons edge rest ih => exact ih (sorted.insert edge)

end Edge

theorem declared?_append (fields more : List Field) (target : String)
    : declared? (fields ++ more) target = (declared? more target).or (declared? fields target) := by
  simp [declared?, List.find?_append]

namespace Engine

/-- An engine knows the fields that have been registered, first to last. -/
structure Knows (engine : Engine) (registered : List Field) : Prop where
  sorted : Edge.Sorted engine.edges
  edges : ∀ source target, ⟨source, target⟩ ∈ engine.edges ↔ Feeds registered source target
  latest : ∀ target, Table.find? target engine.fields = declared? registered target

variable {engine other : Engine} {registered more : List Field}

theorem knows_new : Knows {} [] where
  sorted := .nil
  edges := by simp [Feeds]
  latest := fun _ => rfl

theorem Knows.congr (h : engine.Knows registered) (edges : other.edges = engine.edges)
    (fields : other.fields = engine.fields)
    : other.Knows registered where
  sorted := edges ▸ h.sorted
  edges := edges ▸ h.edges
  latest := fields ▸ h.latest

theorem Knows.of_sameBase (h : engine.Knows registered) (base : other.SameBase engine)
    : other.Knows registered :=
  h.congr base.edges base.fields

theorem sorted_registerAll (sorted : Edge.Sorted engine.edges) (fields : List Field)
    : Edge.Sorted (engine.registerAll fields).edges := by
  induction fields generalizing engine with
  | nil => exact sorted
  | cons field rest ih => exact @ih (engine.register field) (sorted.insertAll _)

/-- Of fields that are registered one after the other the engine knows all. -/
theorem Knows.registerAll (h : engine.Knows registered) (more : List Field)
    : (engine.registerAll more).Knows (registered ++ more) where
  sorted := sorted_registerAll h.sorted more
  edges := by
    intro source target
    rw [mem_edges_registerAll_iff, h.edges]
    simp [Feeds, or_and_right, exists_or, or_comm]
  latest := by
    intro target
    rw [find?_fields_registerAll, h.latest, declared?_append]

/-- Registering the latest definitions again changes nothing. -/
theorem Knows.again (h : engine.Knows (registered ++ more))
    (latest : ∀ field ∈ more, declared? registered field.target = some field)
    : engine.Knows registered where
  sorted := h.sorted
  edges := by
    intro source target
    rw [h.edges]
    constructor
    · rintro ⟨field, member, named, reads⟩
      rcases List.mem_append.mp member with old | again
      · exact ⟨field, old, named, reads⟩
      · exact ⟨field, (declared?_spec (latest field again)).1, named, reads⟩
    · rintro ⟨field, member, named, reads⟩
      exact ⟨field, List.mem_append_left _ member, named, reads⟩
  latest := by
    intro target
    rw [h.latest, declared?_append]
    cases found : declared? more target with
    | none => rfl
    | some field =>
        obtain ⟨member, rfl⟩ := declared?_spec found
        rw [latest field member, Option.some_or]

/-- What has been registered tells the edges, whatever its order. -/
theorem Knows.edges_eq {others : List Field} (h : engine.Knows registered)
    (h' : other.Knows others) (same : ∀ field, field ∈ registered ↔ field ∈ others)
    : engine.edges = other.edges := by
  refine eq_of_mem_iff_of_sorted h.sorted h'.sorted fun edge => ?_
  rw [h.edges, h'.edges]
  simp [Feeds, same]

-----------------------------------------------------------------------------------------
-- What lies downstream
-----------------------------------------------------------------------------------------

/-- Every affected target has a latest definition. -/
theorem Knows.exists_declared (h : engine.Knows registered) {changed target : String}
    (affected : target ∈ engine.affected changed)
    : ∃ field, declared? registered target = some field := by
  have explored := Graph.explored_explore engine.edges [DataPath.normalize changed]
    [DataPath.normalize changed]
  obtain ⟨source, edge⟩ := explored.computed target affected
  obtain ⟨field, member, rfl, -⟩ := (h.edges source target).mp edge
  exact Option.isSome_iff_exists.mp (isSome_declared?_iff.mpr (List.mem_map_of_mem member))

theorem Knows.mem_downstream_iff (h : engine.Knows registered) {changed : String} {field : Field}
    : field ∈ engine.downstream changed
      ↔ field.target ∈ engine.affected changed
        ∧ declared? registered field.target = some field := by
  simp only [downstream, List.mem_filterMap, h.latest]
  constructor
  · rintro ⟨target, affected, counts⟩
    obtain ⟨-, rfl⟩ := declared?_spec counts
    exact ⟨affected, counts⟩
  · exact fun ⟨affected, counts⟩ => ⟨_, affected, counts⟩

/-- What is evaluated downstream of a path are the latest definitions of the affected targets. -/
theorem Knows.targets_downstream (h : engine.Knows registered) (changed : String)
    : (engine.downstream changed).map Field.target = engine.affected changed := by
  rw [downstream, List.map_filterMap]
  refine (List.filterMap_congr fun target affected => ?_).trans List.filterMap_some
  obtain ⟨field, counts⟩ := h.exists_declared affected
  rw [h.latest, counts, Option.map_some, (declared?_spec counts).2]

/-- Each request registers what it has been given; what lies downstream of a change is known. -/
theorem Knows.perform (h : engine.Knows registered) (request : Request)
    : (engine.perform request).Knows (registered ++ request.registers) := by
  have unchanged {other : Engine} (known : other.Knows registered)
      : other.Knows (registered ++ []) := by
    rwa [List.append_nil]
  cases request with
  | register field => exact h.registerAll [field]
  | evaluateAll clock fields data =>
      exact (h.registerAll fields).of_sameBase (sameBase_evaluateAll clock fields data engine)
  | evaluateAffected clock changed data =>
      have base := sameBase_evaluateAll clock (engine.downstream changed) data engine
      refine unchanged (((h.registerAll _).of_sameBase base).again fun field member => ?_)
      exact (h.mem_downstream_iff.mp member).2
  | evaluate clock field data =>
      exact unchanged (h.of_sameBase (sameBase_evaluate clock field data engine))
  | registerFunction name function => exact unchanged (h.congr rfl rfl)
  | setUser user => exact unchanged (h.congr rfl rfl)
  | pinClock now => exact unchanged (h.congr rfl rfl)
  | clear => exact unchanged (h.congr rfl rfl)

/-- After a run of requests an engine knows the fields that they have registered. -/
theorem knows_after (requests : List Request)
    : (after requests).Knows (registrations requests) := by
  refine after_induction (fun requests engine => engine.Knows (registrations requests)) knows_new
    (fun requests request engine h => ?_) requests
  rw [registrations, List.flatMap_append, List.flatMap_singleton]
  exact h.perform request

end Engine

end FormWizard.Computed
