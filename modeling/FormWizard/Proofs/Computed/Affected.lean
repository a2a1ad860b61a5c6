import FormWizard.Proofs.Computed.Nearness
import FormWizard.Proofs.Computed.Registrations

/-! What an engine takes to be affected by a change is exactly what lies downstream of it, by all
that has ever been registered, nearest first. What it then evaluates are the latest definitions,
sources first, unless these read each other in a cycle.
-/

namespace FormWizard.Computed

open Calendar (Instant)
open DataPath (normalize)
open Relation (TransGen)

/-- The list holds what lies downstream of the start, each target once, and the nearest first. -/
structure IsAffected (feeds : String → String → Prop) (start : String) (found : List String)
    : Prop where
  once : found.Nodup
  downstream : ∀ target, target ∈ found ↔ target ≠ start ∧ TransGen feeds start target
  nearestFirst : NearestFirst feeds start found

/-- Among the listed targets, the latest definition of the first one reads the second one. -/
def ReadsListed (registered : List Field) (listed : List String) (target source : String) : Prop :=
  source ∈ listed ∧ target ∈ listed
  ∧ ∃ field, declared? registered target = some field ∧ source ∈ field.sources

/-- There is one result for each listed target, after the results for those that it reads. -/
structure IsRecomputed (reads : String → String → Prop) (listed : List String)
    (results : List Result)
    : Prop where
  each : (results.map Result.path).Perm listed
  sourcesFirst : ∀ front result back,
    results = front ++ result :: back
    → ∀ source, reads result.path source → source ∈ front.map Result.path

namespace Graph

variable {edges : List Edge} {start target : String}

/-- The search starts at the frontier that is the start itself. -/
theorem frontier_start (edges : List Edge) (start : String)
    : Frontier edges start 0 [start] [] [start] where
  here := by simp [isDistance_zero_iff]
  beyond := by simp
  known := by
    rintro target nearer bound found
    obtain rfl := Nat.le_zero.mp bound
    exact List.mem_singleton.mpr (isDistance_zero_iff.mp found)
  followed := fun source known left => (left (by simpa using known)).elim

/-- What is reached along edges from the start is found, or is the start. -/
theorem mem_affected_of_transGen (reached : TransGen (Joins edges) start target)
    : target = start ∨ target ∈ affected edges start := by
  induction reached with
  | single edge => exact mem_affected_of_edge (.inl rfl) edge
  | tail _ edge ih => exact mem_affected_of_edge ih edge

/-- The search finds what lies downstream. -/
theorem isAffected_affected (edges : List Edge) (start : String)
    : IsAffected (Joins edges) start (affected edges start) := by
  have explored := explored_explore edges [start] [start]
  obtain ⟨further, nearestFirst⟩ := (frontier_start edges start).explore
  refine ⟨explored.once, fun target => ⟨fun found => ⟨?_, ?_⟩, ?_⟩, nearestFirst⟩
  · exact fun same => explored.unseen target found (List.mem_singleton.mpr same)
  · obtain ⟨distance, positive, isDistance⟩ := further target found
    obtain ⟨steps, rfl⟩ := Nat.exists_eq_succ_of_ne_zero (Nat.pos_iff_ne_zero.mp positive)
    exact isDistance.walk.transGen
  · exact fun ⟨different, reached⟩ => (mem_affected_of_transGen reached).resolve_left different

end Graph

-----------------------------------------------------------------------------------------
-- Evaluating what is affected
-----------------------------------------------------------------------------------------

namespace Engine

variable {engine : Engine} {registered : List Field} {changed : String}

theorem Knows.joins_eq (h : engine.Knows registered)
    : Graph.Joins engine.edges = Feeds registered :=
  funext₂ fun source target => propext (h.edges source target)

theorem Knows.isAffected (h : engine.Knows registered) (changed : String)
    : IsAffected (Feeds registered) (normalize changed) (engine.affected changed) :=
  h.joins_eq ▸ Graph.isAffected_affected engine.edges (normalize changed)

/-- Among the fields that are evaluated, those depend on each other whose latest definitions do. -/
theorem Knows.reads_downstream_iff (h : engine.Knows registered) {target source : String}
    : Reads (engine.downstream changed) target source
      ↔ ReadsListed registered (engine.affected changed) target source := by
  have distinct : ((engine.downstream changed).map Field.target).Nodup :=
    h.targets_downstream changed ▸ (h.isAffected changed).once
  have counts (field : Field)
      : declared? (engine.downstream changed) target = some field
        ↔ target ∈ engine.affected changed ∧ declared? registered target = some field := by
    constructor
    · intro found
      obtain ⟨member, rfl⟩ := declared?_spec found
      exact h.mem_downstream_iff.mp member
    · rintro ⟨affected, found⟩
      obtain ⟨-, rfl⟩ := declared?_spec found
      exact declared?_of_mem distinct (h.mem_downstream_iff.mpr ⟨affected, found⟩)
  rw [Reads, ReadsListed, h.targets_downstream]
  simp only [counts, and_assoc, exists_and_left]

theorem paths_evaluateInOrder (clock : Instant) (data : Json) (engine : Engine)
    (fields : List Field)
    : (evaluateInOrder clock data engine fields).1.map Result.path = fields.map Field.target := by
  induction fields generalizing data engine with
  | nil => rfl
  | cons field rest ih => simp only [evaluateInOrder, List.map_cons, ih]; rfl

/-- The results for fields in the order of their dependencies are there for each target, sources
first.
-/
theorem isRecomputed_of_order {fields ordered : List Field}
    (isOrder : IsDependencyOrder fields ordered)
    (distinct : (fields.map Field.target).Nodup) {results : List Result}
    (paths : results.map Result.path = ordered.map Field.target)
    : IsRecomputed (Reads fields) (fields.map Field.target) results where
  each := by
    rw [paths]
    exact (List.perm_ext_iff_of_nodup isOrder.once distinct).mpr isOrder.complete
  sourcesFirst := by
    rintro front result back rfl source reads
    rw [List.map_append, List.map_cons] at paths
    obtain ⟨first, others, rfl, firsts, others⟩ := List.map_eq_append_iff.mp paths.symm
    obtain ⟨field, rest, rfl, here, -⟩ := List.map_eq_cons_iff.mp others
    rw [← firsts]
    exact isOrder.sourcesFirst first field rest rfl source (here ▸ reads)

/-- Either all that is affected is evaluated, sources first, or it holds a cycle and the data are
left alone.
-/
theorem Knows.evaluateAffected (h : engine.Knows registered) (clock : Instant) (changed : String)
    (data : Json)
    : match engine.evaluateAffected clock changed data with
      | (.ok results, _) =>
          IsRecomputed (ReadsListed registered (engine.affected changed))
            (engine.affected changed) results
          ∧ ∀ target, ¬TransGen (ReadsListed registered (engine.affected changed)) target target
      | (.error error, left, _) =>
          left = data
          ∧ TransGen (ReadsListed registered (engine.affected changed))
              error.target error.target := by
  have reads : Reads (engine.downstream changed)
      = ReadsListed registered (engine.affected changed) :=
    funext₂ fun _ _ => propext h.reads_downstream_iff
  have targets := h.targets_downstream changed
  have distinct := (h.isAffected changed).once
  rw [← reads, ← targets] at *
  unfold Engine.evaluateAffected evaluateAll
  cases ordering : order (engine.downstream changed) with
  | error error => exact ⟨rfl, transGen_of_order_error ordering⟩
  | ok ordered =>
      have isOrder := isDependencyOrder_of_order ordering
      exact ⟨isRecomputed_of_order isOrder distinct (paths_evaluateInOrder clock data _ ordered),
        isOrder.acyclic⟩

/-- What is affected by a change, and what becomes of it. After any run of requests, the targets
listed for a path are those downstream of it by any definition that has been registered, other than
the path itself, each once and the nearest first; and the list does not tell in which order the
definitions came. Evaluating what is affected gives one result for each listed target, after the
results for the listed targets that its latest definition reads; or else these definitions hold a
cycle, and nothing happens to the data.
-/
theorem affected_exact (requests : List Request) (changed : String)
    : IsAffected (Feeds (registrations requests)) (normalize changed)
          ((after requests).affected changed)
      ∧ (∀ others, (registrations requests).Perm (registrations others)
        → (after others).affected changed = (after requests).affected changed)
      ∧ ∀ clock data,
          let listed := (after requests).affected changed
          let reads := ReadsListed (registrations requests) listed
          match (after requests).evaluateAffected clock changed data with
          | (.ok results, _) =>
              IsRecomputed reads listed results ∧ ∀ target, ¬TransGen reads target target
          | (.error error, left, _) => left = data ∧ TransGen reads error.target error.target := by
  have known := knows_after requests
  refine ⟨known.isAffected changed, fun others perm => ?_, fun clock data => ?_⟩
  · rw [affected, affected, known.edges_eq (knows_after others) fun _ => perm.mem_iff]
  · exact known.evaluateAffected clock changed data

end Engine

/-- Requests that register the fields of an order. The sum due is defined a second time after a run,
and the rebate and the bonus read each other.
-/
def orderRequests : List Request :=
  [.register { path := "due", expr := "total", dependsOn := ["total"] },
    .register { path := "rebate", expr := "bonus", dependsOn := ["bonus", "total"] },
    .evaluateAll default [{ path := "$['total']", expr := "price", dependsOn := ["price"] }]
      (.object [("price", .ofInt 3)]),
    .register { path := "$.bonus", expr := "rebate", dependsOn := ["$.rebate"] },
    .register { path := "$.due", expr := "total - tax", dependsOn := ["total", "tax"] },
    .register { path := "tax", expr := "total / 5", dependsOn := ["price", "total"] }]

/-- The price affects all of them, in whichever order they came, and they cannot be evaluated. -/
theorem affected_orderRequests
    : (Engine.after orderRequests).affected "price"
        = ["$.tax", "$.total", "$.due", "$.rebate", "$.bonus"]
      ∧ (Engine.after orderRequests.reverse).affected "price"
        = (Engine.after orderRequests).affected "price"
      ∧ ((Engine.after orderRequests).evaluateAffected default "price" .null).2.1 = .null := by
  obtain ⟨-, shuffled, evaluated⟩ := Engine.affected_exact orderRequests "price"
  refine ⟨by decide +kernel, shuffled _ ?_, ?_⟩
  · decide +kernel
  · have failed : ((Engine.after orderRequests).evaluateAffected default "price" .null).1.isOk = false := by
      decide +kernel
    have outcome := evaluated default .null
    revert failed outcome
    rcases (Engine.after orderRequests).evaluateAffected default "price" .null with
      ⟨error | results, left, after⟩
    · exact fun _ outcome => outcome.1
    · exact fun failed => absurd failed (by simp [Except.isOk, Except.toBool])

end FormWizard.Computed
