import FormWizard.Proofs.Computed.Affected

/-! Computed fields that are defined anew. A new definition takes the place of the old one, but what
the old one read stays connected with the target. So an engine may list more for a change than one
that has been given the latest definitions only: whatever lies behind a source that was dropped.
-/

namespace FormWizard.Computed

open DataPath (normalize)
open Relation (TransGen)

/-- The latest definitions among those that have been registered, one for each target. -/
def latest (registered : List Field) : List Field :=
  (batch registered).map Prod.snd

/-- A new engine that has been given the latest definitions only. -/
def Engine.ofLatest (registered : List Field) : Engine :=
  registerAll (latest registered) {}

/-- A definition of the target that has been registered reads the source, and the latest one does
not.
-/
structure Dropped (registered : List Field) (source target : String) : Prop where
  before : Feeds registered source target
  now : ¬Feeds (latest registered) source target

theorem mem_latest_iff {registered : List Field} {field : Field}
    : field ∈ latest registered ↔ declared? registered field.target = some field := by
  have sorted : (batch registered).keys.Pairwise (· < ·) := Table.sorted_ofEntries _
  have entry (target : String) (other : Field)
      : (target, other) ∈ batch registered ↔ declared? registered target = some other := by
    rw [← Table.find?_eq_some_iff sorted, find?_batch]
  simp only [latest, List.mem_map, Prod.exists, exists_eq_right, entry]
  constructor
  · rintro ⟨target, counts⟩
    obtain ⟨-, rfl⟩ := declared?_spec counts
    exact counts
  · exact fun counts => ⟨_, counts⟩

/-- What the latest definitions read has been read by definitions that were registered. -/
theorem Feeds.of_latest {registered : List Field} {source target : String}
    (h : Feeds (latest registered) source target)
    : Feeds registered source target := by
  obtain ⟨field, member, named, reads⟩ := h
  exact ⟨field, (declared?_spec (mem_latest_iff.mp member)).1, named, reads⟩

-----------------------------------------------------------------------------------------
-- Fewer edges
-----------------------------------------------------------------------------------------

section

variable {feeds more : String → String → Prop} {start : String} {found others : List String}

/-- Along more edges one comes at least as far. -/
theorem IsAffected.subset (h : IsAffected feeds start found) (h' : IsAffected more start others)
    (le : ∀ source target, feeds source target → more source target)
    : found ⊆ others := by
  intro target member
  obtain ⟨different, reached⟩ := (h.downstream target).mp member
  exact (h'.downstream target).mpr ⟨different, TransGen.mono le _ _ reached⟩

/-- Along more edges one comes no further exactly if none of them leads out of what was reached. -/
theorem IsAffected.subset_iff (h : IsAffected feeds start found) (h' : IsAffected more start others)
    (le : ∀ source target, feeds source target → more source target)
    : others ⊆ found
      ↔ ∀ source ∈ start :: found, ∀ target, more source target → target ∈ start :: found := by
  constructor
  · intro sub source member target edge
    by_cases same : target = start
    · exact same ▸ List.mem_cons_self
    · have reached : TransGen more start target := by
        rcases List.mem_cons.mp member with rfl | listed
        · exact .single edge
        · exact (TransGen.mono le _ _ ((h.downstream source).mp listed).2).tail edge
      exact List.mem_cons_of_mem _ (sub ((h'.downstream target).mpr ⟨same, reached⟩))
  · intro closed target member
    obtain ⟨different, reached⟩ := (h'.downstream target).mp member
    have inside : target ∈ start :: found := by
      clear different member
      induction reached with
      | single edge => exact closed start List.mem_cons_self _ edge
      | tail _ edge ih => exact closed _ ih _ edge
    exact (List.mem_cons.mp inside).resolve_left different

end

namespace Graph

/-- A search finds the same in graphs that look the same from the paths that it comes to. Witness:
induction along the search.
-/
theorem explore_congr {edges others : List Edge} {queue seen : List String}
    (same : ∀ source ∈ queue ++ explore edges queue seen,
      dependents edges source = dependents others source)
    : explore edges queue seen = explore others queue seen := by
  fun_induction explore edges queue seen with
  | case1 seen => rw [explore]
  | case2 seen current rest reached ih =>
      have here : fresh seen (dependents others current) = reached := by
        rw [← same current List.mem_cons_self]
      rw [explore]
      simp only [here]
      rw [ih fun source member => same source ?_]
      rw [List.cons_append, ← List.append_assoc]
      exact List.mem_cons_of_mem _ member

/-- In ordered edges the targets of a source are told by which of them there are. -/
theorem dependents_eq {edges others : List Edge} (sorted : Edge.Sorted edges)
    (sorted' : Edge.Sorted others) {source : String}
    (same : ∀ target, Joins edges source target ↔ Joins others source target)
    : dependents edges source = dependents others source := by
  have ordered {edges : List Edge} (sorted : Edge.Sorted edges)
      : Edge.Sorted (edges.filter (·.source = source)) :=
    List.Pairwise.sublist (List.filter_sublist.map Edge.rank) sorted
  refine congrArg (List.map Edge.target) ?_
  refine eq_of_mem_iff_of_sorted (ordered sorted) (ordered sorted') fun edge => ?_
  simp only [List.mem_filter, decide_eq_true_eq]
  refine and_congr_left ?_
  rintro rfl
  exact same edge.target

end Graph

-----------------------------------------------------------------------------------------
-- Dropped sources
-----------------------------------------------------------------------------------------

namespace Engine

theorem knows_ofLatest (registered : List Field)
    : (ofLatest registered).Knows (latest registered) := by
  have known := knows_new.registerAll (latest registered)
  rwa [List.nil_append] at known

/-- What a new definition changes of what is affected. After any run of requests an engine lists for
a path all that the latest definitions alone make it list. It lists nothing else exactly if every
dropped source that is the path, or is listed, belongs to a target that is listed anyway; and if none
of them is dropped at all, the order is the same as well.
-/
theorem affected_redefined (requests : List Request) (changed : String)
    : let registered := registrations requests
      let listed := (after requests).affected changed
      let current := (ofLatest registered).affected changed
      let reached := normalize changed :: current
      current ⊆ listed
      ∧ (listed ⊆ current
        ↔ ∀ source ∈ reached, ∀ target, Dropped registered source target → target ∈ reached)
      ∧ ((∀ source ∈ reached, ∀ target, ¬Dropped registered source target)
        → listed = current) := by
  intro registered listed current reached
  have known : (after requests).Knows registered := knows_after requests
  have fresh := knows_ofLatest registered
  have all : IsAffected (Feeds registered) (normalize changed) listed := known.isAffected changed
  have some : IsAffected (Feeds (latest registered)) (normalize changed) current :=
    fresh.isAffected changed
  have le (source target : String) (feeds : Feeds (latest registered) source target)
      : Feeds registered source target :=
    feeds.of_latest
  refine ⟨some.subset all le, ?_, fun kept => ?_⟩
  · rw [some.subset_iff all le]
    refine forall₂_congr fun source member => forall_congr' fun target => ?_
    constructor
    · exact fun closed dropped => closed dropped.before
    · intro closed before
      by_cases now : Feeds (latest registered) source target
      · exact (some.subset_iff some fun _ _ => id).mp (List.Subset.refl _) source member target now
      · exact closed ⟨before, now⟩
  · have same (source : String) (member : source ∈ reached)
        : Graph.dependents (ofLatest registered).edges source
          = Graph.dependents (after requests).edges source := by
      refine Graph.dependents_eq fresh.sorted known.sorted fun target => ?_
      rw [fresh.joins_eq, known.joins_eq]
      refine ⟨le source target, fun before => ?_⟩
      by_contra now
      exact kept source member target ⟨before, now⟩
    exact (Graph.explore_congr same).symm

/-- The total of an order, first its price and later its net amount. -/
def totals : List Request :=
  [.register { path := "total", expr := "price", dependsOn := ["price"] },
    .register { path := "$.total", expr := "net", dependsOn := ["net"] }]

/-- The price is no longer read, but still affects the total. -/
theorem affected_ne_latest_totals
    : (after totals).affected "price" = ["$.total"]
      ∧ (ofLatest (registrations totals)).affected "price" = [] := by
  decide +kernel

end Engine

end FormWizard.Computed
