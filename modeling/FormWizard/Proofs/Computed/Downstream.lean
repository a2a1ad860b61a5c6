import FormWizard.Computed.Engine
import FormWizard.Proofs.Computed.DependencyOrder

/-! Going through the dependency graph breadth first. What is found lies downstream, is listed
once, and is closed: what is computed from it is found as well.
-/

namespace FormWizard.Computed

namespace Graph

theorem mem_dependents_iff {edges : List Edge} {source target : String}
    : target ∈ dependents edges source ↔ ⟨source, target⟩ ∈ edges := by
  simp only [dependents, List.mem_map, List.mem_filter, decide_eq_true_eq]
  constructor
  · rintro ⟨edge, ⟨member, rfl⟩, rfl⟩
    exact member
  · exact fun member => ⟨_, ⟨member, rfl⟩, rfl⟩

theorem mem_fresh_iff {seen targets : List String} {target : String}
    : target ∈ fresh seen targets ↔ target ∈ targets ∧ target ∉ seen := by
  induction targets generalizing seen with
  | nil => simp [fresh]
  | cons head rest ih =>
      by_cases old : head ∈ seen
      · have differ (new : target ∉ seen) : target ≠ head := by
          rintro rfl
          exact new old
        simp only [fresh, if_pos old, ih, List.mem_cons]
        exact and_congr_left fun new => by simp [differ new]
      · by_cases same : target = head <;> simp [fresh, old, ih, same]

theorem nodup_fresh (seen targets : List String) : (fresh seen targets).Nodup := by
  induction targets generalizing seen with
  | nil => exact .nil
  | cons head rest ih =>
      by_cases old : head ∈ seen
      · simpa [fresh, old] using ih seen
      · simp only [fresh, if_neg old]
        exact List.nodup_cons.mpr ⟨fun again => by simp [mem_fresh_iff] at again, ih _⟩

/-- What a search finds with a queue to go through, when some targets have been seen. -/
structure Explored (edges : List Edge) (queue seen found : List String) : Prop where
  once : found.Nodup
  unseen : ∀ target ∈ found, target ∉ seen
  computed : ∀ target ∈ found, ∃ source, ⟨source, target⟩ ∈ edges
  closed : ∀ source ∈ queue ++ found, ∀ target,
    ⟨source, target⟩ ∈ edges → target ∈ found ∨ target ∈ seen

/-- The search finds all that it should. Witness: induction along the search; the targets that
are added to the queue are those found in the step.
-/
theorem explored_explore (edges : List Edge) (queue seen : List String)
    : Explored edges queue seen (explore edges queue seen) := by
  fun_induction explore edges queue seen with
  | case1 seen => exact ⟨.nil, by simp, by simp, by simp⟩
  | case2 seen current rest reached ih =>
      have new (target : String)
          : target ∈ reached ↔ ⟨current, target⟩ ∈ edges ∧ target ∉ seen := by
        rw [mem_fresh_iff, mem_dependents_iff]
      exact {
        once := by
          refine List.nodup_append.mpr ⟨nodup_fresh _ _, ih.once, ?_⟩
          rintro target now _ later rfl
          exact ih.unseen target later (by simp [now])
        unseen := by
          intro target found
          rcases List.mem_append.mp found with now | later
          · exact ((new target).mp now).2
          · exact fun old => ih.unseen target later (by simp [old])
        computed := by
          intro target found
          rcases List.mem_append.mp found with now | later
          · exact ⟨current, ((new target).mp now).1⟩
          · exact ih.computed target later
        closed := by
          intro source member target edge
          have split : source = current ∨ source ∈ rest ++ reached ++ explore edges
              (rest ++ reached) (reached.reverse ++ seen) := by
            simpa [or_assoc] using member
          rcases split with rfl | below
          · by_cases old : target ∈ seen
            · exact .inr old
            · exact .inl (List.mem_append_left _ ((new target).mpr ⟨edge, old⟩))
          · rcases ih.closed source below target edge with later | known
            · exact .inl (List.mem_append_right _ later)
            · rcases List.mem_append.mp known with now | old
              · exact .inl (List.mem_append_left _ (List.mem_reverse.mp now))
              · exact .inr old
      }

/-- What is computed from the start of a search or from what it finds is found, or is the start. -/
theorem mem_affected_of_edge {edges : List Edge} {start source target : String}
    (reached : source = start ∨ source ∈ affected edges start) (edge : ⟨source, target⟩ ∈ edges)
    : target = start ∨ target ∈ affected edges start := by
  have queued : source ∈ [start] ++ affected edges start := by simpa using reached
  rcases (explored_explore edges [start] [start]).closed source queued target edge with found | seen
  · exact .inr found
  · exact .inl (List.mem_singleton.mp seen)

end Graph

-----------------------------------------------------------------------------------------
-- The graph of registered fields
-----------------------------------------------------------------------------------------

theorem Edge.mem_insert_iff {edge other : Edge} {edges : List Edge}
    : other ∈ edge.insert edges ↔ other = edge ∨ other ∈ edges := by
  induction edges with
  | nil => simp [Edge.insert]
  | cons head rest ih =>
      simp only [Edge.insert]
      split
      · rename_i same
        simp [same]
      · split
        · simp
        · simp [ih, or_left_comm]

theorem Edge.mem_foldl_insert_iff {other : Edge} {more edges : List Edge}
    : other ∈ more.foldl (fun edges edge => edge.insert edges) edges
      ↔ other ∈ more ∨ other ∈ edges := by
  induction more generalizing edges with
  | nil => simp
  | cons edge rest ih => simp [ih, Edge.mem_insert_iff, or_left_comm, or_assoc]

namespace Engine

/-- Registering fields adds the edges from their sources to their targets. -/
theorem mem_edges_registerAll_iff {source target : String} {fields : List Field}
    {engine : Engine}
    : ⟨source, target⟩ ∈ (engine.registerAll fields).edges
      ↔ (∃ field ∈ fields, field.target = target ∧ source ∈ field.sources)
        ∨ ⟨source, target⟩ ∈ engine.edges := by
  have ofField (field : Field)
      : ⟨source, target⟩ ∈ Edge.ofField field ↔ field.target = target ∧ source ∈ field.sources := by
    simp [Edge.ofField, and_comm]
  induction fields generalizing engine with
  | nil => simp [registerAll]
  | cons field rest ih =>
      refine (@ih (engine.register field)).trans ?_
      rw [register, Edge.mem_foldl_insert_iff, ofField]
      simp [or_assoc, or_left_comm]

/-- Of the fields registered for a target the last one counts. -/
theorem find?_fields_registerAll (target : String) (fields : List Field) (engine : Engine)
    : Table.find? target (engine.registerAll fields).fields
      = (declared? fields target).or (Table.find? target engine.fields) := by
  have extended : (engine.registerAll fields).fields
      = Table.extend engine.fields (fields.map fun field => (field.target, field)) := by
    induction fields generalizing engine with
    | nil => rfl
    | cons field rest ih => exact ih (engine.register field)
  rw [extended, Table.find?_extend, ← List.map_reverse, List.find?_map]
  simp [declared?, Function.comp_def]

end Engine

end FormWizard.Computed
