import FormWizard.Computed.Field

/-! Which computed fields lie downstream of a path. -/

namespace FormWizard.Computed

/-- The target is computed from the source. Both are canonical spellings of paths. -/
structure Edge where
  source : String
  target : String
deriving DecidableEq, Repr

namespace Edge

/-- Edges are ordered by their sources, and those of one source by their targets. -/
def isBefore (left right : Edge) : Bool :=
  left.source < right.source || (left.source == right.source && left.target < right.target)

/-- Adds an edge to edges in order, unless it is there already. -/
def insert (edge : Edge) : List Edge → List Edge
  | [] => [edge]
  | head :: rest =>
    if edge = head then head :: rest
    else if edge.isBefore head then edge :: head :: rest
    else head :: insert edge rest

/-- The edges from the sources of a field to its target. -/
def ofField (field : Field) : List Edge :=
  field.sources.map fun source => ⟨source, field.target⟩

end Edge

namespace Graph

/-- The targets that are computed from a source, in order. -/
def dependents (edges : List Edge) (source : String) : List String :=
  (edges.filter (·.source = source)).map Edge.target

/-- The members of a list that have not been seen, each once. -/
def fresh (seen : List String) : List String → List String
  | [] => []
  | target :: rest =>
    if target ∈ seen then fresh seen rest else target :: fresh (target :: seen) rest

/-- The number of edges whose targets have not been seen. -/
def unseen (edges : List Edge) (seen : List String) : Nat :=
  edges.countP (·.target ∉ seen)

/-- Seeing a target takes at least its own edge away. -/
theorem unseen_cons_lt {edges : List Edge} {edge : Edge} {seen : List String}
    (member : edge ∈ edges) (new : edge.target ∉ seen)
    : unseen edges (edge.target :: seen) < unseen edges seen := by
  induction edges with
  | nil => cases member
  | cons head rest ih =>
    have le : unseen rest (edge.target :: seen) ≤ unseen rest seen := by
      refine List.countP_mono_left fun other _ h => ?_
      simp only [List.mem_cons, not_or, decide_eq_true_eq] at h ⊢
      exact h.2
    by_cases known : head.target ∈ seen
    · have inRest : edge ∈ rest := by
        cases member with
        | head => exact absurd known new
        | tail _ h => exact h
      simpa [unseen, List.countP_cons, known] using ih inRest
    · by_cases same : head.target = edge.target
      · have : unseen (head :: rest) (edge.target :: seen)
            = unseen rest (edge.target :: seen) := by
          simp [unseen, same]
        have : unseen (head :: rest) seen = unseen rest seen + 1 := by
          simp [unseen, known]
        omega
      · have inRest : edge ∈ rest := by
          cases member with
          | head => exact absurd rfl same
          | tail _ h => exact h
        simpa [unseen, List.countP_cons, known, same] using ih inRest

/-- Every fresh target takes at least one edge away from the unseen ones. -/
theorem unseen_fresh_le {edges : List Edge} {targets : List String} (seen : List String)
    (known : ∀ target ∈ targets, ∃ edge ∈ edges, edge.target = target)
    : unseen edges ((fresh seen targets).reverse ++ seen) + (fresh seen targets).length
        ≤ unseen edges seen := by
  induction targets generalizing seen with
  | nil => simp [fresh]
  | cons target rest ih =>
    have inRest : ∀ t ∈ rest, ∃ edge ∈ edges, edge.target = t := fun t h =>
      known t (List.mem_cons_of_mem _ h)
    by_cases old : target ∈ seen
    · simpa [fresh, old] using ih seen inRest
    · obtain ⟨edge, member, rfl⟩ := known target (List.mem_cons_self ..)
      have step := ih (edge.target :: seen) inRest
      have less := unseen_cons_lt member old
      simp only [fresh, old, if_false, List.reverse_cons, List.append_assoc,
        List.singleton_append, List.length_cons]
      omega

/-- Goes through a queue of paths breadth first, adding the targets that are reached for the
first time to its end. The result lists these targets in the order in which they are reached.
-/
def explore (edges : List Edge) (queue seen : List String) : List String :=
  match queue with
  | [] => []
  | current :: rest =>
    let reached := fresh seen (dependents edges current)
    reached ++ explore edges (rest ++ reached) (reached.reverse ++ seen)
termination_by queue.length + unseen edges seen
decreasing_by
  have known : ∀ target ∈ dependents edges current, ∃ edge ∈ edges, edge.target = target := by
    intro target h
    simp only [dependents, List.mem_map, List.mem_filter] at h
    obtain ⟨edge, ⟨member, -⟩, same⟩ := h
    exact ⟨edge, member, same⟩
  have := unseen_fresh_le seen known
  simp only [List.length_append, List.length_cons]
  omega

/-- The targets downstream of a path, nearest first. -/
def affected (edges : List Edge) (start : String) : List String :=
  explore edges [start] [start]

end Graph

end FormWizard.Computed
