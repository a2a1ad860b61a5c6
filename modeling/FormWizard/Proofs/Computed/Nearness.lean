import FormWizard.Proofs.Computed.Downstream
import Mathlib.Data.Nat.Find

/-! The search goes through the dependency graph in the order of distance: a target that takes more
edges to reach is found after those that take fewer. At any time the queue holds targets of one
distance, followed by targets that are one edge further away.
-/

namespace FormWizard.Computed

open Relation (TransGen)

section Walks

variable {feeds : String → String → Prop} {start target other : String} {steps distance : Nat}

/-- So many edges lead from one path to another. -/
def Walk (feeds : String → String → Prop) (start : String) : Nat → String → Prop
  | 0, target => target = start
  | steps + 1, target => ∃ source, Walk feeds start steps source ∧ feeds source target

/-- The least number of edges that lead from one path to another. -/
structure IsDistance (feeds : String → String → Prop) (start : String) (distance : Nat)
    (target : String)
    : Prop where
  walk : Walk feeds start distance target
  least : ∀ steps < distance, ¬Walk feeds start steps target

/-- A target has one distance at most. -/
theorem IsDistance.unique {more : Nat} (h : IsDistance feeds start distance target)
    (h' : IsDistance feeds start more target)
    : distance = more := by
  rcases Nat.lt_trichotomy distance more with less | same | less
  · exact (h'.least distance less h.walk).elim
  · exact same
  · exact (h.least more less h'.walk).elim

/-- What can be reached in some number of edges is no further away. -/
theorem exists_isDistance_of_walk (h : Walk feeds start steps target)
    : ∃ distance ≤ steps, IsDistance feeds start distance target := by
  classical
  have some : ∃ steps, Walk feeds start steps target := ⟨steps, h⟩
  exact ⟨Nat.find some, Nat.find_min' some h, Nat.find_spec some, fun _ => Nat.find_min some⟩

/-- On the last edge of a shortest walk one comes from a place that is one edge nearer. -/
theorem IsDistance.exists_source (h : IsDistance feeds start (distance + 1) target)
    : ∃ source, IsDistance feeds start distance source ∧ feeds source target := by
  obtain ⟨source, walk, edge⟩ := h.walk
  refine ⟨source, ⟨walk, fun fewer less shorter => ?_⟩, edge⟩
  exact h.least (fewer + 1) (Nat.succ_lt_succ less) ⟨source, shorter, edge⟩

theorem isDistance_zero_iff : IsDistance feeds start 0 target ↔ target = start :=
  ⟨fun h => h.walk, fun same => ⟨same, fun _ less => (Nat.not_lt_zero _ less).elim⟩⟩

/-- Only the start itself can be reached without an edge. -/
theorem Walk.transGen (walk : Walk feeds start (steps + 1) target)
    : TransGen feeds start target := by
  induction steps generalizing target with
  | zero =>
      obtain ⟨source, rfl, edge⟩ := walk
      exact .single edge
  | succ steps ih =>
      obtain ⟨source, before, edge⟩ := walk
      exact (ih before).tail edge

/-- In a list of targets every one is at least as far away as those in front of it. -/
def NearestFirst (feeds : String → String → Prop) (start : String) (targets : List String) : Prop :=
  targets.Pairwise fun near far =>
    ∃ distance more, IsDistance feeds start distance near ∧ IsDistance feeds start more far
      ∧ distance ≤ more

end Walks

namespace Graph

/-- There is an edge from the source to the target. -/
def Joins (edges : List Edge) (source target : String) : Prop :=
  ⟨source, target⟩ ∈ edges

variable {edges : List Edge} {start current : String} {distance : Nat}
  {near far rest seen : List String}

/-- Where the search stands while it goes through the targets of one distance: those of them that
are still in the queue, and behind them the ones already found at the next distance. All that are
no further away have been seen, and so has what is fed by a seen path that has left the queue.
-/
structure Frontier (edges : List Edge) (start : String) (distance : Nat)
    (near far seen : List String)
    : Prop where
  here : ∀ target ∈ near, IsDistance (Joins edges) start distance target
  beyond : ∀ target ∈ far, IsDistance (Joins edges) start (distance + 1) target
  known : ∀ target nearer, nearer ≤ distance →
    IsDistance (Joins edges) start nearer target → target ∈ seen
  followed : ∀ source ∈ seen, source ∉ near ++ far →
    ∀ target, Joins edges source target → target ∈ seen

/-- What the first path of the queue feeds and has not been seen is one edge further away. -/
theorem Frontier.isDistance_of_new (h : Frontier edges start distance (current :: near) far seen)
    {target : String} (edge : Joins edges current target) (new : target ∉ seen)
    : IsDistance (Joins edges) start (distance + 1) target := by
  have here := h.here current List.mem_cons_self
  refine ⟨⟨current, here.walk, edge⟩, fun steps less walk => new ?_⟩
  obtain ⟨nearer, bound, found⟩ := exists_isDistance_of_walk walk
  exact h.known target nearer (by omega) found

/-- The first path of the queue may be left once what it feeds has been added. -/
theorem Frontier.follow (h : Frontier edges start distance (current :: near) far seen)
    {reached : List String}
    (new : ∀ target, target ∈ reached ↔ Joins edges current target ∧ target ∉ seen)
    : Frontier edges start distance near (far ++ reached) (reached.reverse ++ seen) where
  here := fun target member => h.here target (List.mem_cons_of_mem _ member)
  beyond := by
    intro target member
    rcases List.mem_append.mp member with old | now
    · exact h.beyond target old
    · obtain ⟨edge, unseen⟩ := (new target).mp now
      exact h.isDistance_of_new edge unseen
  known := fun target nearer bound found =>
    List.mem_append_right _ (h.known target nearer bound found)
  followed := by
    intro source member left target edge
    have known : source ∈ seen := by
      rcases List.mem_append.mp member with now | old
      · exact (left (by simp [List.mem_reverse.mp now])).elim
      · exact old
    by_cases first : source = current
    · subst first
      by_cases old : target ∈ seen
      · exact List.mem_append_right _ old
      · exact List.mem_append_left _ (List.mem_reverse.mpr ((new target).mpr ⟨edge, old⟩))
    · refine List.mem_append_right _ (h.followed source known (fun queued => left ?_) target edge)
      simp only [List.cons_append, List.mem_cons, first, false_or] at queued
      simp only [← List.append_assoc, List.mem_append] at queued ⊢
      exact .inl queued

/-- When the targets of one distance have left the queue, those of the next one are all there. -/
theorem Frontier.advance (h : Frontier edges start distance [] far seen)
    : Frontier edges start (distance + 1) far [] seen where
  here := h.beyond
  beyond := by simp
  known := by
    intro target nearer bound found
    rcases Nat.lt_or_eq_of_le bound with less | rfl
    · exact h.known target nearer (Nat.le_of_lt_succ less) found
    · obtain ⟨source, before, edge⟩ := found.exists_source
      refine h.followed source (h.known source distance le_rfl before) (fun queued => ?_) target
        edge
      exact Nat.succ_ne_self distance ((h.beyond source queued).unique before)
  followed := by simpa using h.followed

/-- What is found from a frontier is further away than it, and the nearest comes first. Witness:
induction along the search, at every path with the frontier that has it in front.
-/
theorem Frontier.explore (h : Frontier edges start distance near far seen)
    : (∀ target ∈ Graph.explore edges (near ++ far) seen,
        ∃ further > distance, IsDistance (Joins edges) start further target)
      ∧ NearestFirst (Joins edges) start (Graph.explore edges (near ++ far) seen) := by
  generalize queued : near ++ far = queue
  fun_induction Graph.explore edges queue seen generalizing distance near far with
  | case1 seen => exact ⟨by simp, .nil⟩
  | case2 seen current rest reached =>
      rename_i ih
      have new (target : String)
          : target ∈ reached ↔ Joins edges current target ∧ target ∉ seen := by
        rw [mem_fresh_iff, mem_dependents_iff, Joins]
      -- The frontier is taken at the distance of the first path in the queue.
      obtain ⟨level, close, behind, least, frontier, rfl⟩ : ∃ level close behind,
          distance ≤ level ∧ Frontier edges start level (current :: close) behind seen
          ∧ close ++ behind = rest := by
        cases near with
        | cons first others =>
            obtain ⟨rfl, same⟩ := List.cons.inj queued
            exact ⟨distance, others, far, le_rfl, h, same⟩
        | nil =>
            obtain rfl : far = current :: rest := queued
            exact ⟨distance + 1, rest, [], Nat.le_succ _, h.advance, List.append_nil rest⟩
      obtain ⟨further, ordered⟩ := ih (frontier.follow new) (List.append_assoc ..).symm
      have next (target : String) (now : target ∈ reached)
          : IsDistance (Joins edges) start (level + 1) target := by
        obtain ⟨edge, unseen⟩ := (new target).mp now
        exact frontier.isDistance_of_new edge unseen
      constructor
      · intro target found
        rcases List.mem_append.mp found with now | later
        · exact ⟨level + 1, Nat.lt_succ_of_le least, next target now⟩
        · obtain ⟨more, beyond, isDistance⟩ := further target later
          exact ⟨more, Nat.lt_of_le_of_lt least beyond, isDistance⟩
      · refine List.pairwise_append.mpr ⟨?_, ordered, ?_⟩
        · exact List.pairwise_of_forall_mem_list fun first one second other =>
            ⟨_, _, next first one, next second other, le_rfl⟩
        · intro first now second later
          obtain ⟨more, beyond, isDistance⟩ := further second later
          exact ⟨_, more, next first now, isDistance, beyond⟩

end Graph

end FormWizard.Computed
