import FormWizard.Proofs.Expr.Soundness

/-! The height of the trees that the parser accepts. Levels of nesting and links are handed down,
and a chain of operators returns its links before the next looser one is put on top of it. So the
links of a place count once for each degree of looseness, once for members and indexes, and again
on every level of nesting. A condition with branches opens no level above what it tests.
-/

namespace FormWizard.Expr

mutual

/-- The height of a tree: how deep evaluating it goes, where a leaf counts as one. -/
def height : Expr → Nat
  | .literal _ | .ident _ => 1
  | .array items => heights items + 1
  | .member target _ => target.height + 1
  | .index target position => max target.height position.height + 1
  | .call _ args => heights args + 1
  | .unary _ operand => operand.height + 1
  | .binary _ left right => max left.height right.height + 1
  | .conditional condition yes no => max condition.height (max yes.height no.height) + 1

/-- The greatest height in a list of trees, or zero. -/
def heights : List Expr → Nat
  | [] => 0
  | expr :: rest => max expr.height (heights rest)

end

mutual

/-- How many operators, members, indexes and tests stand one above the other. These are the parts of
a tree above which no level of nesting is opened.
-/
def chained : Expr → Nat
  | .literal _ | .ident _ => 0
  | .array items => chainedItems items
  | .member target _ => target.chained + 1
  | .index target position => max target.chained position.chained + 1
  | .call _ args => chainedItems args
  | .unary _ operand => operand.chained
  | .binary _ left right => max left.chained right.chained + 1
  | .conditional condition yes no => max (condition.chained + 1) (max yes.chained no.chained)

/-- The greatest such number in a list of trees, or zero. -/
def chainedItems : List Expr → Nat
  | [] => 0
  | expr :: rest => max expr.chained (chainedItems rest)

end

theorem height_pos (expr : Expr) : 0 < expr.height := by
  cases expr <;> simp [height]

mutual

/-- What is chained in a tree stands above a leaf, by mutual induction on the tree and the lists in
it.
-/
theorem chained_lt_height (expr : Expr) : expr.chained < expr.height := by
  match expr with
  | .literal _ | .ident _ => exact Nat.one_pos
  | .array items | .call _ items =>
      have := chainedItems_le_heights items
      rw [chained, height]
      omega
  | .member target _ | .unary _ target =>
      have := chained_lt_height target
      rw [chained, height]
      omega
  | .index left right | .binary _ left right =>
      have := chained_lt_height left
      have := chained_lt_height right
      rw [chained, height]
      omega
  | .conditional condition yes no =>
      have := chained_lt_height condition
      have := chained_lt_height yes
      have := chained_lt_height no
      rw [chained, height]
      omega

theorem chainedItems_le_heights (exprs : List Expr) : chainedItems exprs ≤ heights exprs := by
  match exprs with
  | [] => exact Nat.le_refl _
  | expr :: rest =>
      have := chained_lt_height expr
      have := chainedItems_le_heights rest
      rw [chainedItems, heights]
      omega

end

-----------------------------------------------------------------------------------------
-- Limits of trees
-----------------------------------------------------------------------------------------

/-- The tree is lower than the bound, and besides what is chained in it no more than the given
number of its parts stand one above the other.
-/
structure IsWithin (bound depth : Nat) (tree : Expr) : Prop where
  low : tree.height < bound
  nested : tree.height ≤ depth + tree.chained

namespace IsWithin

variable {bound depth : Nat} {tree : Expr}

theorem mono (h : tree.IsWithin bound depth) {more deeper : Nat} (le : bound ≤ more)
    (le' : depth ≤ deeper)
    : tree.IsWithin more deeper := by
  obtain ⟨low, nested⟩ := h
  constructor <;> omega

theorem widen (h : tree.IsWithin bound depth) {more : Nat} (le : bound ≤ more)
    : tree.IsWithin more depth :=
  h.mono le (Nat.le_refl _)

theorem leaf (one : tree.height = 1) (pos : 0 < bound) : tree.IsWithin (bound + 1) (depth + 1) := by
  constructor <;> omega

theorem list {trees : List Expr} (pos : 0 < bound) (h : ∀ tree ∈ trees, tree.IsWithin bound depth)
    : heights trees < bound ∧ heights trees ≤ depth + chainedItems trees := by
  induction trees with
  | nil => exact ⟨pos, Nat.zero_le _⟩
  | cons tree rest ih =>
      rw [List.forall_mem_cons] at h
      obtain ⟨low, nested⟩ := h.1
      obtain ⟨restLow, restNested⟩ := ih h.2
      rw [heights, chainedItems]
      omega

/-- A tree that opens a level of nesting above its parts. -/
theorem opening {height chained : Nat} (low : height < bound) (nested : height ≤ depth + chained)
    (isHeight : tree.height = height + 1) (isChained : tree.chained = chained)
    : tree.IsWithin (bound + 1) (depth + 1) := by
  constructor <;> omega

/-- A tree that is chained to its parts. -/
theorem chaining {height chained : Nat} (low : height < bound) (nested : height ≤ depth + chained)
    (isHeight : tree.height = height + 1) (isChained : tree.chained = chained + 1)
    : tree.IsWithin (bound + 1) depth := by
  constructor <;> omega

theorem array {trees : List Expr} (pos : 0 < bound)
    (h : ∀ tree ∈ trees, tree.IsWithin bound depth)
    : (Expr.array trees).IsWithin (bound + 1) (depth + 1) :=
  opening (list pos h).1 (list pos h).2 rfl rfl

theorem call {trees : List Expr} (pos : 0 < bound) (h : ∀ tree ∈ trees, tree.IsWithin bound depth)
    (name : String)
    : (Expr.call name trees).IsWithin (bound + 1) (depth + 1) :=
  opening (list pos h).1 (list pos h).2 rfl rfl

theorem unary (h : tree.IsWithin bound depth) (op : UnaryOp)
    : (Expr.unary op tree).IsWithin (bound + 1) (depth + 1) :=
  opening h.low h.nested rfl rfl

theorem member (h : tree.IsWithin bound depth) (name : String)
    : (Expr.member tree name).IsWithin (bound + 1) depth :=
  chaining h.low h.nested rfl rfl

/-- Of two trees side by side the higher one counts. -/
theorem pair (h : tree.IsWithin bound depth) {other : Expr} (h' : other.IsWithin bound depth)
    : max tree.height other.height < bound
      ∧ max tree.height other.height ≤ depth + max tree.chained other.chained := by
  obtain ⟨low, nested⟩ := h
  obtain ⟨low', nested'⟩ := h'
  omega

theorem index (h : tree.IsWithin bound depth) {position : Expr}
    (h' : position.IsWithin bound depth)
    : (Expr.index tree position).IsWithin (bound + 1) depth :=
  chaining (h.pair h').1 (h.pair h').2 rfl rfl

theorem binary (h : tree.IsWithin bound depth) {right : Expr} (h' : right.IsWithin bound depth)
    (op : BinaryOp)
    : (Expr.binary op tree right).IsWithin (bound + 1) depth :=
  chaining (h.pair h').1 (h.pair h').2 rfl rfl

theorem conditional (h : tree.IsWithin bound (depth + 1)) {yes no : Expr}
    (ofYes : yes.IsWithin bound depth) (ofNo : no.IsWithin bound depth)
    : (Expr.conditional tree yes no).IsWithin (bound + 1) (depth + 1) := by
  obtain ⟨low, nested⟩ := h
  obtain ⟨lowYes, nestedYes⟩ := ofYes
  obtain ⟨lowNo, nestedNo⟩ := ofNo
  constructor <;> rw [height]
  · omega
  · rw [chained]
    omega

end IsWithin

theorem height_ofName (name : String) : (ofName name).height = 1 := by
  unfold ofName
  split <;> rfl

-----------------------------------------------------------------------------------------
-- Parsers of trees within limits
-----------------------------------------------------------------------------------------

/-- A parser accepts only trees within the limits. -/
def StaysWithin (bound depth : Nat) (parse : Parse Expr) : Prop :=
  ∀ ⦃tokens : List Lexed⦄ ⦃tree : Expr⦄ ⦃rest : List Lexed⦄,
    parse tokens = .ok (tree, rest) → tree.IsWithin bound depth

theorem StaysWithin.mono {bound depth more deeper : Nat} {parse : Parse Expr}
    (h : StaysWithin bound depth parse) (le : bound ≤ more) (le' : depth ≤ deeper)
    : StaysWithin more deeper parse :=
  fun _ _ _ accepted => (h accepted).mono le le'

theorem StaysWithin.widen {bound depth more : Nat} {parse : Parse Expr}
    (h : StaysWithin bound depth parse) (le : bound ≤ more)
    : StaysWithin more depth parse :=
  h.mono le (Nat.le_refl _)

theorem staysWithin_tooDeep (bound depth links : Nat) : StaysWithin bound depth (tooDeep links) :=
  fun _ _ _ accepted => nomatch accepted

/-- The items of a list are accepted one by one, by induction on the count of items that may still
come.
-/
theorem StaysWithin.items {close : Symbol} {bound depth : Nat} {item : Parse Expr}
    (h : StaysWithin bound depth item) {count : Nat} {tokens rest : List Lexed} {trees : List Expr}
    (accepted : Expr.items close item count tokens = .ok (trees, rest))
    : ∀ tree ∈ trees, tree.IsWithin bound depth := by
  induction count generalizing tokens trees with
  | zero => cases accepted
  | succ count ih =>
      rw [Expr.items, bind_ok_iff] at accepted
      obtain ⟨⟨first, behind⟩, head, accepted⟩ := accepted
      dsimp only at accepted
      split at accepted
      · cases accepted
        exact List.forall_mem_singleton.mpr (h head)
      · rw [bind_ok_iff] at accepted
        obtain ⟨behind', -, accepted⟩ := accepted
        rw [bind_ok_iff] at accepted
        obtain ⟨⟨others, final⟩, tail, accepted⟩ := accepted
        cases accepted
        exact List.forall_mem_cons.mpr ⟨h head, ih tail⟩

theorem StaysWithin.list {close : Symbol} {bound depth : Nat} {item : Parse Expr}
    (h : StaysWithin bound depth item) {tokens rest : List Lexed} {trees : List Expr}
    (accepted : Expr.list close item tokens = .ok (trees, rest))
    : ∀ tree ∈ trees, tree.IsWithin bound depth := by
  unfold Expr.list at accepted
  split at accepted
  · cases accepted
    exact List.forall_mem_nil _
  · exact h.items accepted

/-- An array opens a level of nesting, and so may a leaf. -/
theorem StaysWithin.primary {bound depth : Nat} {inner : Parse Expr}
    (h : StaysWithin bound depth inner) (pos : 0 < bound)
    : StaysWithin (bound + 1) (depth + 1) (Expr.primary inner) := by
  intro tokens tree rest accepted
  cases tokens with
  | nil => cases accepted
  | cons lexed behind =>
      rw [Expr.primary] at accepted
      split at accepted
      · split at accepted
        · cases accepted
          exact .leaf (by simp only [height]) pos
        · cases accepted
      · cases accepted
        exact .leaf (by simp only [height]) pos
      · cases accepted
        exact .leaf (height_ofName _) pos
      · rw [bind_ok_iff] at accepted
        obtain ⟨⟨tree', behind'⟩, inside, accepted⟩ := accepted
        rw [bind_ok_iff] at accepted
        obtain ⟨behind'', -, accepted⟩ := accepted
        cases accepted
        exact (h inside).mono (Nat.le_succ _) (Nat.le_succ _)
      · rw [bind_ok_iff] at accepted
        obtain ⟨⟨trees, behind'⟩, inside, accepted⟩ := accepted
        cases accepted
        exact .array pos (h.list inside)
      · cases accepted

/-- Every member and every index is one higher than what it is of. Witness: functional induction on
the loop; what a link adds to the height it takes from the links that are left.
-/
theorem isWithin_of_accesses {inner : ParseWithin Expr} {bound depth links : Nat} {target : Expr}
    {tokens : List Lexed} {tree : Expr} {rest : List Lexed}
    (h : ∀ fewer ≤ links, StaysWithin bound depth (inner fewer))
    (accepted : accesses inner links target tokens = .ok (tree, rest))
    (start : target.IsWithin bound depth)
    : tree.IsWithin (bound + links) depth := by
  fun_induction accesses inner links target tokens generalizing bound with
  | case1 | case2 | case4 | case6 => cases accepted
  | case3 target tokens links point name named ih =>
      have wider : ∀ fewer ≤ links, StaysWithin (bound + 1) depth (inner fewer) :=
        fun fewer le => (h fewer (Nat.le_succ_of_le le)).widen (Nat.le_succ _)
      exact (ih wider accepted (start.member name)).widen (by omega)
  | case5 target tokens links opens ih =>
      have wider : ∀ fewer ≤ links, StaysWithin (bound + 1) depth (inner fewer) :=
        fun fewer le => (h fewer (Nat.le_succ_of_le le)).widen (Nat.le_succ _)
      rw [bind_ok_iff] at accepted
      obtain ⟨⟨position, behind⟩, inside, accepted⟩ := accepted
      dsimp only at accepted
      rw [bind_ok_iff] at accepted
      obtain ⟨behind', -, accepted⟩ := accepted
      have between := h links (Nat.le_succ _) inside
      exact (ih position behind' wider accepted (start.index between)).widen (by omega)
  | case7 =>
      cases accepted
      exact start.widen (Nat.le_add_right ..)

/-- A call opens a level of nesting, and the members and indexes behind it add all their links. -/
theorem StaysWithin.postfixed {inner : ParseWithin Expr} {bound depth links : Nat} (pos : 0 < bound)
    (h : ∀ fewer ≤ links, StaysWithin bound depth (inner fewer))
    : StaysWithin (bound + 1 + links) (depth + 1) (Expr.postfixed inner links) := by
  have wider : ∀ fewer ≤ links, StaysWithin (bound + 1) (depth + 1) (inner fewer) :=
    fun fewer le => (h fewer le).mono (Nat.le_succ _) (Nat.le_succ _)
  have here := h links (Nat.le_refl _)
  intro tokens tree rest accepted
  rw [Expr.postfixed, bind_ok_iff] at accepted
  obtain ⟨⟨first, behind⟩, head, accepted⟩ := accepted
  dsimp only at accepted
  split at accepted
  · rw [bind_ok_iff] at accepted
    obtain ⟨⟨args, behind'⟩, inside, accepted⟩ := accepted
    exact isWithin_of_accesses wider accepted (.call pos (here.list inside) _)
  · exact isWithin_of_accesses wider accepted (here.primary pos head)

/-- A sign opens a level of nesting for its operand. -/
theorem StaysWithin.signed {inner nested : ParseWithin Expr} {bound depth links : Nat}
    (unsigned : StaysWithin (bound + 1) (depth + 1) (Expr.postfixed inner links))
    (below : StaysWithin bound depth (nested links))
    : StaysWithin (bound + 1) (depth + 1) (Expr.signed inner nested links) := by
  intro tokens tree rest accepted
  unfold Expr.signed at accepted
  split at accepted
  · rw [bind_ok_iff] at accepted
    obtain ⟨⟨operand, behind⟩, tail, accepted⟩ := accepted
    cases accepted
    exact (below tail).unary _
  · exact unsigned accepted

/-- Every operator of a chain is one higher than its operands. Witness: functional induction on the
loop, as for members and indexes.
-/
theorem isWithin_of_chain {degree : Nat} {operand : ParseWithin Expr} {bound depth links : Nat}
    {left : Expr} {tokens : List Lexed} {tree : Expr} {rest : List Lexed}
    (h : ∀ fewer ≤ links, StaysWithin bound depth (operand fewer))
    (accepted : chain degree operand links left tokens = .ok (tree, rest))
    (start : left.IsWithin bound depth)
    : tree.IsWithin (bound + links) depth := by
  fun_induction chain degree operand links left tokens generalizing bound with
  | case1 =>
      cases accepted
      exact start.widen (Nat.le_add_right ..)
  | case2 => cases accepted
  | case3 left tokens op links between ih =>
      have wider : ∀ fewer ≤ links, StaysWithin (bound + 1) depth (operand fewer) :=
        fun fewer le => (h fewer (Nat.le_succ_of_le le)).widen (Nat.le_succ _)
      rw [bind_ok_iff] at accepted
      obtain ⟨⟨right, behind⟩, head, accepted⟩ := accepted
      have beside := h links (Nat.le_succ _) head
      exact (ih right behind wider accepted (start.binary beside op)).widen (by omega)

/-- The chains of all lower degrees may use up the links of a place, one after the other. -/
theorem StaysWithin.operation {operand : ParseWithin Expr} {bound depth links : Nat}
    (h : ∀ fewer ≤ links, StaysWithin bound depth (operand fewer)) (degree : Nat)
    : StaysWithin (bound + degree * links) depth (Expr.operation operand degree links) := by
  induction degree generalizing links with
  | zero => exact (h links (Nat.le_refl _)).widen (by omega)
  | succ degree ih =>
      have operands : ∀ fewer ≤ links,
          StaysWithin (bound + degree * links) depth (Expr.operation operand degree fewer) :=
        fun fewer le => (ih fun fewest less => h fewest (Nat.le_trans less le)).widen
          (Nat.add_le_add_left (Nat.mul_le_mul_left degree le) bound)
      intro tokens tree rest accepted
      rw [Expr.operation, bind_ok_iff] at accepted
      obtain ⟨⟨left, behind⟩, head, accepted⟩ := accepted
      have first := operands links (Nat.le_refl _) head
      refine (isWithin_of_chain operands accepted first).widen ?_
      rw [Nat.succ_mul]
      omega

/-- The branches of a condition open a level of nesting, but not what it tests. Where no branch can
be read there is no such condition.
-/
theorem StaysWithin.branching {operand inner : ParseWithin Expr} {bound depth least links : Nat}
    (h : ∀ fewer ≤ links, StaysWithin bound (depth + 1) (operand fewer))
    (below : StaysWithin least depth (inner links)) (le : least ≤ bound)
    : StaysWithin (bound + looseness * links + min least 1) (depth + 1)
        (Expr.branching operand inner links) := by
  intro tokens tree rest accepted
  rw [Expr.branching, bind_ok_iff] at accepted
  obtain ⟨⟨condition, behind⟩, head, accepted⟩ := accepted
  have test := StaysWithin.operation h looseness head
  dsimp only at accepted
  split at accepted
  · rw [bind_ok_iff] at accepted
    obtain ⟨⟨yes, behind⟩, first, accepted⟩ := accepted
    rw [bind_ok_iff] at accepted
    obtain ⟨behind, -, accepted⟩ := accepted
    rw [bind_ok_iff] at accepted
    obtain ⟨⟨no, behind⟩, second, accepted⟩ := accepted
    cases accepted
    have some : 0 < least := Nat.zero_lt_of_lt (below first).low
    have ofYes : yes.IsWithin (bound + looseness * links) depth := (below first).widen (by omega)
    have ofNo : no.IsWithin (bound + looseness * links) depth := (below second).widen (by omega)
    exact (test.conditional ofYes ofNo).widen (by omega)
  · cases accepted
    exact test.widen (Nat.le_add_right ..)

/-- What the trees of a number of levels of nesting stay below: every level adds the links of seven
chains, one for a call or an array, and one for a condition with branches.
-/
def heightBound (depth links : Nat) : Nat :=
  depth * (7 * links + 2)

theorem heightBound_mono (depth : Nat) {fewer links : Nat} (le : fewer ≤ links)
    : heightBound depth fewer ≤ heightBound depth links :=
  Nat.mul_le_mul_left depth (by omega)

theorem heightBound_succ (depth links : Nat)
    : heightBound (depth + 1) links = heightBound depth links + 7 * links + 2 := by
  rw [heightBound, Nat.succ_mul]
  rfl

/-- The parsers of every level stay within its limits, by induction on the levels that are left. The
chain behind an operand adds the links of its own to what stands in it, and a name needs no level.
-/
theorem staysWithin_level (depth links : Nat)
    : StaysWithin (heightBound depth links) depth ((level depth).whole links)
      ∧ StaysWithin (max (heightBound depth links) 1 + links + 1) (depth + 1)
          ((level depth).operand links) := by
  induction depth generalizing links with
  | zero =>
      have unsigned : StaysWithin (1 + 1 + links) (0 + 1) (postfixed tooDeep links) :=
        .postfixed Nat.one_pos fun fewer _ => staysWithin_tooDeep 1 0 fewer
      rw [heightBound, Nat.zero_mul]
      exact ⟨staysWithin_tooDeep 0 0 links,
        .signed (unsigned.widen (by omega)) (staysWithin_tooDeep _ 0 links)⟩
  | succ depth ih =>
      have whole (fewer : Nat) (le : fewer ≤ links)
          : StaysWithin (heightBound (depth + 1) links) (depth + 1)
              ((level (depth + 1)).whole fewer) := by
        have operands : ∀ fewest ≤ fewer,
            StaysWithin (max (heightBound depth fewer) 1 + fewer + 1) (depth + 1)
              ((level depth).operand fewest) :=
          fun fewest less => (ih fewest).2.widen (by have := heightBound_mono depth less; omega)
        refine (StaysWithin.branching operands (ih fewer).1 (by omega)).widen ?_
        refine Nat.le_trans ?_ (heightBound_mono (depth + 1) le)
        rw [heightBound_succ, looseness]
        omega
      have wider (fewer : Nat) (le : fewer ≤ links)
          : StaysWithin (max (heightBound (depth + 1) links) 1) (depth + 1)
              ((level (depth + 1)).whole fewer) :=
        (whole fewer le).widen (Nat.le_max_left ..)
      have unsigned := StaysWithin.postfixed (by omega) wider
      have behindSign := (ih links).2
      refine ⟨whole links (Nat.le_refl _), .signed (unsigned.widen (by omega))
        (behindSign.widen ?_)⟩
      rw [heightBound_succ]
      omega

/-- The trees of accepted sources stay within the limits of all levels and links. -/
theorem isWithin_of_parse {source : String} {expr : Expr} (h : parse source = .ok expr)
    : expr.IsWithin (heightBound maxDepth maxLinks) maxDepth := by
  rw [parse, bind_ok_iff] at h
  obtain ⟨tokens, -, h⟩ := h
  cases found : ofTokens tokens with
  | error stuck =>
      rw [found] at h
      cases h
  | ok tree =>
      rw [found] at h
      cases h
      rw [ofTokens, bind_ok_iff] at found
      obtain ⟨⟨whole, rest⟩, accepted, found⟩ := found
      dsimp only at found
      split at found
      · cases found
        exact (staysWithin_level maxDepth maxLinks).1 accepted
      · cases found

end FormWizard.Expr
