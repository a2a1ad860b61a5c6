import FormWizard.Expr.Parser
import FormWizard.Proofs.Expr.Grammar

/-! Whatever the parser accepts is an expression of the grammar: the tokens that a parser of phrases
takes off the front are a phrase of that kind, and it has the tree that is returned.
-/

namespace FormWizard.Expr

/-- The kinds of the tokens, without the places where they stand. -/
abbrev bare (tokens : List Lexed) : List Token :=
  tokens.map Lexed.token

/-- A step that follows another succeeds if both do. -/
theorem bind_ok_iff {ε α β : Type} {first : Except ε α} {next : α → Except ε β} {result : β}
    : first >>= next = .ok result ↔ ∃ value, first = .ok value ∧ next value = .ok result := by
  cases first <;> simp [bind, Except.bind]

/-- A token that comes next, other than the end, is the front of the tokens. -/
theorem eq_cons_of_peek {tokens : List Lexed} {token : Token} (h : peek tokens = token)
    (real : token ≠ .finish)
    : ∃ lexed, tokens = lexed :: tokens.tail ∧ lexed.token = token := by
  cases tokens with
  | nil => exact (real h.symm).elim
  | cons lexed rest => exact ⟨lexed, rfl, h⟩

theorem expect_ok_iff {sign : Symbol} {tokens rest : List Lexed}
    : expect sign tokens = .ok rest
      ↔ ∃ lexed, tokens = lexed :: rest ∧ lexed.token = .symbol sign := by
  unfold expect
  constructor
  · intro h
    split at h
    · rename_i next
      obtain ⟨lexed, split, token⟩ := eq_cons_of_peek next (by simp)
      cases h
      exact ⟨lexed, split, token⟩
    · cases h
  · rintro ⟨lexed, rfl, token⟩
    exact if_pos token

/-- What the parser takes off the front of the tokens is a phrase of the given kind. -/
def IsSound (phrase : Phrase) (parse : Parse Expr) : Prop :=
  ∀ {tokens : List Lexed} {tree : Expr} {rest : List Lexed}, parse tokens = .ok (tree, rest) →
    ∃ read, tokens = read ++ rest ∧ Derives phrase (bare read) tree

/-- The tokens in front of the rest are conditions between commas, and a closing sign. -/
def ReadsList (close : Symbol) (tokens : List Lexed) (trees : List Expr) (rest : List Lexed)
    : Prop :=
  ∃ (read : List Lexed) (parts : List (List Token × Expr)), tokens = read ++ rest
    ∧ bare read = commaSeparated (parts.map Prod.fst) ++ [.symbol close]
    ∧ parts.map Prod.snd = trees
    ∧ ∀ part ∈ parts, Derives .condition part.1 part.2

-----------------------------------------------------------------------------------------
-- Atoms and what stands behind them
-----------------------------------------------------------------------------------------

/-- The items of a list are conditions between commas, by induction on the count of items that may
still come.
-/
theorem readsList_of_items {close : Symbol} {item : Parse Expr} (sound : IsSound .condition item)
    {count : Nat} {tokens rest : List Lexed} {trees : List Expr}
    (h : items close item count tokens = .ok (trees, rest))
    : ReadsList close tokens trees rest ∧ trees ≠ [] := by
  induction count generalizing tokens trees with
  | zero => cases h
  | succ count ih =>
      rw [items, bind_ok_iff] at h
      obtain ⟨⟨first, behind⟩, head, h⟩ := h
      obtain ⟨read, rfl, derived⟩ := sound head
      dsimp only at h
      split at h
      · rename_i closes
        obtain ⟨lexed, split, token⟩ := eq_cons_of_peek closes (by simp)
        cases h
        refine ⟨⟨read ++ [lexed], [(bare read, first)], ?_, ?_, rfl, ?_⟩, by simp⟩
        · rw [List.append_assoc, List.singleton_append, ← split]
        · simp [commaSeparated, token]
        · simpa using derived
      · rw [bind_ok_iff] at h
        obtain ⟨behind', comma, h⟩ := h
        obtain ⟨lexed, rfl, token⟩ := expect_ok_iff.mp comma
        rw [bind_ok_iff] at h
        obtain ⟨⟨others, final⟩, tail, h⟩ := h
        cases h
        obtain ⟨⟨more, parts, rfl, spelled, named, each⟩, some⟩ := ih tail
        refine ⟨⟨read ++ lexed :: more, (bare read, first) :: parts, by simp, ?_, ?_, ?_⟩,
          by simp⟩
        · cases parts with
          | nil => exact absurd named.symm some
          | cons part parts => simp [commaSeparated, token, spelled]
        · simp [named]
        · exact List.forall_mem_cons.mpr ⟨derived, each⟩

theorem readsList_of_list {close : Symbol} {item : Parse Expr} (sound : IsSound .condition item)
    {tokens rest : List Lexed} {trees : List Expr}
    (h : list close item tokens = .ok (trees, rest))
    : ReadsList close tokens trees rest := by
  unfold list at h
  split at h
  · rename_i closes
    obtain ⟨lexed, split, token⟩ := eq_cons_of_peek closes (by simp)
    cases h
    exact ⟨[lexed], [], split, by simp [commaSeparated, token], rfl, by simp⟩
  · exact (readsList_of_items sound h).1

/-- A name is a constant or stands for itself. -/
theorem derives_ofName (name : String) : Derives .atom [.ident name] (ofName name) := by
  unfold ofName
  split
  · exact .constant (by simp [constants])
  · exact .constant (by simp [constants])
  · exact .constant (by simp [constants])
  · exact .constant (by simp [constants])
  · exact .name (by simp_all [constants])

theorem isFinite_of_ofDouble? {value : Float} {number : Json.Number}
    (h : Json.Number.ofDouble? value = some number)
    : Binary64.isFinite value = true := by
  unfold Json.Number.ofDouble? at h
  split at h
  · assumption
  · cases h

theorem isSound_primary {inner : Parse Expr} (sound : IsSound .condition inner)
    : IsSound .atom (primary inner) := by
  intro tokens tree rest h
  cases tokens with
  | nil => cases h
  | cons lexed behind =>
      rw [primary] at h
      split at h
      · rename_i value token
        split at h
        · rename_i number same
          cases h
          refine ⟨[lexed], rfl, ?_⟩
          simpa [token] using Derives.number (isFinite_of_ofDouble? same) same
        · cases h
      · rename_i value token
        cases h
        exact ⟨[lexed], rfl, by simpa [token] using Derives.text value⟩
      · rename_i name token
        cases h
        exact ⟨[lexed], rfl, by simpa [token] using derives_ofName name⟩
      · rename_i token
        rw [bind_ok_iff] at h
        obtain ⟨⟨tree', behind'⟩, inside, h⟩ := h
        rw [bind_ok_iff] at h
        obtain ⟨behind'', closed, h⟩ := h
        cases h
        obtain ⟨read, rfl, derived⟩ := sound inside
        obtain ⟨last, rfl, close⟩ := expect_ok_iff.mp closed
        exact ⟨lexed :: read ++ [last], by simp, by simpa [token, close] using derived.group⟩
      · rename_i token
        rw [bind_ok_iff] at h
        obtain ⟨⟨trees, behind'⟩, inside, h⟩ := h
        cases h
        obtain ⟨read, parts, rfl, spelled, rfl, each⟩ := readsList_of_list sound inside
        exact ⟨lexed :: read, rfl, by simpa [token, spelled] using Derives.array parts each⟩
      · cases h

/-- Members and indexes go on with the phrase in front of them. Witness: functional induction on the
loop, which carries that phrase along.
-/
theorem derives_of_accesses {inner : ParseWithin Expr}
    (sound : ∀ links, IsSound .condition (inner links)) {links : Nat} {target : Expr}
    {tokens : List Lexed} {tree : Expr} {rest : List Lexed}
    (h : accesses inner links target tokens = .ok (tree, rest)) {front : List Token}
    (start : Derives .access front target)
    : ∃ read, tokens = read ++ rest ∧ Derives .access (front ++ bare read) tree := by
  fun_induction accesses inner links target tokens generalizing front with
  | case1 | case2 | case4 | case6 => cases h
  | case3 target tokens links point name named ih =>
      obtain ⟨dot, split, isDot⟩ := eq_cons_of_peek point (by simp)
      obtain ⟨lexed, split', isName⟩ := eq_cons_of_peek named (by simp)
      obtain ⟨read, further, derived⟩ := ih h (start.member name)
      refine ⟨dot :: lexed :: read, ?_, ?_⟩
      · rw [split, split', further]
        rfl
      · simpa [isDot, isName] using derived
  | case5 target tokens links opens ih =>
      obtain ⟨bracket, split, isBracket⟩ := eq_cons_of_peek opens (by simp)
      rw [bind_ok_iff] at h
      obtain ⟨⟨position, behind⟩, inside, h⟩ := h
      dsimp only at h
      rw [bind_ok_iff] at h
      obtain ⟨behind', closed, h⟩ := h
      obtain ⟨read, taken, derived⟩ := sound links inside
      obtain ⟨last, rfl, close⟩ := expect_ok_iff.mp closed
      obtain ⟨more, rfl, final⟩ := ih position behind' h (start.index derived)
      refine ⟨bracket :: (read ++ last :: more), ?_, ?_⟩
      · rw [split, taken]
        simp
      · simpa [isBracket, close] using final
  | case7 =>
      cases h
      exact ⟨[], rfl, by simpa using start⟩

theorem isSound_postfixed {inner : ParseWithin Expr}
    (sound : ∀ links, IsSound .condition (inner links)) (links : Nat)
    : IsSound .access (postfixed inner links) := by
  intro tokens tree rest h
  rw [postfixed, bind_ok_iff] at h
  obtain ⟨⟨first, behind⟩, head, h⟩ := h
  obtain ⟨read, rfl, derived⟩ := isSound_primary (sound links) head
  dsimp only at h
  split at h
  · rename_i name opens
    obtain ⟨paren, split, isParen⟩ := eq_cons_of_peek opens (by simp)
    rw [bind_ok_iff] at h
    obtain ⟨⟨args, behind'⟩, inside, h⟩ := h
    obtain ⟨listed, parts, taken, spelled, rfl, each⟩ :=
      readsList_of_list (sound links) inside
    obtain ⟨more, rfl, final⟩ := derives_of_accesses sound h (derived.alone.call parts each)
    refine ⟨read ++ paren :: (listed ++ more), ?_, ?_⟩
    · rw [split, taken]
      simp
    · simpa [isParen, spelled] using final
  · obtain ⟨more, rfl, final⟩ := derives_of_accesses sound h derived.alone
    exact ⟨read ++ more, by simp, by simpa using final⟩

-----------------------------------------------------------------------------------------
-- Operations and conditions
-----------------------------------------------------------------------------------------

/-- The operator of a sign in front of an operand is the one that the grammar gives it. -/
theorem unaryOp?_eq_some_iff {token : Token} {op : UnaryOp}
    : unaryOp? token = some op ↔ ∃ sign, token = .symbol sign ∧ (sign, op) ∈ signsBefore := by
  cases token with
  | symbol sign =>
      cases sign <;> simp [unaryOp?, Symbol.unary?, signsBefore, eq_comm]
  | _ => simp [unaryOp?]

/-- The operator of a sign between operands is the one that the grammar gives it at its degree. -/
theorem binaryOp?_eq_some_iff {degree : Nat} {token : Token} {op : BinaryOp}
    : binaryOp? degree token = some op
      ↔ ∃ sign, token = .symbol sign ∧ (sign, op) ∈ signsBetween degree := by
  cases token with
  | symbol sign =>
      match degree with
      | 0 | 1 | 2 | 3 | 4 | 5 =>
          cases sign <;> simp [binaryOp?, Symbol.binary?, signsBetween, eq_comm]
      | degree + 6 =>
          cases sign <;> simp [binaryOp?, Symbol.binary?, signsBetween]
  | _ => simp [binaryOp?]

theorem isSound_signed {inner nested : ParseWithin Expr}
    (sound : ∀ links, IsSound .condition (inner links))
    (below : ∀ links, IsSound .operand (nested links)) (links : Nat)
    : IsSound .operand (signed inner nested links) := by
  intro tokens tree rest h
  unfold signed at h
  split at h
  · rename_i op before
    obtain ⟨sign, next, listed⟩ := unaryOp?_eq_some_iff.mp before
    obtain ⟨lexed, split, isSign⟩ := eq_cons_of_peek next (by simp)
    rw [bind_ok_iff] at h
    obtain ⟨⟨operand, behind⟩, tail, h⟩ := h
    cases h
    obtain ⟨read, taken, derived⟩ := below links tail
    refine ⟨lexed :: read, ?_, ?_⟩
    · rw [split, taken]
      rfl
    · simpa [isSign] using Derives.unary listed derived
  · obtain ⟨read, taken, derived⟩ := isSound_postfixed sound links h
    exact ⟨read, taken, derived.unsigned⟩

/-- Signs of one degree go on with the operation in front of them, by functional induction on the
loop, which carries that operation along.
-/
theorem derives_of_chain {degree : Nat} {operand : ParseWithin Expr}
    (sound : ∀ links, IsSound (.operation degree) (operand links)) {links : Nat} {left : Expr}
    {tokens : List Lexed} {tree : Expr} {rest : List Lexed}
    (h : chain degree operand links left tokens = .ok (tree, rest)) {front : List Token}
    (start : Derives (.operation (degree + 1)) front left)
    : ∃ read, tokens = read ++ rest
      ∧ Derives (.operation (degree + 1)) (front ++ bare read) tree := by
  fun_induction chain degree operand links left tokens generalizing front with
  | case1 =>
      cases h
      exact ⟨[], rfl, by simpa using start⟩
  | case2 => cases h
  | case3 left tokens op links between ih =>
      obtain ⟨sign, next, listed⟩ := binaryOp?_eq_some_iff.mp between
      obtain ⟨lexed, split, isSign⟩ := eq_cons_of_peek next (by simp)
      rw [bind_ok_iff] at h
      obtain ⟨⟨right, behind⟩, head, h⟩ := h
      obtain ⟨read, taken, derived⟩ := sound links head
      obtain ⟨more, rfl, final⟩ := ih right behind h (start.binary listed derived)
      refine ⟨lexed :: (read ++ more), ?_, ?_⟩
      · rw [split, taken]
        simp
      · simpa [isSign] using final

theorem isSound_operation {operand : ParseWithin Expr}
    (sound : ∀ links, IsSound .operand (operand links)) (degree links : Nat)
    : IsSound (.operation degree) (operation operand degree links) := by
  induction degree generalizing links with
  | zero =>
      intro tokens tree rest h
      obtain ⟨read, taken, derived⟩ := sound links h
      exact ⟨read, taken, derived.single⟩
  | succ degree ih =>
      intro tokens tree rest h
      rw [operation, bind_ok_iff] at h
      obtain ⟨⟨left, behind⟩, head, h⟩ := h
      obtain ⟨read, rfl, derived⟩ := ih links head
      obtain ⟨more, rfl, final⟩ := derives_of_chain ih h derived.tighter
      exact ⟨read ++ more, by simp, by simpa using final⟩

theorem isSound_branching {operand inner : ParseWithin Expr}
    (sound : ∀ links, IsSound .operand (operand links))
    (below : ∀ links, IsSound .condition (inner links)) (links : Nat)
    : IsSound .condition (branching operand inner links) := by
  intro tokens tree rest h
  rw [branching, bind_ok_iff] at h
  obtain ⟨⟨condition, behind⟩, head, h⟩ := h
  obtain ⟨asked, rfl, test⟩ := isSound_operation sound looseness links head
  dsimp only at h
  split at h
  · rename_i question
    obtain ⟨lexed, split, isQuestion⟩ := eq_cons_of_peek question (by simp)
    rw [bind_ok_iff] at h
    obtain ⟨⟨whenTrue, behind⟩, first, h⟩ := h
    obtain ⟨yes, taken, derived⟩ := below links first
    rw [bind_ok_iff] at h
    obtain ⟨behind, colon, h⟩ := h
    obtain ⟨middle, rfl, isColon⟩ := expect_ok_iff.mp colon
    rw [bind_ok_iff] at h
    obtain ⟨⟨whenFalse, behind⟩, second, h⟩ := h
    cases h
    obtain ⟨no, rfl, derived'⟩ := below links second
    refine ⟨asked ++ lexed :: (yes ++ middle :: no), ?_, ?_⟩
    · rw [split, taken]
      simp
    · simpa [isQuestion, isColon] using Derives.conditional test derived derived'
  · cases h
    exact ⟨asked, rfl, test.plain⟩

/-- The parsers of every level of nesting are sound, by induction on the levels that are left. -/
theorem isSound_level (depth : Nat)
    : (∀ links, IsSound .condition ((level depth).whole links))
      ∧ ∀ links, IsSound .operand ((level depth).operand links) := by
  have refused (phrase : Phrase) (links : Nat) : IsSound phrase (tooDeep links) := by
    intro tokens tree rest h
    cases h
  induction depth with
  | zero => exact ⟨refused _, isSound_signed (refused _) (refused _)⟩
  | succ depth ih =>
      have whole := isSound_branching ih.2 ih.1
      exact ⟨whole, isSound_signed whole ih.2⟩

/-- The tokens that are parsed to a tree derive it. -/
theorem derives_of_ofTokens {tokens : List Lexed} {tree : Expr} (h : ofTokens tokens = .ok tree)
    : Derives .condition (bare tokens) tree := by
  rw [ofTokens, bind_ok_iff] at h
  obtain ⟨⟨whole, rest⟩, parsed, h⟩ := h
  obtain ⟨read, rfl, derived⟩ := (isSound_level maxDepth).1 maxLinks parsed
  dsimp only at h
  split at h
  · rename_i ended
    cases h
    obtain rfl := List.isEmpty_iff.mp ended
    simpa using derived
  · cases h

end FormWizard.Expr
