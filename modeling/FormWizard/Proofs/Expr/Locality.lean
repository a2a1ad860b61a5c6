import FormWizard.Proofs.Expr.Completeness

/-! What the parser reads, it reads in the same way wherever it stands: the tree that is made of
some tokens depends only on these tokens and on the one behind them, and of that one only on whether
it ends the condition.
-/

namespace FormWizard.Expr

-----------------------------------------------------------------------------------------
-- Reading again
-----------------------------------------------------------------------------------------

/-- Tokens that end a condition are alike to the parsers of what is in front of them. -/
def Token.Alike (left right : Token) : Prop :=
  left = right ∨ left.IsClosing ∧ right.IsClosing

theorem Token.Alike.refl (token : Token) : token.Alike token :=
  .inl rfl

/-- The token behind tokens is the first of what follows, if there are no tokens in front of it. -/
theorem peek_append_related {R : Token → Token → Prop} (refl : ∀ token, R token token)
    {read read' rest rest' : List Lexed} (same : bare read' = bare read)
    (next : R (peek rest) (peek rest'))
    : R (peek (read ++ rest)) (peek (read' ++ rest')) := by
  cases read with
  | nil =>
      obtain rfl := List.map_eq_nil_iff.mp same
      exact next
  | cons lexed read =>
      obtain ⟨lexed', read', rfl, token, -⟩ := List.map_eq_cons_iff.mp same
      rw [List.cons_append, List.cons_append, peek, peek, token]
      exact refl lexed.token

theorem alike_peek_append {read read' rest rest' : List Lexed} (same : bare read' = bare read)
    (alike : (peek rest).Alike (peek rest'))
    : (peek (read ++ rest)).Alike (peek (read' ++ rest')) :=
  peek_append_related Token.Alike.refl same alike

section

variable {α β : Type}

/-- The tokens are read as a value wherever they stand, with such a token behind them. -/
def Rereads (parse : Parse α) (read : List Lexed) (value : α) (next : Token) : Prop :=
  ∀ {read' : List Lexed} (rest' : List Lexed), bare read' = bare read → next.Alike (peek rest') →
    parse (read' ++ rest') = .ok (value, rest')

/-- Whatever is read is read again elsewhere. -/
structure IsLocal (parse : Parse α) : Prop where
  rereads
    : ∀ {tokens : List Lexed} {value : α} {rest : List Lexed}, parse tokens = .ok (value, rest) →
        ∃ read, tokens = read ++ rest ∧ Rereads parse read value (peek rest)

theorem isLocal_pure (value : α) : IsLocal fun tokens => .ok (value, tokens) := by
  constructor
  intro tokens value rest h
  cases h
  refine ⟨[], rfl, fun {read'} rest' same _ => ?_⟩
  obtain rfl := List.map_eq_nil_iff.mp same
  rfl

theorem isLocal_error (stuck : List Lexed → Stuck)
    : IsLocal fun tokens => (.error (stuck tokens) : Except Stuck (α × List Lexed)) := by
  constructor
  intro tokens value rest found
  cases found

theorem IsLocal.bind {first : Parse α} {next : α → Parse β} (h : IsLocal first)
    (h' : ∀ value, IsLocal (next value))
    : IsLocal fun tokens => first tokens >>= fun (value, tokens) => next value tokens := by
  constructor
  intro tokens value rest found
  obtain ⟨⟨middle, behind⟩, head, tail⟩ := bind_ok_iff.mp found
  obtain ⟨front, rfl, again⟩ := h.rereads head
  obtain ⟨back, rfl, again'⟩ := (h' middle).rereads tail
  refine ⟨front ++ back, by rw [List.append_assoc], fun {read'} rest' same alike => ?_⟩
  rw [bare, bare, List.map_append] at same
  obtain ⟨front', back', rfl, isFront, isBack⟩ := List.map_eq_append_iff.mp same
  rw [List.append_assoc]
  exact bind_ok_iff.mpr
    ⟨_, again _ isFront (alike_peek_append isBack alike), again' rest' isBack alike⟩

/-- A parser that takes the first token and goes on by it. -/
theorem IsLocal.ofFirst {parse : Parse α} {body : Token → Parse α}
    (each : ∀ token, IsLocal (body token)) (nil : ∀ result, parse [] ≠ .ok result)
    (cons : ∀ lexed rest, parse (lexed :: rest) = body lexed.token rest)
    : IsLocal parse := by
  constructor
  intro tokens value rest found
  cases tokens with
  | nil => exact (nil _ found).elim
  | cons lexed behind =>
      rw [cons] at found
      obtain ⟨read, rfl, again⟩ := (each lexed.token).rereads found
      refine ⟨lexed :: read, rfl, fun {read'} rest' same alike => ?_⟩
      obtain ⟨lexed', read', rfl, token, same⟩ := List.map_eq_cons_iff.mp same
      rw [List.cons_append, cons, token]
      exact again rest' same alike

/-- A parser that goes on by the next token, or leaves it to what is behind. -/
theorem IsLocal.ofPeek {parse : Parse α} (value : α) (choose : Token → Option (Parse α))
    (each : ∀ token next, choose token = some next → IsLocal next)
    (closing : ∀ token : Token, token.IsClosing → choose token = none)
    (leaves : ∀ tokens, choose (peek tokens) = none → parse tokens = .ok (value, tokens))
    (goes : ∀ lexed rest next, choose lexed.token = some next →
      ∀ result, parse (lexed :: rest) = .ok result ↔ next rest = .ok result)
    : IsLocal parse := by
  constructor
  intro tokens result rest found
  cases chosen : choose (peek tokens) with
  | none =>
      rw [leaves tokens chosen] at found
      cases found
      refine ⟨[], rfl, fun {read'} rest' same alike => ?_⟩
      obtain rfl := List.map_eq_nil_iff.mp same
      refine leaves rest' ?_
      rcases alike with same | ⟨-, isClosing⟩
      · exact same ▸ chosen
      · exact closing _ isClosing
  | some next =>
      cases tokens with
      | nil => cases chosen.symm.trans (closing _ (.inl rfl))
      | cons lexed behind =>
          have tail := (goes lexed behind next chosen _).mp found
          obtain ⟨read, rfl, again⟩ := (each lexed.token next chosen).rereads tail
          refine ⟨lexed :: read, rfl, fun {read'} rest' same alike => ?_⟩
          obtain ⟨lexed', read', rfl, token, same⟩ := List.map_eq_cons_iff.mp same
          exact (goes lexed' (read' ++ rest') next (token ▸ chosen) _).mpr (again rest' same alike)

theorem IsLocal.afterExpect {next : Parse α} (h : IsLocal next) (sign : Symbol)
    : IsLocal fun tokens => expect sign tokens >>= next := by
  constructor
  intro tokens value rest found
  obtain ⟨behind, first, tail⟩ := bind_ok_iff.mp found
  obtain ⟨lexed, rfl, isSign⟩ := expect_ok_iff.mp first
  obtain ⟨read, rfl, again⟩ := h.rereads tail
  refine ⟨lexed :: read, rfl, fun {read'} rest' same alike => ?_⟩
  obtain ⟨lexed', read', rfl, token, same⟩ := List.map_eq_cons_iff.mp same
  exact bind_ok_iff.mpr
    ⟨_, expect_ok_iff.mpr ⟨lexed', rfl, token.trans isSign⟩, again rest' same alike⟩

end

-----------------------------------------------------------------------------------------
-- Operations and conditions
-----------------------------------------------------------------------------------------

section

variable {inner nested operand : ParseWithin Expr}

theorem binaryOp?_of_isClosing {token : Token} (h : token.IsClosing) (degree : Nat)
    : binaryOp? degree token = none :=
  (h.stops (degree + 1)).noOperator degree (Nat.lt_succ_self degree)

/-- What follows a sign between operands. -/
def chainLink (degree : Nat) (operand : ParseWithin Expr) (left : Expr)
    : (links : Nat) → BinaryOp → Parse Expr
  | 0, _ => fun tokens => .error ⟨tokens, .chainTooLong⟩
  | links + 1, op => fun tokens => do
    let (right, tokens) ← operand links tokens
    chain degree operand links (.binary op left right) tokens

theorem chain_eq (degree : Nat) (operand : ParseWithin Expr) (links : Nat) (left : Expr)
    (tokens : List Lexed)
    : chain degree operand links left tokens
      = match binaryOp? degree (peek tokens) with
        | none => .ok (left, tokens)
        | some op => chainLink degree operand left links op tokens.tail := by
  rw [chain.eq_def]
  dsimp only
  cases binaryOp? degree (peek tokens) <;> cases links <;> rfl

theorem isLocal_chain {degree : Nat} (h : ∀ links, IsLocal (operand links)) (links : Nat)
    (left : Expr)
    : IsLocal (chain degree operand links left) := by
  have link (links : Nat) (left : Expr)
      (each : ∀ op, IsLocal (chainLink degree operand left links op))
      : IsLocal (chain degree operand links left) := by
    refine .ofPeek left
      (fun token => (binaryOp? degree token).map (chainLink degree operand left links)) ?_ ?_ ?_ ?_
    · intro token next chosen
      obtain ⟨op, -, rfl⟩ := Option.map_eq_some_iff.mp chosen
      exact each op
    · intro token closing
      rw [binaryOp?_of_isClosing closing]
      rfl
    · intro tokens chosen
      rw [chain_eq, Option.map_eq_none_iff.mp chosen]
    · intro lexed rest next chosen result
      obtain ⟨op, between, rfl⟩ := Option.map_eq_some_iff.mp chosen
      rw [chain_eq, peek, between, List.tail_cons]
  induction links generalizing left with
  | zero => exact link 0 left fun _ => isLocal_error _
  | succ links ih => exact link (links + 1) left fun op => (h links).bind fun right => ih _

theorem isLocal_operation (h : ∀ links, IsLocal (operand links)) (degree links : Nat)
    : IsLocal (operation operand degree links) := by
  induction degree generalizing links with
  | zero => exact h links
  | succ degree ih => exact (ih links).bind fun left => isLocal_chain ih links left

/-- The branches of a condition. -/
def branches (inner : ParseWithin Expr) (links : Nat) (condition : Expr) : Parse Expr :=
  fun tokens => do
    let (yes, tokens) ← inner links tokens
    let tokens ← expect .colon tokens
    let (no, tokens) ← inner links tokens
    return (.conditional condition yes no, tokens)

/-- What is left to do when the condition itself was read. -/
def resumeCondition (inner : ParseWithin Expr) (links : Nat) (condition : Expr) : Parse Expr :=
  fun tokens =>
    if peek tokens = .symbol .question then branches inner links condition tokens.tail
    else .ok (condition, tokens)

theorem branching_eq (operand inner : ParseWithin Expr) (links : Nat)
    : branching operand inner links
      = fun tokens => operation operand looseness links tokens >>= fun (condition, tokens) =>
          resumeCondition inner links condition tokens :=
  rfl

theorem isLocal_branching (h : ∀ links, IsLocal (operand links))
    (h' : ∀ links, IsLocal (inner links)) (links : Nat)
    : IsLocal (branching operand inner links) := by
  rw [branching_eq]
  refine (isLocal_operation h looseness links).bind fun condition => ?_
  have each : IsLocal (branches inner links condition) :=
    (h' links).bind fun yes => ((h' links).bind fun no => isLocal_pure _).afterExpect .colon
  refine .ofPeek condition
    (fun token => if token = .symbol .question then some (branches inner links condition) else none)
    ?_ ?_ ?_ ?_
  · intro token next chosen
    split at chosen <;> cases chosen
    exact each
  · intro token closing
    rcases closing with rfl | rfl | rfl | rfl | rfl <;> rfl
  · intro tokens chosen
    split at chosen
    · cases chosen
    · exact if_neg ‹_›
  · intro lexed rest next chosen result
    split at chosen <;> cases chosen
    rw [resumeCondition, if_pos ‹_›, List.tail_cons]

end

-----------------------------------------------------------------------------------------
-- Atoms and what stands behind them
-----------------------------------------------------------------------------------------

section

variable {item : Parse Expr} {inner nested : ParseWithin Expr}

/-- What is left to do when an item of a list was read. -/
def resumeItems (close : Symbol) (item : Parse Expr) (count : Nat) (first : Expr)
    : Parse (List Expr) := fun tokens =>
  if peek tokens = .symbol close then .ok ([first], tokens.tail)
  else (expect .comma tokens >>= items close item count)
    >>= fun (others, tokens) => .ok (first :: others, tokens)

theorem items_succ {close : Symbol} {count : Nat} {tokens behind : List Lexed} {first : Expr}
    (read : item tokens = .ok (first, behind))
    : items close item (count + 1) tokens = resumeItems close item count first behind := by
  simp only [items, read, resumeItems, bind_assoc]
  rfl

/-- The items of a list are read again up to the closing sign, whatever is behind it. The count does
not matter as long as it allows for all items. Witness: induction on the count.
-/
theorem rereads_items {close : Symbol} (h : IsLocal item) {count : Nat} {tokens rest : List Lexed}
    {trees : List Expr} (found : items close item count tokens = .ok (trees, rest))
    : ∃ read, tokens = read ++ rest ∧ read ≠ [] ∧ trees.length ≤ read.length
      ∧ ∀ {count' : Nat} {read' : List Lexed} (rest' : List Lexed), bare read' = bare read →
          trees.length ≤ count' →
          items close item count' (read' ++ rest') = .ok (trees, rest') := by
  induction count generalizing tokens trees with
  | zero => cases found
  | succ count ih =>
      rw [items, bind_ok_iff] at found
      obtain ⟨⟨first, behind⟩, head, tail⟩ := found
      obtain ⟨front, rfl, again⟩ := h.rereads head
      dsimp only at tail
      split at tail
      · rename_i closes
        obtain ⟨lexed, split, token⟩ := eq_cons_of_peek closes (by simp)
        cases tail
        rw [split] at again ⊢
        refine ⟨front ++ [lexed], by simp, by simp, by simp,
          fun {count' read'} rest' same enough => ?_⟩
        rw [bare, bare, List.map_append] at same
        obtain ⟨front', last, rfl, isFront, isLast⟩ := List.map_eq_append_iff.mp same
        obtain ⟨lexed', rfl, isClose⟩ := List.map_eq_singleton_iff.mp isLast
        obtain ⟨more, rfl⟩ : ∃ more, count' = more + 1 := ⟨count' - 1, by simp at enough; omega⟩
        have reread := again (lexed' :: rest') isFront (.inl isClose.symm)
        rw [List.append_assoc, List.singleton_append, items_succ reread]
        exact if_pos (isClose.trans token)
      · rename_i further
        obtain ⟨behind', comma, others⟩ := bind_ok_iff.mp tail
        obtain ⟨lexed, rfl, isComma⟩ := expect_ok_iff.mp comma
        obtain ⟨⟨more, final⟩, later, whole⟩ := bind_ok_iff.mp others
        cases whole
        obtain ⟨back, rfl, -, fewer, again'⟩ := ih later
        refine ⟨front ++ lexed :: back, by simp, by simp, by simp; omega,
          fun {count' read'} rest' same enough => ?_⟩
        rw [bare, bare, List.map_append] at same
        obtain ⟨front', last, rfl, isFront, isLast⟩ := List.map_eq_append_iff.mp same
        obtain ⟨lexed', back', rfl, isComma', isBack⟩ := List.map_eq_cons_iff.mp isLast
        obtain ⟨more, rfl⟩ : ∃ more, count' = more + 1 := ⟨count' - 1, by simp at enough; omega⟩
        have reread := again (lexed' :: (back' ++ rest')) isFront (.inl isComma'.symm)
        have further' : peek (lexed' :: (back' ++ rest')) ≠ .symbol close := by
          rw [peek, isComma']
          exact further
        rw [List.append_assoc, List.cons_append, items_succ reread, resumeItems, if_neg further']
        have taken : expect .comma (lexed' :: (back' ++ rest')) = .ok (back' ++ rest') :=
          expect_ok_iff.mpr ⟨lexed', rfl, isComma'.trans isComma⟩
        have others := again' rest' isBack (by simpa using enough)
        exact bind_ok_iff.mpr ⟨_, bind_ok_iff.mpr ⟨_, taken, others⟩, rfl⟩

theorem isLocal_list (h : IsLocal item) (close : Symbol) : IsLocal (list close item) := by
  constructor
  intro tokens trees rest found
  unfold list at found
  split at found
  · rename_i closes
    obtain ⟨lexed, split, token⟩ := eq_cons_of_peek closes (by simp)
    cases found
    refine ⟨[lexed], split, fun {read'} rest' same _ => ?_⟩
    obtain ⟨lexed', rfl, isClose⟩ := List.map_eq_singleton_iff.mp same
    exact if_pos (isClose.trans token)
  · rename_i open'
    obtain ⟨read, rfl, nonempty, fewer, again⟩ := rereads_items h found
    refine ⟨read, rfl, fun {read'} rest' same _ => ?_⟩
    obtain ⟨lexed, others, rfl⟩ := List.exists_cons_of_ne_nil nonempty
    have enough : trees.length ≤ (read' ++ rest').length + 1 := by
      have length := congrArg List.length same
      simp only [bare, List.length_map] at length
      rw [List.length_append]
      omega
    obtain ⟨lexed', others', rfl, token, -⟩ := List.map_eq_cons_iff.mp same
    have other : peek (lexed' :: others' ++ rest') ≠ .symbol close := by
      rw [List.cons_append, peek, token]
      exact open'
    rw [list, if_neg other]
    exact again rest' same enough

/-- What stands behind the first token of an atom. -/
def atomBehind (inner : Parse Expr) : Token → Parse Expr
  | .number value => fun rest =>
    match Json.Number.ofDouble? value with
    | some number => .ok (.literal (.number number), rest)
    | none => .error ⟨rest, .notFinite value⟩
  | .text value => fun rest => .ok (.literal (.string value), rest)
  | .ident name => fun rest => .ok (ofName name, rest)
  | .symbol .openParen => fun rest => do
    let (expr, rest) ← inner rest
    let rest ← expect .closeParen rest
    return (expr, rest)
  | .symbol .openBracket => fun rest => do
    let (exprs, rest) ← list .closeBracket inner rest
    return (.array exprs, rest)
  | token => fun rest => .error ⟨rest, .unexpected token⟩

theorem primary_cons (inner : Parse Expr) (lexed : Lexed) (rest : List Lexed)
    : primary inner (lexed :: rest) = atomBehind inner lexed.token rest := by
  obtain ⟨token, offset⟩ := lexed
  cases token with
  | symbol sign => cases sign <;> rfl
  | _ => rfl

theorem isLocal_primary (h : IsLocal item) : IsLocal (primary item) := by
  refine .ofFirst ?_ (by simp [primary]) (primary_cons item)
  intro token
  unfold atomBehind
  split
  · rename_i value
    cases Json.Number.ofDouble? value with
    | some number => exact isLocal_pure _
    | none => exact isLocal_error _
  · exact isLocal_pure _
  · exact isLocal_pure _
  · exact h.bind fun tree => (isLocal_pure tree).afterExpect .closeParen
  · exact (isLocal_list h .closeBracket).bind fun trees => isLocal_pure _
  · exact isLocal_error _

/-- What stands behind a point. -/
def memberBehind (inner : ParseWithin Expr) (target : Expr) : (links : Nat) → Parse Expr
  | 0 => fun tokens => .error ⟨tokens, .chainTooLong⟩
  | links + 1 => fun tokens =>
    match peek tokens with
    | .ident name => resumeAccess inner links (.member target name) tokens.tail
    | token => .error ⟨tokens.tail, .expectedProperty token⟩

/-- What stands behind an opening bracket. -/
def indexBehind (inner : ParseWithin Expr) (target : Expr) : (links : Nat) → Parse Expr
  | 0 => fun tokens => .error ⟨tokens, .chainTooLong⟩
  | links + 1 => fun tokens => do
    let (position, tokens) ← inner links tokens
    let tokens ← expect .closeBracket tokens
    resumeAccess inner links (.index target position) tokens

/-- What stands behind an opening parenthesis. -/
def callBehind (inner : ParseWithin Expr) (links : Nat) : (target : Expr) → Parse Expr
  | .ident name => fun tokens => do
    let (args, tokens) ← list .closeParen (inner links) tokens
    resumeAccess inner links (.call name args) tokens
  | _ => fun tokens => .error ⟨tokens, .notCallable⟩

/-- What stands behind the sign of a member, an index or a call. -/
def accessBehind (inner : ParseWithin Expr) (links : Nat) (target : Expr)
    : Token → Option (Parse Expr)
  | .symbol .dot => some (memberBehind inner target links)
  | .symbol .openBracket => some (indexBehind inner target links)
  | .symbol .openParen => some (callBehind inner links target)
  | _ => none

theorem accessBehind_of_isClosing {links : Nat} {target : Expr} {token : Token}
    (closing : token.IsClosing)
    : accessBehind inner links target token = none := by
  rcases closing with rfl | rfl | rfl | rfl | rfl <;> rfl

theorem resumeAccess_of_none {links : Nat} {target : Expr} {tokens : List Lexed}
    (h : accessBehind inner links target (peek tokens) = none)
    : resumeAccess inner links target tokens = .ok (target, tokens) := by
  have stops : (peek tokens).Stops 0 := by
    refine ⟨?_, ?_, ?_, by simp⟩ <;> rintro next <;> simp [next, accessBehind] at h
  exact resumeAccess_of_stops inner links target stops

theorem accesses_of_openParen {links : Nat} {target : Expr} {tokens : List Lexed}
    (opens : peek tokens = .symbol .openParen)
    : accesses inner links target tokens = .error ⟨tokens, .notCallable⟩ := by
  rw [accesses.eq_def]
  cases links <;> simp [opens]

/-- What is left to do when an atom was read, by the token that comes next. -/
theorem resumeAccess_eq (inner : ParseWithin Expr) (links : Nat) (target : Expr)
    (tokens : List Lexed)
    : resumeAccess inner links target tokens
      = match peek tokens, links with
        | .symbol .dot, 0 | .symbol .openBracket, 0 => .error ⟨tokens, .chainTooLong⟩
        | .symbol .dot, links + 1 =>
          match peek tokens.tail with
          | .ident name => resumeAccess inner links (.member target name) tokens.tail.tail
          | token => .error ⟨tokens.tail.tail, .expectedProperty token⟩
        | .symbol .openBracket, links + 1 => do
          let (position, tokens) ← inner links tokens.tail
          let tokens ← expect .closeBracket tokens
          resumeAccess inner links (.index target position) tokens
        | .symbol .openParen, links =>
          match target with
          | .ident name => do
            let (args, tokens) ← list .closeParen (inner links) tokens.tail
            resumeAccess inner links (.call name args) tokens
          | _ => .error ⟨tokens, .notCallable⟩
        | _, _ => .ok (target, tokens) := by
  simp only [resumeAccess_of_notName (by simp : ∀ name, Expr.member _ _ ≠ .ident name),
    resumeAccess_of_notName (by simp : ∀ name, Expr.index _ _ ≠ .ident name),
    resumeAccess_of_notName (by simp : ∀ name, Expr.call _ _ ≠ .ident name)]
  by_cases opens : peek tokens = .symbol .openParen
  · simp only [opens]
    cases target with
    | ident name => simp only [resumeAccess, opens]
    | _ =>
        rw [resumeAccess_of_notName (by simp), accesses_of_openParen opens]
  · rw [resumeAccess_of_ne opens]
    fun_cases accesses inner links target tokens with
    | case1 _ _ next | case2 _ _ next => simp only [next]
    | case3 _ _ _ next _ named => simp only [next, named]
    | case4 _ _ _ next => simp only [next]
    | case5 _ _ _ next => simp only [next]
    | case6 _ _ _ next => exact (opens next).elim
    | case7 => split <;> simp_all

theorem resumeAccess_cons_ok_iff {links : Nat} {target : Expr} {lexed : Lexed}
    {rest : List Lexed} {next : Parse Expr}
    (h : accessBehind inner links target lexed.token = some next) (result : Expr × List Lexed)
    : resumeAccess inner links target (lexed :: rest) = .ok result ↔ next rest = .ok result := by
  obtain ⟨token, offset⟩ := lexed
  rw [resumeAccess_eq]
  unfold accessBehind at h
  split at h <;> cases h
  · cases links <;> simp_all [peek, memberBehind]
  · cases links <;> simp_all [peek, indexBehind]
  · cases target <;> simp_all [peek, callBehind]

/-- With what stands behind a sign, all that stands behind an atom is read again. A call comes first
and is no name itself.
-/
theorem isLocal_resumeAccess_of_behind {links : Nat} (h : IsLocal (inner links))
    (member : ∀ target, IsLocal (memberBehind inner target links))
    (index : ∀ target, IsLocal (indexBehind inner target links)) (target : Expr)
    : IsLocal (resumeAccess inner links target) := by
  have step (target : Expr) (call : IsLocal (callBehind inner links target))
      : IsLocal (resumeAccess inner links target) := by
    refine .ofPeek target (accessBehind inner links target) ?_
      (fun _ => accessBehind_of_isClosing) (fun _ => resumeAccess_of_none)
      (fun _ _ _ => resumeAccess_cons_ok_iff)
    intro token next chosen
    unfold accessBehind at chosen
    split at chosen <;> cases chosen
    · exact member target
    · exact index target
    · exact call
  have called (name : String) (args : List Expr)
      : IsLocal (resumeAccess inner links (.call name args)) :=
    step _ (isLocal_error _)
  cases target with
  | ident name => exact step _ ((isLocal_list h .closeParen).bind (called name))
  | _ => exact step _ (isLocal_error _)

theorem isLocal_memberBehind {links : Nat} (h : ∀ target, IsLocal (resumeAccess inner links target))
    (target : Expr)
    : IsLocal (memberBehind inner target (links + 1)) := by
  let body : Token → Parse Expr
    | .ident name => resumeAccess inner links (.member target name)
    | token => fun rest => .error ⟨rest, .expectedProperty token⟩
  have each (token : Token) : IsLocal (body token) := by
    cases token with
    | ident name => exact h (.member target name)
    | _ => exact isLocal_error _
  refine .ofFirst each (by simp [memberBehind, peek]) fun lexed rest => ?_
  obtain ⟨token, offset⟩ := lexed
  cases token <;> rfl

theorem isLocal_indexBehind {links : Nat} (h : IsLocal (inner links))
    (h' : ∀ target, IsLocal (resumeAccess inner links target)) (target : Expr)
    : IsLocal (indexBehind inner target (links + 1)) :=
  h.bind fun position => (h' (.index target position)).afterExpect .closeBracket

theorem isLocal_resumeAccess (h : ∀ links, IsLocal (inner links)) (links : Nat) (target : Expr)
    : IsLocal (resumeAccess inner links target) := by
  induction links generalizing target with
  | zero =>
      exact isLocal_resumeAccess_of_behind (h 0) (fun _ => isLocal_error _)
        (fun _ => isLocal_error _) target
  | succ links ih =>
      exact isLocal_resumeAccess_of_behind (h (links + 1)) (isLocal_memberBehind ih)
        (isLocal_indexBehind (h links) ih) target

theorem isLocal_postfixed (h : ∀ links, IsLocal (inner links)) (links : Nat)
    : IsLocal (postfixed inner links) :=
  (isLocal_primary (h links)).bind fun tree => isLocal_resumeAccess h links tree

theorem isLocal_signed (h : ∀ links, IsLocal (inner links)) (h' : ∀ links, IsLocal (nested links))
    (links : Nat)
    : IsLocal (signed inner nested links) := by
  constructor
  intro tokens tree rest found
  unfold signed at found
  split at found
  · rename_i op before
    have behind : IsLocal fun tokens => nested links tokens >>= fun (operand, tokens) =>
        .ok (unary op operand, tokens) :=
      (h' links).bind fun operand => isLocal_pure _
    obtain ⟨sign, next, -⟩ := unaryOp?_eq_some_iff.mp before
    obtain ⟨lexed, split, -⟩ := eq_cons_of_peek next (by simp)
    obtain ⟨read, taken, again⟩ := behind.rereads found
    rw [taken] at split
    refine ⟨lexed :: read, split, fun {read'} rest' same alike => ?_⟩
    obtain ⟨lexed', read', rfl, token, same⟩ := List.map_eq_cons_iff.mp same
    have before' : unaryOp? (peek (lexed' :: read' ++ rest')) = some op := by
      rw [split] at before
      rw [← before, List.cons_append, peek, token]
      rfl
    simp only [signed, before']
    exact again rest' same alike
  · rename_i unsigned
    obtain ⟨read, rfl, again⟩ := (isLocal_postfixed h links).rereads found
    refine ⟨read, rfl, fun {read'} rest' same alike => ?_⟩
    have unsigned' : unaryOp? (peek (read' ++ rest')) = none := by
      rcases alike_peek_append same alike with next | ⟨-, closing⟩
      · rw [← next, unsigned]
      · rcases closing with next | next | next | next | next <;> rw [next] <;> rfl
    simp only [signed, unsigned']
    exact again rest' same alike

/-- The parsers of every level of nesting read again what they read, by induction on the levels that
are left.
-/
theorem isLocal_level (depth : Nat)
    : (∀ links, IsLocal ((level depth).whole links))
      ∧ ∀ links, IsLocal ((level depth).operand links) := by
  have refused (links : Nat) : IsLocal (tooDeep links) := isLocal_error _
  induction depth with
  | zero => exact ⟨refused, isLocal_signed refused refused⟩
  | succ depth ih =>
      have whole := isLocal_branching ih.2 ih.1
      exact ⟨whole, isLocal_signed whole ih.2⟩

end

theorem ofTokens_ok_iff {tokens : List Lexed} {tree : Expr}
    : ofTokens tokens = .ok tree ↔ (level maxDepth).whole maxLinks tokens = .ok (tree, []) := by
  rw [ofTokens, bind_ok_iff]
  constructor
  · rintro ⟨⟨whole, rest⟩, read, ended⟩
    dsimp only at ended
    split at ended
    · rename_i empty
      cases ended
      obtain rfl := List.isEmpty_iff.mp empty
      exact read
    · cases ended
  · exact fun read => ⟨_, read, rfl⟩

/-- A tree does not depend on the places of its tokens. -/
theorem ofTokens_congr {tokens tokens' : List Lexed} (same : bare tokens' = bare tokens)
    {tree : Expr} (read : ofTokens tokens = .ok tree)
    : ofTokens tokens' = .ok tree := by
  rw [ofTokens_ok_iff] at read ⊢
  obtain ⟨taken, rfl, again⟩ := ((isLocal_level maxDepth).1 maxLinks).rereads read
  rw [List.append_nil] at same
  have whole := again [] same (.refl _)
  rwa [List.append_nil] at whole

end FormWizard.Expr
