import FormWizard.Expr.Counting
import FormWizard.Proofs.Expr.Locality
import Mathlib.Order.Filter.AtTopBot.Basic

/-! The parser with counters reads what the parser with budgets reads. What is left of a budget is
what a counter lacks to its bound; every part of an expression that was read leaves both counters as
it found them, and neither is ever counted down below zero.
-/

namespace FormWizard.Expr.Counting

open Filter

-----------------------------------------------------------------------------------------
-- Steps
-----------------------------------------------------------------------------------------

section

variable {α β : Type}

/-- What comes of a parser that starts with the counters. -/
abbrev runFrom (parse : Counted α) (counters : Counters) : Option (Except Halt α × Counters) :=
  parse.run.run counters

theorem runFrom_bind (parse : Counted α) (after : α → Counted β) (counters : Counters)
    : runFrom (parse >>= after) counters
      = match runFrom parse counters with
        | none => none
        | some (.ok value, counters) => runFrom (after value) counters
        | some (.error halt, counters) => some (.error halt, counters) := by
  simp only [runFrom, ExceptT.run_bind, StateT.run_bind]
  cases StateT.run (ExceptT.run parse) counters with
  | none => rfl
  | some result =>
      obtain ⟨outcome, counters⟩ := result
      cases outcome <;> rfl

theorem runFrom_next_bind (after : Token → Counted α) (counters : Counters)
    : runFrom (next >>= after) counters = runFrom (after (peek counters.tokens)) counters :=
  rfl

theorem runFrom_advance_bind (after : Unit → Counted α) (counters : Counters)
    : runFrom (advance >>= after) counters
      = runFrom (after ()) { counters with tokens := counters.tokens.tail } :=
  rfl

theorem runFrom_eat_of_eq {sign : Symbol} {counters : Counters}
    (same : peek counters.tokens = .symbol sign)
    : runFrom (eat sign) counters
      = some (.ok true, { counters with tokens := counters.tokens.tail }) := by
  rw [eat, runFrom_next_bind, if_pos same]
  rfl

theorem runFrom_eat_of_ne {sign : Symbol} {counters : Counters}
    (other : peek counters.tokens ≠ .symbol sign)
    : runFrom (eat sign) counters = some (.ok false, counters) := by
  rw [eat, runFrom_next_bind, if_neg other]
  rfl

theorem runFrom_expect_of_eq {sign : Symbol} {counters : Counters}
    (same : peek counters.tokens = .symbol sign)
    : runFrom (expect sign) counters
      = some (.ok (), { counters with tokens := counters.tokens.tail }) := by
  rw [expect, runFrom_bind, runFrom_eat_of_eq same]
  rfl

theorem runFrom_expect_of_ne {sign : Symbol} {counters : Counters}
    (other : peek counters.tokens ≠ .symbol sign)
    : runFrom (expect sign) counters
      = some (.error (.stuck ⟨counters.tokens, .expected sign (peek counters.tokens)⟩),
          counters) := by
  rw [expect, runFrom_bind, runFrom_eat_of_ne other]
  rfl

theorem runFrom_enter (counters : Counters)
    : runFrom enter counters
      = if maxDepth < counters.depth + 1 then
          some (.error (.stuck ⟨counters.tokens, .nestedTooDeeply⟩),
            { counters with depth := counters.depth + 1 })
        else some (.ok (), { counters with depth := counters.depth + 1 }) := by
  have read : runFrom enter counters
      = runFrom (if maxDepth < counters.depth + 1 then fail .nestedTooDeeply else pure ())
          { counters with depth := counters.depth + 1 } :=
    rfl
  rw [read]
  split <;> rfl

theorem runFrom_link (counters : Counters)
    : runFrom link counters
      = if maxLinks < counters.chain + 1 then
          some (.error (.stuck ⟨counters.tokens, .chainTooLong⟩),
            { counters with chain := counters.chain + 1 })
        else some (.ok (), { counters with chain := counters.chain + 1 }) := by
  have read : runFrom link counters
      = runFrom (if maxLinks < counters.chain + 1 then fail .chainTooLong else pure ())
          { counters with chain := counters.chain + 1 } :=
    rfl
  rw [read]
  split <;> rfl

theorem runFrom_get_bind (after : Counters → Counted α) (counters : Counters)
    : runFrom (get >>= after) counters = runFrom (after counters) counters :=
  rfl

theorem runFrom_leave (counters : Counters)
    : runFrom leave counters
      = if counters.depth = 0 then some (.error .underflow, counters)
        else some (.ok (), { counters with depth := counters.depth - 1 }) := by
  rw [leave, runFrom_get_bind]
  split <;> rfl

theorem runFrom_release (links : Nat) (counters : Counters)
    : runFrom (release links) counters
      = if counters.chain < links then some (.error .underflow, counters)
        else some (.ok (), { counters with chain := counters.chain - links }) := by
  rw [release, runFrom_get_bind]
  split <;> rfl

theorem runFrom_nested (parse : Counted α) (counters : Counters)
    : runFrom (nested parse) counters
      = match runFrom enter counters with
        | none => none
        | some (.error halt, counters) => some (.error halt, counters)
        | some (.ok (), counters) =>
          match runFrom parse counters with
          | none => none
          | some (outcome, counters) =>
            match runFrom leave counters with
            | none => none
            | some (.error halt, counters) => some (.error halt, counters)
            | some (.ok (), counters) => some (outcome, counters) := by
  have read : runFrom (nested parse) counters
      = StateT.run (m := Option) (nested parse : Machine (Except Halt α)) counters := rfl
  rw [read, nested, StateT.run_bind]
  change Option.bind (runFrom enter counters) _ = _
  rcases runFrom enter counters with _ | ⟨_ | _, counters⟩
  · rfl
  · rfl
  · dsimp only [Option.bind]
    rw [StateT.run_bind]
    change Option.bind (runFrom parse counters) _ = _
    rcases runFrom parse counters with _ | ⟨outcome, counters⟩
    · rfl
    · dsimp only [Option.bind]
      rw [StateT.run_bind]
      change Option.bind (runFrom leave counters) _ = _
      rcases runFrom leave counters with _ | ⟨_ | _, counters⟩ <;> rfl

end

-----------------------------------------------------------------------------------------
-- What settles
-----------------------------------------------------------------------------------------

section

variable {α β : Type}

/-- What comes of a parser with counters when the parser with budgets comes to the outcome: the same
value and the given counters, or the same place and reason and no level closed that was open.
-/
inductive Settles (depth chain : Nat)
    : Except Stuck (α × List Lexed) → Except Halt α × Counters → Prop
  | ok (value : α) (rest : List Lexed)
    : Settles depth chain (.ok (value, rest)) (.ok value, ⟨rest, depth, chain⟩)
  | stuck (cause : Stuck) {left : Counters} (still : depth ≤ left.depth)
    : Settles depth chain (.error cause) (.error (.stuck cause), left)

/-- However many steps are allowed, they settle the outcome if they suffice, and enough of them do.
-/
structure Comes (depth chain : Nat) (outcome : Except Stuck (α × List Lexed))
    (runs : Nat → Option (Except Halt α × Counters)) : Prop where
  settles : ∀ {steps : Nat} {result : Except Halt α × Counters}, runs steps = some result →
    Settles depth chain outcome result
  ends : ∀ᶠ steps in atTop, runs steps ≠ none

variable {depth chain chain' links : Nat} {tokens : List Lexed}

theorem Comes.of_settles {outcome : Except Stuck (α × List Lexed)}
    {result : Except Halt α × Counters}
    (h : Settles depth chain outcome result)
    : Comes depth chain outcome fun _ => some result where
  settles found := Option.some.inj found ▸ h
  ends := .of_forall fun _ => by simp

theorem Comes.ok (value : α) (rest : List Lexed)
    : Comes depth chain (.ok (value, rest)) fun _ => some (.ok value, ⟨rest, depth, chain⟩) :=
  .of_settles (.ok value rest)

theorem Comes.stuck (cause : Stuck)
    : Comes (α := α) depth chain (.error cause)
        fun _ => some (.error (.stuck cause), ⟨cause.tokens, depth, chain'⟩) :=
  .of_settles (.stuck cause (Nat.le_refl depth))

/-- A call takes one step. -/
theorem Comes.succ {outcome : Except Stuck (α × List Lexed)} {parse : Nat → Counted α}
    {counters : Counters} (zero : parse 0 = exhausted)
    (h : Comes depth chain outcome fun steps => runFrom (parse (steps + 1)) counters)
    : Comes depth chain outcome fun steps => runFrom (parse steps) counters where
  settles {steps result} found := by
    cases steps with
    | zero =>
        rw [zero] at found
        cases found
    | succ steps => exact h.settles found
  ends := by
    obtain ⟨enough, ended⟩ := eventually_atTop.mp h.ends
    refine eventually_atTop.mpr ⟨enough + 1, fun steps le => ?_⟩
    obtain ⟨less, rfl⟩ : ∃ less, steps = less + 1 := ⟨steps - 1, by omega⟩
    exact ended less (by omega)

theorem Comes.bind {first : Except Stuck (α × List Lexed)}
    {next : α × List Lexed → Except Stuck (β × List Lexed)} {parse : Nat → Counted α}
    {after : Nat → α → Counted β} {counters : Counters}
    (h : Comes depth chain first fun steps => runFrom (parse steps) counters)
    (h' : ∀ value rest, first = .ok (value, rest) →
      Comes depth chain' (next (value, rest))
        fun steps => runFrom (after steps value) ⟨rest, depth, chain⟩)
    : Comes depth chain' (first >>= next)
        fun steps => runFrom (parse steps >>= after steps) counters where
  settles {steps result} found := by
    rw [runFrom_bind] at found
    cases head : runFrom (parse steps) counters with
    | none =>
        rw [head] at found
        cases found
    | some middle =>
        rw [head] at found
        cases h.settles head with
        | ok value rest => exact (h' value rest rfl).settles found
        | stuck cause still =>
            cases found
            exact .stuck cause still
  ends := by
    have goesOn : ∀ᶠ steps in atTop, ∀ value rest, first = .ok (value, rest) →
        runFrom (after steps value) ⟨rest, depth, chain⟩ ≠ none := by
      cases first with
      | error cause => exact .of_forall fun _ => by simp
      | ok found =>
          refine (h' found.1 found.2 rfl).ends.mono fun steps enough value rest same => ?_
          cases same
          exact enough
    filter_upwards [h.ends, goesOn] with steps enough further
    rw [runFrom_bind]
    cases head : runFrom (parse steps) counters with
    | none => exact (enough head).elim
    | some middle =>
        cases h.settles head with
        | ok value rest => exact further value rest rfl
        | stuck cause still => simp

theorem Comes.afterEat {sign : Symbol} {taken other : Except Stuck (α × List Lexed)}
    {after : Nat → Bool → Counted α}
    (h : peek tokens = .symbol sign →
      Comes depth chain' taken fun steps => runFrom (after steps true) ⟨tokens.tail, depth, chain⟩)
    (h' : peek tokens ≠ .symbol sign →
      Comes depth chain' other fun steps => runFrom (after steps false) ⟨tokens, depth, chain⟩)
    : Comes depth chain' (if peek tokens = .symbol sign then taken else other)
        fun steps => runFrom (eat sign >>= after steps) ⟨tokens, depth, chain⟩ := by
  simp only [runFrom_bind]
  split
  · rename_i same
    simp only [@runFrom_eat_of_eq sign ⟨tokens, depth, chain⟩ same]
    exact h same
  · rename_i other
    simp only [@runFrom_eat_of_ne sign ⟨tokens, depth, chain⟩ other]
    exact h' other

theorem Comes.afterExpect {sign : Symbol} {next : List Lexed → Except Stuck (α × List Lexed)}
    {after : Nat → Unit → Counted α}
    (h : ∀ rest, Expr.expect sign tokens = .ok rest →
      Comes depth chain' (next rest) fun steps => runFrom (after steps ()) ⟨rest, depth, chain⟩)
    : Comes depth chain' (Expr.expect sign tokens >>= next)
        fun steps => runFrom (expect sign >>= after steps) ⟨tokens, depth, chain⟩ := by
  simp only [runFrom_bind]
  by_cases same : peek tokens = .symbol sign
  · have found : Expr.expect sign tokens = .ok tokens.tail := if_pos same
    rw [found]
    simp only [@runFrom_expect_of_eq sign ⟨tokens, depth, chain⟩ same]
    exact h tokens.tail found
  · have failed : Expr.expect sign tokens = .error ⟨tokens, .expected sign (peek tokens)⟩ :=
      if_neg same
    rw [failed]
    simp only [@runFrom_expect_of_ne sign ⟨tokens, depth, chain⟩ same]
    exact .stuck _

/-- A link is counted where there is one left, and then there is one less. -/
theorem Comes.afterLink {outcome : Except Stuck (α × List Lexed)} {after : Nat → Unit → Counted α}
    (full : maxLinks - chain' = 0 → outcome = .error ⟨tokens, .chainTooLong⟩)
    (h : ∀ left, maxLinks - chain' = left + 1 →
      Comes depth chain outcome fun steps => runFrom (after steps ()) ⟨tokens, depth, chain' + 1⟩)
    : Comes depth chain outcome
        fun steps => runFrom (link >>= after steps) ⟨tokens, depth, chain'⟩ := by
  simp only [runFrom_bind, runFrom_link]
  by_cases room : maxLinks < chain' + 1
  · simp only [if_pos room, full (by omega)]
    exact .stuck _
  · simp only [if_neg room]
    exact h (maxLinks - (chain' + 1)) (by omega)

/-- A complete chain gives back its own links. -/
theorem comes_release (value : α)
    : Comes depth chain (.ok (value, tokens)) fun _ =>
        runFrom (release links >>= fun () => pure value) ⟨tokens, depth, chain + links⟩ := by
  simp only [runFrom_bind, runFrom_release, if_neg (show ¬chain + links < links by omega),
    Nat.add_sub_cancel]
  exact .ok value tokens

/-- A level that was opened is closed again, whatever comes of the parser inside it. -/
theorem Comes.nested {outcome : Except Stuck (α × List Lexed)} {parse : Nat → Counted α}
    (full : maxDepth ≤ depth → outcome = .error ⟨tokens, .nestedTooDeeply⟩)
    (h : depth < maxDepth →
      Comes (depth + 1) chain outcome
        fun steps => runFrom (parse steps) ⟨tokens, depth + 1, chain⟩)
    : Comes depth chain outcome
        fun steps => runFrom (nested (parse steps)) ⟨tokens, depth, chain⟩ := by
  simp only [runFrom_nested, runFrom_enter]
  by_cases deep : maxDepth ≤ depth
  · simp only [if_pos (Nat.lt_succ_of_le deep), full deep]
    exact .of_settles (.stuck _ (Nat.le_succ depth))
  · simp only [if_neg (by simpa [Nat.lt_succ_iff] using deep : ¬maxDepth < depth + 1)]
    have inside := h (Nat.lt_of_not_le deep)
    have closes {result : Except Halt α × Counters}
        (settled : Settles (depth + 1) chain outcome result)
        : runFrom leave result.2 = some (.ok (), { result.2 with depth := result.2.depth - 1 })
          ∧ Settles depth chain outcome
            (result.1, { result.2 with depth := result.2.depth - 1 }) := by
      cases settled with
      | ok value rest => exact ⟨runFrom_leave _, .ok value rest⟩
      | @stuck cause left still =>
          refine ⟨?_, .stuck cause (show depth ≤ left.depth - 1 by omega)⟩
          rw [runFrom_leave, if_neg (show left.depth ≠ 0 by omega)]
    constructor
    · intro steps result found
      cases head : runFrom (parse steps) ⟨tokens, depth + 1, chain⟩ with
      | none =>
          rw [head] at found
          cases found
      | some middle =>
          obtain ⟨left, settled⟩ := closes (inside.settles head)
          simp only [head, left] at found
          cases found
          exact settled
    · refine inside.ends.mono fun steps enough => ?_
      cases head : runFrom (parse steps) ⟨tokens, depth + 1, chain⟩ with
      | none => exact (enough head).elim
      | some middle =>
          obtain ⟨left, -⟩ := closes (inside.settles head)
          simp only [left]
          simp

/-- With enough steps, the parser with counters does what the parser with budgets does, and restores
both counters.
-/
def Counts (depth chain : Nat) (parse : Nat → Counted α) (read : Parse α) : Prop :=
  ∀ tokens, Comes depth chain (read tokens)
    fun steps => runFrom (parse steps) ⟨tokens, depth, chain⟩

end

-----------------------------------------------------------------------------------------
-- Atoms and what stands behind them
-----------------------------------------------------------------------------------------

section

variable {depth chain : Nat} {item : Parse Expr} {inner : ParseWithin Expr}

/-- The items of a list. Each takes a token at least, so there are fewer of them than tokens.
Witness: induction on the count of items that may still come.
-/
theorem comes_items (sound : IsSound .condition item) (h : Counts depth chain condition item)
    (close : Symbol) {count : Nat} {tokens : List Lexed} (enough : tokens.length < count)
    : Comes depth chain (Expr.items close item count tokens)
        fun steps => runFrom (items steps close) ⟨tokens, depth, chain⟩ := by
  induction count generalizing tokens with
  | zero => exact (Nat.not_lt_zero _ enough).elim
  | succ count ih =>
      refine .succ (by simp only [items]) ?_
      simp only [Expr.items, items]
      refine (h tokens).bind fun first rest read => ?_
      have shorter := sound.length_lt read
      refine .afterEat (fun _ => .ok [first] rest.tail) fun _ => ?_
      refine .afterExpect fun behind comma => ?_
      obtain ⟨lexed, rfl, -⟩ := expect_ok_iff.mp comma
      rw [List.length_cons] at shorter
      exact (ih (by omega)).bind fun others rest _ => .ok (first :: others) rest

theorem counts_list (sound : IsSound .condition item) (h : Counts depth chain condition item)
    (close : Symbol)
    : Counts depth chain (list · close) (Expr.list close item) := by
  intro tokens
  refine .succ (by simp only [list]) ?_
  simp only [Expr.list, list]
  exact .afterEat (fun _ => .ok [] tokens.tail)
    fun _ => comes_items sound h close (Nat.lt_succ_self tokens.length)

theorem counts_atom (sound : IsSound .condition item) (h : Counts depth chain condition item)
    : Counts depth chain atom (primary item) := by
  intro tokens
  refine .succ (by simp only [atom]) ?_
  simp only [atom, runFrom_get_bind]
  cases tokens with
  | nil => exact .stuck _
  | cons lexed rest =>
      obtain ⟨token, offset⟩ := lexed
      rw [primary_cons]
      simp only [runFrom_advance_bind]
      cases token with
      | number value =>
          dsimp only [atomBehind]
          cases Json.Number.ofDouble? value with
          | some number => exact .ok _ rest
          | none => exact .stuck _
      | text value => exact .ok _ rest
      | ident name => exact .ok _ rest
      | symbol sign =>
          cases sign with
          | openParen =>
              exact (h rest).bind fun tree rest _ => .afterExpect fun rest _ => .ok tree rest
          | openBracket =>
              exact (counts_list sound h .closeBracket rest).bind fun trees rest _ =>
                .ok (Expr.array trees) rest
          | _ => exact .stuck _
      | finish => exact .stuck _

/-- What stands behind the first sign, once all that may follow it is known. -/
theorem comes_access {links : Nat} (sound : ∀ links, IsSound .condition (inner links))
    (h : ∀ chain, Counts depth chain condition (inner (maxLinks - chain)))
    (further : ∀ left target tokens, maxLinks - (chain + links) = left + 1 →
      Comes depth chain (resumeAccess inner left target tokens)
        fun steps =>
          runFrom (accesses steps (links + 1) target) ⟨tokens, depth, chain + (links + 1)⟩)
    {target : Expr}
    (called : ∀ name args tokens, target = .ident name →
      Comes depth chain
        (resumeAccess inner (maxLinks - (chain + links)) (.call name args) tokens)
        fun steps =>
          runFrom (accesses steps links (.call name args)) ⟨tokens, depth, chain + links⟩)
    (tokens : List Lexed)
    : Comes depth chain (resumeAccess inner (maxLinks - (chain + links)) target tokens)
        fun steps => runFrom (accesses steps links target) ⟨tokens, depth, chain + links⟩ := by
  refine .succ (by simp only [accesses]) ?_
  rw [resumeAccess_eq]
  simp only [accesses, runFrom_next_bind]
  cases next : peek tokens with
  | symbol sign =>
      cases sign with
      | dot =>
          refine .afterLink (fun full => by rw [full]) fun left enough => ?_
          simp only [enough, runFrom_advance_bind, runFrom_next_bind]
          cases peek tokens.tail with
          | ident name => exact further left _ _ enough
          | _ => exact .stuck _
      | openBracket =>
          refine .afterLink (fun full => by rw [full]) fun left enough => ?_
          simp only [enough, runFrom_advance_bind]
          have position := h (chain + (links + 1)) tokens.tail
          rw [show maxLinks - (chain + (links + 1)) = left by omega] at position
          exact position.bind fun position rest _ =>
            .afterExpect fun rest _ => further left _ rest enough
      | openParen =>
          cases target with
          | ident name =>
              dsimp only [nameOf?]
              simp only [runFrom_advance_bind]
              exact (counts_list (sound _) (h _) .closeParen tokens.tail).bind
                fun args rest _ => called name args rest rfl
          | _ => exact .stuck _
      | _ => exact comes_release target
  | _ => exact comes_release target

/-- What stands behind an atom, when some links of it were counted. They are given back at the end.
Witness: induction on the links that are left; a call comes first and is no name itself.
-/
theorem comes_accesses (sound : ∀ links, IsSound .condition (inner links))
    (h : ∀ chain, Counts depth chain condition (inner (maxLinks - chain))) (links : Nat)
    (target : Expr) (tokens : List Lexed)
    : Comes depth chain (resumeAccess inner (maxLinks - (chain + links)) target tokens)
        fun steps => runFrom (accesses steps links target) ⟨tokens, depth, chain + links⟩ := by
  induction budget : maxLinks - (chain + links) using Nat.strong_induction_on
      generalizing links target tokens with
  | _ free ih =>
      have further (left : Nat) (target : Expr) (tokens : List Lexed)
          (enough : maxLinks - (chain + links) = left + 1)
          : Comes depth chain (resumeAccess inner left target tokens)
            fun steps =>
              runFrom (accesses steps (links + 1) target) ⟨tokens, depth, chain + (links + 1)⟩ :=
        ih left (by omega) (links + 1) target tokens (by omega)
      rw [← budget]
      refine comes_access sound h further (fun _ _ tokens _ => ?_) tokens
      exact comes_access sound h further (by simp) tokens

theorem counts_postfixed (sound : ∀ links, IsSound .condition (inner links))
    (h : ∀ chain, Counts depth chain condition (inner (maxLinks - chain)))
    : Counts depth chain postfixed (Expr.postfixed inner (maxLinks - chain)) := by
  intro tokens
  refine .succ (by simp only [postfixed]) ?_
  simp only [postfixed]
  exact (counts_atom (sound _) (h chain) tokens).bind fun tree rest _ =>
    comes_accesses sound h 0 tree rest

end

-----------------------------------------------------------------------------------------
-- Operations and conditions
-----------------------------------------------------------------------------------------

section

variable {depth : Nat} {below inner : ParseWithin Expr}

/-- The operators behind an operand, when some links of them were counted. They are given back at
the end. Witness: induction on the links that are left.
-/
theorem comes_operators {chain degree : Nat}
    (h : ∀ chain, Counts depth chain (operation · degree)
      (Expr.operation below degree (maxLinks - chain))) (links : Nat) (left : Expr)
    (tokens : List Lexed)
    : Comes depth chain
        (Expr.chain degree (Expr.operation below degree) (maxLinks - (chain + links)) left tokens)
        fun steps =>
          runFrom (operators steps degree links left) ⟨tokens, depth, chain + links⟩ := by
  induction budget : maxLinks - (chain + links) using Nat.strong_induction_on
      generalizing links left tokens with
  | _ free ih =>
      refine .succ (by simp only [operators]) ?_
      rw [chain_eq]
      simp only [operators, runFrom_next_bind]
      cases binaryOp? degree (peek tokens) with
      | none => exact comes_release left
      | some op =>
          refine .afterLink (fun full => ?_) fun less enough => ?_
          · obtain rfl : free = 0 := budget.symm.trans full
            rfl
          · obtain rfl : free = less + 1 := budget.symm.trans enough
            have one : maxLinks - (chain + (links + 1)) = less := by omega
            have operand := h (chain + (links + 1)) tokens.tail
            rw [one] at operand
            exact operand.bind fun right rest _ =>
              ih less (Nat.lt_succ_self less) (links + 1) (.binary op left right) rest one

theorem counts_operation (h : ∀ chain, Counts depth chain operand (below (maxLinks - chain)))
    (degree chain : Nat)
    : Counts depth chain (operation · degree) (Expr.operation below degree (maxLinks - chain)) := by
  induction degree generalizing chain with
  | zero =>
      intro tokens
      refine .succ (by simp only [operation]) ?_
      simp only [operation]
      exact h chain tokens
  | succ degree ih =>
      intro tokens
      refine .succ (by simp only [operation]) ?_
      simp only [operation]
      exact (ih chain tokens).bind fun left rest _ => comes_operators ih 0 left rest

/-- A condition, once its parts are known one level further down. -/
theorem counts_condition (full : maxDepth ≤ depth → inner = tooDeep)
    (h : depth < maxDepth → ∃ below whole, inner = branching below whole
      ∧ (∀ chain, Counts (depth + 1) chain operand (below (maxLinks - chain)))
      ∧ ∀ chain, Counts (depth + 1) chain condition (whole (maxLinks - chain)))
    (chain : Nat)
    : Counts depth chain condition (inner (maxLinks - chain)) := by
  intro tokens
  refine .succ (by simp only [condition]) ?_
  simp only [condition]
  refine .nested (fun deep => by rw [full deep]; rfl) fun free => ?_
  obtain ⟨below, whole, rfl, operand, branch⟩ := h free
  refine (counts_operation operand looseness chain tokens).bind fun tested rest _ => ?_
  refine .afterEat (fun _ => ?_) fun _ => .ok tested rest
  refine (branch chain rest.tail).bind fun yes rest _ => ?_
  refine .afterExpect fun rest _ => ?_
  exact (branch chain rest).bind fun no rest _ => .ok _ rest

theorem counts_operand {whole : ParseWithin Expr}
    (sound : ∀ links, IsSound .condition (whole links))
    (h : ∀ chain, Counts depth chain condition (whole (maxLinks - chain)))
    (full : maxDepth ≤ depth → below = tooDeep)
    (h' : depth < maxDepth → ∀ chain, Counts (depth + 1) chain operand (below (maxLinks - chain)))
    (chain : Nat)
    : Counts depth chain operand (signed whole below (maxLinks - chain)) := by
  intro tokens
  refine .succ (by simp only [operand]) ?_
  simp only [operand, runFrom_next_bind, signed]
  cases unaryOp? (peek tokens) with
  | none => exact counts_postfixed sound h tokens
  | some op =>
      simp only [runFrom_advance_bind]
      refine .nested (fun deep => by rw [full deep]; rfl) fun free => ?_
      exact (h' free chain tokens.tail).bind fun value rest _ => .ok _ rest

/-- With the levels that are left, conditions and operands are read in the same way. Witness:
induction on these levels.
-/
theorem counts_level (depth : Nat)
    : (∀ chain, Counts depth chain condition
        ((level (maxDepth - depth)).whole (maxLinks - chain)))
      ∧ ∀ chain, Counts depth chain operand
          ((level (maxDepth - depth)).operand (maxLinks - chain)) := by
  induction left : maxDepth - depth generalizing depth with
  | zero =>
      have deep : ¬depth < maxDepth := by omega
      have whole := counts_condition (fun _ => rfl) fun free => (deep free).elim
      exact ⟨whole, counts_operand (isSound_level 0).1 whole (fun _ => rfl)
        fun free => (deep free).elim⟩
  | succ left' ih =>
      have shallow : ¬maxDepth ≤ depth := by omega
      obtain ⟨below, operands⟩ := ih (depth + 1) (by omega)
      have whole := counts_condition (fun full => (shallow full).elim)
        fun _ => ⟨_, _, rfl, operands, below⟩
      exact ⟨whole, counts_operand (isSound_level (left' + 1)).1 whole
        (fun full => (shallow full).elim) fun _ => operands⟩

end

-----------------------------------------------------------------------------------------
-- Whole expressions
-----------------------------------------------------------------------------------------

theorem ofTokens_eq (steps : Nat) (tokens : List Lexed)
    : ofTokens steps tokens
      = match runFrom (condition steps) ⟨tokens, 0, 0⟩ with
        | none => none
        | some (.ok expr, left) =>
          if left.tokens.isEmpty then some (.ok expr)
          else some (.error (.stuck ⟨left.tokens, .trailing (peek left.tokens)⟩))
        | some (.error halt, _) => some (.error halt) := by
  have read : ofTokens steps tokens = (runFrom (whole steps) ⟨tokens, 0, 0⟩).map Prod.fst := rfl
  rw [read, whole, runFrom_bind]
  rcases runFrom (condition steps) ⟨tokens, 0, 0⟩ with _ | ⟨halt | expr, left⟩
  · rfl
  · rfl
  · dsimp only
    rw [runFrom_get_bind]
    split <;> rfl

/-- However many steps are allowed, the parser with counters comes to what the parser with budgets
comes to, or they do not suffice; enough of them do.
-/
theorem ofTokens_agrees (tokens : List Lexed)
    : (∀ {steps outcome}, ofTokens steps tokens = some outcome →
        outcome = (Expr.ofTokens tokens).mapError .stuck)
      ∧ ∀ᶠ steps in atTop, ofTokens steps tokens ≠ none := by
  have comes : Comes 0 0 ((level maxDepth).whole maxLinks tokens)
      fun steps => runFrom (condition steps) ⟨tokens, 0, 0⟩ :=
    (counts_level 0).1 0 tokens
  have whole {steps : Nat} {result : Except Halt Expr × Counters}
      (found : runFrom (condition steps) ⟨tokens, 0, 0⟩ = some result)
      : ofTokens steps tokens = some ((Expr.ofTokens tokens).mapError .stuck) := by
    rw [ofTokens_eq, found, Expr.ofTokens]
    have settled := comes.settles found
    generalize (level maxDepth).whole maxLinks tokens = outcome at settled
    cases settled with
    | stuck cause still => rfl
    | ok expr rest => cases rest <;> rfl
  constructor
  · intro steps outcome found
    cases head : runFrom (condition steps) ⟨tokens, 0, 0⟩ with
    | none =>
        rw [ofTokens_eq, head] at found
        cases found
    | some result => exact Option.some.inj (found.symm.trans (whole head))
  · refine comes.ends.mono fun steps enough => ?_
    obtain ⟨result, found⟩ := Option.ne_none_iff_exists'.mp enough
    rw [whole found]
    simp

/-- However the counters stand and however many steps are allowed, no counter falls below zero, and
if something was read, both counters are as they were. With enough steps, the parser comes to an
end.
-/
structure Restores {α : Type} (parse : Nat → Counted α) : Prop where
  noUnderflow : ∀ {steps : Nat} {before after : Counters},
    runFrom (parse steps) before ≠ some (.error .underflow, after)
  restores : ∀ {steps : Nat} {before after : Counters} {value : α},
    runFrom (parse steps) before = some (.ok value, after) →
      after.depth = before.depth ∧ after.chain = before.chain
  ends : ∀ before, ∀ᶠ steps in atTop, runFrom (parse steps) before ≠ none

theorem restores_of_counts {α : Type} {parse : Nat → Counted α}
    (h : ∀ depth chain, ∃ read, Counts depth chain parse read)
    : Restores parse := by
  have comes (before : Counters)
      : ∃ outcome, Comes before.depth before.chain outcome
        fun steps => runFrom (parse steps) before := by
    obtain ⟨read, counts⟩ := h before.depth before.chain
    exact ⟨_, counts before.tokens⟩
  constructor
  · intro steps before after found
    obtain ⟨outcome, settled⟩ := comes before
    cases settled.settles found
  · intro steps before after value found
    obtain ⟨outcome, settled⟩ := comes before
    cases settled.settles found
    exact ⟨rfl, rfl⟩
  · intro before
    obtain ⟨outcome, settled⟩ := comes before
    exact settled.ends

/-- Every part of the parser restores the counters. -/
theorem restores_parts
    : Restores condition ∧ (∀ degree, Restores (operation · degree)) ∧ Restores operand
      ∧ Restores postfixed ∧ Restores atom ∧ (∀ close, Restores (list · close))
      ∧ ∀ close, Restores (items · close) := by
  have sound (depth links : Nat) : IsSound .condition ((level (maxDepth - depth)).whole links) :=
    (isSound_level (maxDepth - depth)).1 links
  have whole (depth chain : Nat) := (counts_level depth).1 chain
  have operands (depth chain : Nat) := (counts_level depth).2 chain
  refine ⟨?_, fun degree => ?_, ?_, ?_, ?_, fun close => ?_, fun close => ?_⟩ <;>
    refine restores_of_counts fun depth chain => ?_
  · exact ⟨_, whole depth chain⟩
  · exact ⟨_, counts_operation (operands depth) degree chain⟩
  · exact ⟨_, operands depth chain⟩
  · exact ⟨_, counts_postfixed (sound depth) (whole depth)⟩
  · exact ⟨_, counts_atom (sound depth _) (whole depth chain)⟩
  · exact ⟨_, counts_list (sound depth _) (whole depth chain) close⟩
  · exact ⟨fun tokens => Expr.items close _ (tokens.length + 1) tokens, fun tokens =>
      comes_items (sound depth _) (whole depth chain) close (Nat.lt_succ_self _)⟩

end FormWizard.Expr.Counting
