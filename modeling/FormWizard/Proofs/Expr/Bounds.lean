import FormWizard.Proofs.Expr.Completeness

/-! How long a source must be to reach a bound of the parser. Every level of nesting is opened by a
token of its own, and every link of a chain is added by one. So a source of fewer tokens than there
are levels reaches no bound, and the parser accepts it just in case the grammar derives it.
-/

namespace FormWizard.Expr

-----------------------------------------------------------------------------------------
-- Tokens that are taken
-----------------------------------------------------------------------------------------

section

variable {α β : Type} {depth links count : Nat}

/-- A result of reading so many tokens: no more of them are left, and a bound was reached only if
they were enough to open so many levels and to add more than so many links.
-/
structure Takes (depth links count : Nat) (result : Except Stuck (α × List Lexed)) : Prop where
  leaves : ∀ {value rest}, result = .ok (value, rest) → rest.length ≤ count
  nested : ∀ {stuck}, result = .error stuck → stuck.fault = .nestedTooDeeply → depth ≤ count
  chained : ∀ {stuck}, result = .error stuck → stuck.fault = .chainTooLong → links < count

theorem takes_ok (value : α) {rest : List Lexed} (le : rest.length ≤ count)
    : Takes depth links count (.ok (value, rest)) := by
  constructor
  · rintro _ _ ⟨⟩
    exact le
  · rintro _ ⟨⟩
  · rintro _ ⟨⟩

theorem takes_error {stuck : Stuck} (unbound : ¬stuck.fault.IsBound)
    : Takes depth links count (.error stuck : Except Stuck (α × List Lexed)) := by
  constructor
  · rintro _ _ ⟨⟩
  · rintro _ ⟨⟩ bound
    exact absurd (.inl bound) unbound
  · rintro _ ⟨⟩ bound
    exact absurd (.inr bound) unbound

/-- Behind tokens that were taken, as many levels and links are allowed for besides. -/
theorem Takes.behind {result : Except Stuck (α × List Lexed)} (h : Takes depth links count result)
    {depth' links' count' : Nat} (levels : depth' + count ≤ depth + count')
    (chain : links' + count ≤ links + count') (more : count ≤ count')
    : Takes depth' links' count' result := by
  constructor
  · intro value rest read
    have := h.leaves read
    omega
  · intro stuck failed bound
    have := h.nested failed bound
    omega
  · intro stuck failed bound
    have := h.chained failed bound
    omega

theorem Takes.bind {first : Except Stuck (α × List Lexed)} (h : Takes depth links count first)
    {next : α × List Lexed → Except Stuck (β × List Lexed)}
    (h' : ∀ value rest, rest.length ≤ count → Takes depth links count (next (value, rest)))
    : Takes depth links count (first >>= next) := by
  cases first with
  | ok read => exact h' read.1 read.2 (h.leaves rfl)
  | error stuck =>
      constructor
      · rintro _ _ ⟨⟩
      · rintro _ ⟨⟩
        exact h.nested rfl
      · rintro _ ⟨⟩
        exact h.chained rfl

theorem length_tail_of_peek {tokens : List Lexed} {token : Token} (next : peek tokens = token)
    (goesOn : token ≠ .finish)
    : tokens.tail.length + 1 = tokens.length := by
  obtain ⟨lexed, split, -⟩ := eq_cons_of_peek next goesOn
  rw [split]
  rfl

theorem takes_expect {sign : Symbol} {tokens : List Lexed}
    {next : List Lexed → Except Stuck (α × List Lexed)}
    (h : ∀ rest, rest.length + 1 = tokens.length → Takes depth links count (next rest))
    : Takes depth links count (expect sign tokens >>= next) := by
  unfold expect
  split
  · exact h tokens.tail (length_tail_of_peek ‹_› (by simp))
  · exact takes_error (by simp [Fault.IsBound])

end

-----------------------------------------------------------------------------------------
-- Parsers
-----------------------------------------------------------------------------------------

/-- The parser takes a token for every level of nesting and for every link. -/
def Spends {α : Type} (depth links : Nat) (parse : Parse α) : Prop :=
  ∀ tokens, Takes depth links tokens.length (parse tokens)

section

variable {depth links : Nat} {item : Parse Expr} {inner nested operand : ParseWithin Expr}

theorem spends_tooDeep (links : Nat) : Spends 0 links (tooDeep links) := by
  intro tokens
  constructor
  · rintro _ _ ⟨⟩
  · exact fun _ _ => Nat.zero_le _
  · rintro _ ⟨⟩ ⟨⟩

theorem spends_items (h : Spends depth links item) (close : Symbol) (count : Nat)
    : Spends depth links (items close item count) := by
  induction count with
  | zero => exact fun tokens => takes_error (by simp [Fault.IsBound])
  | succ count ih =>
      intro tokens
      rw [items]
      refine (h tokens).bind fun first behind le => ?_
      dsimp only
      split
      · exact takes_ok _ (by rw [List.length_tail]; omega)
      · refine takes_expect fun rest taken => ?_
        refine ((ih rest).behind (by omega) (by omega) (by omega)).bind fun others last le => ?_
        exact takes_ok _ le

theorem spends_list (h : Spends depth links item) (close : Symbol)
    : Spends depth links (list close item) := by
  intro tokens
  rw [list]
  split
  · exact takes_ok _ (by rw [List.length_tail]; omega)
  · exact spends_items h close _ tokens

theorem spends_primary (h : Spends depth links item) : Spends (depth + 1) links (primary item) := by
  intro tokens
  cases tokens with
  | nil => exact takes_error (by simp [Fault.IsBound])
  | cons lexed rest =>
      rw [primary, List.length_cons]
      split
      · split
        · exact takes_ok _ (Nat.le_succ _)
        · exact takes_error (by simp [Fault.IsBound])
      · exact takes_ok _ (Nat.le_succ _)
      · exact takes_ok _ (Nat.le_succ _)
      · refine ((h rest).behind (by omega) (by omega) (Nat.le_succ _)).bind fun tree behind le => ?_
        refine takes_expect fun last taken => ?_
        exact takes_ok _ (by omega)
      · refine ((spends_list h _ rest).behind (by omega) (by omega) (Nat.le_succ _)).bind ?_
        exact fun trees behind le => takes_ok _ le
      · exact takes_error (by simp [Fault.IsBound])

/-- Each member and each index is a link with a token of its own, by induction on the links that are
left.
-/
theorem spends_accesses (h : ∀ links, Spends depth links (inner links)) (links : Nat)
    (target : Expr)
    : Spends (depth + 1) links (accesses inner links target) := by
  intro tokens
  fun_induction accesses inner links target tokens with
  | case1 target tokens next | case2 target tokens next =>
      have := length_tail_of_peek next (by simp)
      constructor
      · rintro _ _ ⟨⟩
      · rintro _ ⟨⟩ ⟨⟩
      · exact fun _ _ => by omega
  | case3 target tokens links next name named ih =>
      have := length_tail_of_peek next (by simp)
      have := length_tail_of_peek named (by simp)
      exact ih.behind (by omega) (by omega) (by omega)
  | case4 => exact takes_error (by simp [Fault.IsBound])
  | case5 target tokens links next ih =>
      have := length_tail_of_peek next (by simp)
      refine ((h links tokens.tail).behind (by omega) (by omega) (by omega)).bind ?_
      intro position behind le
      refine takes_expect fun rest taken => ?_
      exact (ih position rest).behind (by omega) (by omega) (by omega)
  | case6 => exact takes_error (by simp [Fault.IsBound])
  | case7 => exact takes_ok _ (Nat.le_refl _)

theorem spends_postfixed (h : ∀ links, Spends depth links (inner links)) (links : Nat)
    : Spends (depth + 1) links (postfixed inner links) := by
  intro tokens
  rw [postfixed]
  refine (spends_primary (h links) tokens).bind fun first behind le => ?_
  dsimp only
  split
  · rename_i next
    have := length_tail_of_peek next (by simp)
    have listed := spends_list (h links) .closeParen behind.tail
    refine (listed.behind (by omega) (by omega) (by omega)).bind fun args rest le' => ?_
    exact (spends_accesses h links _ rest).behind (by omega) (by omega) le'
  · exact (spends_accesses h links _ behind).behind (by omega) (by omega) le

theorem spends_signed (h : ∀ links, Spends depth links (inner links))
    (h' : ∀ links, Spends depth links (nested links)) (links : Nat)
    : Spends (depth + 1) links (signed inner nested links) := by
  intro tokens
  unfold signed
  split
  · rename_i op sign
    obtain ⟨token, next, -⟩ := unaryOp?_eq_some_iff.mp sign
    have := length_tail_of_peek next (by simp)
    refine ((h' links tokens.tail).behind (by omega) (by omega) (by omega)).bind ?_
    exact fun tree behind le => takes_ok _ le
  · exact spends_postfixed h links tokens

/-- Each operator is a link with a token of its own, by induction on the links that are left. -/
theorem spends_chain {degree : Nat} (h : ∀ links, Spends depth links (operand links))
    (links : Nat) (left : Expr)
    : Spends depth links (chain degree operand links left) := by
  intro tokens
  fun_induction chain degree operand links left tokens with
  | case1 => exact takes_ok _ (Nat.le_refl _)
  | case2 left tokens op between =>
      obtain ⟨sign, next, -⟩ := binaryOp?_eq_some_iff.mp between
      have := length_tail_of_peek next (by simp)
      constructor
      · rintro _ _ ⟨⟩
      · rintro _ ⟨⟩ ⟨⟩
      · exact fun _ _ => by omega
  | case3 left tokens op links between ih =>
      obtain ⟨sign, next, -⟩ := binaryOp?_eq_some_iff.mp between
      have := length_tail_of_peek next (by simp)
      have read : Takes depth links tokens.tail.length (operand links tokens.tail) :=
        h links tokens.tail
      refine (read.bind fun right behind le => ?_).behind (by omega) (by omega) (by omega)
      exact (ih right behind).behind (by omega) (by omega) le

theorem spends_operation (h : ∀ links, Spends depth links (operand links)) (degree links : Nat)
    : Spends depth links (operation operand degree links) := by
  induction degree generalizing links with
  | zero => exact h links
  | succ degree ih =>
      intro tokens
      rw [operation]
      refine (ih links tokens).bind fun left behind le => ?_
      exact (spends_chain ih links left behind).behind (by omega) (by omega) le

theorem spends_branching (h : ∀ links, Spends (depth + 1) links (operand links))
    (h' : ∀ links, Spends depth links (inner links)) (links : Nat)
    : Spends (depth + 1) links (branching operand inner links) := by
  intro tokens
  rw [branching]
  refine (spends_operation h looseness links tokens).bind fun condition behind le => ?_
  dsimp only
  split
  · rename_i next
    have := length_tail_of_peek next (by simp)
    have first := h' links behind.tail
    refine (first.behind (by omega) (by omega) (by omega)).bind fun yes behind' le' => ?_
    refine takes_expect fun rest taken => ?_
    dsimp only at taken
    refine ((h' links rest).behind (by omega) (by omega) (by omega)).bind fun no last le => ?_
    exact takes_ok _ le
  · exact takes_ok _ le

end

/-- The parsers of every level take a token for each level below, by induction on the levels that
are left. An operand may start with a token of its own.
-/
theorem spends_level (depth : Nat)
    : (∀ links, Spends depth links ((level depth).whole links))
      ∧ ∀ links, Spends (depth + 1) links ((level depth).operand links) := by
  induction depth with
  | zero => exact ⟨spends_tooDeep, spends_signed spends_tooDeep spends_tooDeep⟩
  | succ depth ih =>
      have whole := spends_branching ih.2 ih.1
      exact ⟨whole, spends_signed whole ih.2⟩

-----------------------------------------------------------------------------------------
-- Sources
-----------------------------------------------------------------------------------------

variable {source : String} {tokens : List Lexed}

/-- A source at which the parser reaches a bound has a token for every level of nesting, or more
tokens than the links that its chains may have.
-/
theorem length_of_bound (h : lex source = .ok tokens) {error : ParseError}
    (failed : parse source = .error error)
    : (error.fault = .nestedTooDeeply → maxDepth ≤ tokens.length)
      ∧ (error.fault = .chainTooLong → maxLinks < tokens.length) := by
  have read : Takes maxDepth maxLinks tokens.length ((level maxDepth).whole maxLinks tokens) :=
    (spends_level maxDepth).1 maxLinks tokens
  rw [parse_of_lex h] at failed
  cases found : ofTokens tokens with
  | ok tree =>
      rw [found] at failed
      cases failed
  | error stuck =>
      rw [found] at failed
      cases failed
      rw [ofTokens] at found
      cases whole : (level maxDepth).whole maxLinks tokens with
      | error cause =>
          rw [whole] at found
          cases found
          exact ⟨read.nested whole, read.chained whole⟩
      | ok result =>
          rw [whole] at found
          replace found : (if result.2.isEmpty then .ok result.1
              else .error ⟨result.2, .trailing (peek result.2)⟩ : Except Stuck Expr)
            = .error stuck := found
          split at found
          · cases found
          · cases found
            constructor <;> rintro ⟨⟩

/-- On sources of fewer tokens than there are levels of nesting the parser accepts what the grammar
derives, and nothing else.
-/
theorem parse_ok_iff_of_length_lt (h : lex source = .ok tokens) (few : tokens.length < maxDepth)
    {tree : Expr}
    : parse source = .ok tree ↔ Derives .condition (bare tokens) tree := by
  refine ⟨derives_of_parse h, fun derived => ?_⟩
  rcases derived.parse_or_bound h with accepted | ⟨error, failed, bound⟩
  · exact accepted
  · obtain ⟨nested, chained⟩ := length_of_bound h failed
    have links : maxDepth ≤ maxLinks := by decide
    rcases bound with deep | long
    · exact absurd (nested deep) (by omega)
    · exact absurd (chained long) (by omega)

end FormWizard.Expr
