import FormWizard.Proofs.Expr.Blame
import FormWizard.Proofs.Expr.Lexing

/-! Where a rejected source is reported. The token that the report names is the first one with which
no expression goes on. The offset is that of the token itself, or, where the parser has already
stepped over the token, that of the one behind it.
-/

namespace FormWizard.Expr

-----------------------------------------------------------------------------------------
-- Fronts of expressions
-----------------------------------------------------------------------------------------

/-- The tokens are those of an expression, and the end. -/
def IsComplete (tokens : List Token) : Prop :=
  ∃ whole tree, tokens = whole ++ [.finish] ∧ Derives .condition whole tree

/-- Something can follow the tokens, so that they are those of an expression, and the end. -/
def IsFront (tokens : List Token) : Prop :=
  ∃ more, IsComplete (tokens ++ more)

theorem Opens.isFront {tokens : List Token} (h : Opens .condition tokens) : IsFront tokens := by
  obtain ⟨more, tree, derived⟩ := h
  exact ⟨more ++ [.finish], tokens ++ more, tree, (List.append_assoc _ _ _).symm, derived⟩

theorem Derives.not_refuses {tokens : List Lexed} {tree : Expr}
    (h : Derives .condition (bare tokens) tree)
    : ¬Refuses (ofTokens tokens) := by
  have whole := h.completes maxDepth maxLinks rfl (.inl rfl : (peek []).IsClosing)
  rw [List.append_nil] at whole
  have read : Attains (ofTokens tokens) (.ok tree) := whole.bind (.refl _)
  rintro ⟨stuck, failed, unbound⟩
  rcases read with found | ⟨stuck', found, bound⟩
  · cases found.symm.trans failed
  · cases found.symm.trans failed
    exact unbound bound

/-- The token that is named is the first one with which no expression goes on. It is not the end if
it is trailing, since nothing trails in front of the end.
-/
theorem ofTokens_blames {tokens : List Lexed} (visible : Token.finish ∉ bare tokens) {stuck : Stuck}
    {named : Token} (failed : ofTokens tokens = .error stuck)
    (names : stuck.fault.named? = some named)
    : ∃ read rest, tokens = read ++ rest
      ∧ IsBlamed (Opens .condition) ofTokens stuck named read rest := by
  have predictive := (isPredictive_level maxDepth).1 maxLinks
  cases first : (level maxDepth).whole maxLinks tokens with
  | error found =>
      simp only [ofTokens, first] at failed
      cases failed
      obtain ⟨read, rest, rfl, blamed⟩ := predictive.blames.splits first names
      exact ⟨read, rest, rfl, blamed.next, blamed.place, blamed.opens,
        fun same isNext => (blamed.refuses same isNext).bind _⟩
  | ok result =>
      obtain ⟨tree, rest⟩ := result
      obtain ⟨read, rfl, again⟩ := predictive.isLocal.rereads first
      have derived := Reads.derives ⟨read, rest, first, rfl⟩ predictive.sound
      cases rest with
      | nil => cases (ofTokens_ok_iff.mpr first).symm.trans failed
      | cons lexed rest =>
          simp only [ofTokens, first] at failed
          cases failed
          cases names
          refine ⟨read, lexed :: rest, rfl, rfl, rfl, ⟨[], tree, by simpa using derived⟩, ?_⟩
          intro read' rest' same isNext
          cases rest' with
          | nil => exact (visible (by simp [show lexed.token = .finish from isNext.symm])).elim
          | cons lexed' rest' =>
              have reread := again (lexed' :: rest') same (.inl isNext.symm)
              simp only [ofTokens, reread]
              exact refuses_error rfl

/-- Nothing that goes on with the token that is blamed is an expression. -/
theorem IsBlamed.not_isFront {opens : List Token → Prop} {stuck : Stuck} {named : Token}
    {read rest : List Lexed} (h : IsBlamed opens ofTokens stuck named read rest)
    : ¬IsFront (bare read ++ [named]) := by
  rintro ⟨more, whole, tree, split, derived⟩
  rcases List.eq_nil_or_concat more with rfl | ⟨others, last, rfl⟩
  · rw [List.append_nil] at split
    obtain ⟨rfl, isLast⟩ := List.append_inj' split rfl
    obtain rfl := (List.cons.inj isLast).1
    refine derived.not_refuses ?_
    have refused := h.refuses rfl (rfl : peek [] = .finish)
    rwa [List.append_nil] at refused
  · rw [List.concat_eq_append, ← List.append_assoc] at split
    obtain ⟨rfl, -⟩ := List.append_inj' split rfl
    have spelled : bare (read ++ ⟨named, 0⟩ :: others.map (⟨·, 0⟩))
        = bare read ++ [named] ++ others := by
      simp [bare, Function.comp_def]
    rw [← spelled] at derived
    exact derived.not_refuses (h.refuses rfl rfl)

-----------------------------------------------------------------------------------------
-- Offsets
-----------------------------------------------------------------------------------------

theorem Stands.ne_finish {behind text : List Char} {token : Token} (h : Stands behind text token)
    : token ≠ .finish := by
  cases h <;> simp

/-- The end is not among the tokens of a text, by induction on the way the text is cut. -/
theorem finish_not_mem_of_lexFrom {offset : Nat} {chars : List Char} {tokens : List Lexed}
    (cut : lexFrom offset chars = .ok tokens)
    : Token.finish ∉ bare tokens := by
  induction offset, chars using lexing_induction generalizing tokens with
  | finish offset =>
      rw [lexFrom_nil] at cut
      cases cut
      simp
  | blank offset c rest isBlank ih =>
      rw [lexFrom_blank offset isBlank] at cut
      exact ih cut
  | failed offset c rest fault visible stuck =>
      rw [lexFrom_error offset visible stuck] at cut
      cases cut
  | token offset text behind token stands ih =>
      rw [stands.lexFrom] at cut
      cases later : lexFrom (offset + byteSize text) behind with
      | error error =>
          rw [later] at cut
          cases cut
      | ok others =>
          rw [later] at cut
          cases cut
          have apart := stands.ne_finish
          simpa [eq_comm, apart] using ih later

/-- The token behind another starts behind it. -/
theorem offset_lt_offsetOf {source : String} {read others : List Lexed} {lexed : Lexed}
    (cut : lexToEnd source
      = .ok (read ++ lexed :: others ++ [⟨.finish, source.utf8ByteSize⟩]))
    : lexed.offset < offsetOf source.utf8ByteSize others := by
  rw [lexToEnd_eq] at cut
  have increasing := (lexToEndFrom_eq_ok_iff.mp cut).increasing
  rw [List.append_assoc, List.cons_append] at increasing
  have behind := (List.pairwise_cons.mp (List.pairwise_append.mp increasing).2.1).1
  exact behind _ (List.mem_of_mem_head? (head?_append_finish others source.utf8ByteSize))

theorem parse_error_iff {source : String} {error : ParseError} {tokens : List Lexed}
    (cut : lex source = .ok tokens)
    : parse source = .error error
      ↔ ∃ stuck, ofTokens tokens = .error stuck
        ∧ error = ⟨offsetOf source.utf8ByteSize stuck.tokens, stuck.fault⟩ := by
  rw [parse, cut]
  show (ofTokens tokens).mapError _ = _ ↔ _
  cases ofTokens tokens <;> simp [Except.mapError, eq_comm]

/-- A parse error that names a token names the first one with which no expression goes on: what is
in front of it is the front of an expression, and with it is not. The offset of the error is where
that token starts, unless the parser has taken it already and it is not the end; then the offset is
that of the token behind it.
-/
theorem offset_of_named {source : String} {tokens : List Lexed} {error : ParseError}
    {named : Token} (lexed : lexToEnd source = .ok tokens) (refused : parse source = .error error)
    (names : error.fault.named? = some named)
    : ∃ before blamed behind, tokens = before ++ blamed :: behind ∧ blamed.token = named
        ∧ IsFront (bare before) ∧ ¬IsFront (bare before ++ [named])
        ∧ error.offset = (if error.fault.isPast then behind.headD blamed else blamed).offset
        ∧ (error.offset = blamed.offset ↔ error.fault.isPast = false ∨ named = .finish) := by
  cases cut : lex source with
  | error found =>
      rw [lexToEnd, cut] at lexed
      cases lexed
  | ok visible =>
      have whole := lexed
      rw [lexToEnd, cut] at lexed
      cases lexed
      obtain ⟨stuck, failed, rfl⟩ := (parse_error_iff cut).mp refused
      have unended := finish_not_mem_of_lexFrom cut
      obtain ⟨read, rest, rfl, blamed⟩ := ofTokens_blames unended failed names
      have ends := blamed.not_isFront
      obtain ⟨rfl, place, opens, -⟩ := blamed
      cases rest with
      | nil =>
          refine ⟨read, ⟨.finish, source.utf8ByteSize⟩, [], by simp, rfl, opens.isFront, ends, ?_⟩
          have place : stuck.tokens = [] := by simpa using place
          simp [place, offsetOf, peek]
      | cons lexed others =>
          refine ⟨read, lexed, others ++ [⟨.finish, source.utf8ByteSize⟩], by simp, rfl,
            opens.isFront, ends, ?_⟩
          have later := offset_lt_offsetOf whole
          have apart : lexed.token ≠ .finish := by
            intro same
            exact unended (by simp [same])
          cases past : stuck.fault.isPast with
          | false => simp [place, past, offsetOf]
          | true =>
              have next : (others ++ [(⟨.finish, source.utf8ByteSize⟩ : Lexed)]).headD lexed
                  = ⟨peek others, offsetOf source.utf8ByteSize others⟩ := by
                rw [List.headD_eq_head?_getD, head?_append_finish, Option.getD_some]
              rw [next]
              simp [place, past, peek, apart, later.ne']

theorem eq_ok_of_toOption {ε α : Type} {result : Except ε α} {value : α}
    (h : result.toOption = some value)
    : result = .ok value := by
  cases result with
  | error error => cases h
  | ok found => exact congrArg _ (Option.some.inj h)

/-- The tokens of two names behind a parenthesis. -/
def unclosedTokens : List Lexed :=
  [⟨.symbol .openParen, 0⟩, ⟨.ident "a", 1⟩, ⟨.ident "b", 3⟩]

/-- The second name is reported where it starts. -/
theorem offset_of_named_unclosed
    : lexToEnd "(a b" = .ok (unclosedTokens ++ [⟨.finish, 4⟩])
      ∧ parse "(a b" = .error ⟨3, .expected .closeParen (.ident "b")⟩
      ∧ ∃ before behind, unclosedTokens ++ [⟨.finish, 4⟩] = before ++ ⟨.ident "b", 3⟩ :: behind
        ∧ IsFront (bare before) ∧ ¬IsFront (bare before ++ [.ident "b"]) := by
  have cut : lex "(a b" = .ok unclosedTokens := eq_ok_of_toOption (by decide +kernel)
  have lexed : lexToEnd "(a b" = .ok (unclosedTokens ++ [⟨.finish, 4⟩]) := by
    rw [lexToEnd, cut]
    rfl
  have refused : parse "(a b" = .error ⟨3, .expected .closeParen (.ident "b")⟩ :=
    (parse_error_iff cut).mpr ⟨_, rfl, rfl⟩
  refine ⟨lexed, refused, ?_⟩
  obtain ⟨before, ⟨token, offset⟩, behind, split, rfl, opens, ends, -, same⟩ :=
    offset_of_named lexed refused rfl
  obtain rfl := same.mpr (.inl rfl)
  exact ⟨before, behind, split, opens, ends⟩

/-- The tokens of two operands with two signs between them. -/
def doubledTokens : List Lexed :=
  [⟨.ident "a", 0⟩, ⟨.symbol .plus, 2⟩, ⟨.symbol .star, 4⟩, ⟨.ident "b", 6⟩]

/-- The second sign is not reported where it starts, but where the operand behind it does. -/
theorem not_offset_of_named_doubled
    : ¬∀ {source : String} {tokens : List Lexed} {error : ParseError} {named : Token},
        lexToEnd source = .ok tokens → parse source = .error error →
        error.fault.named? = some named → ⟨named, error.offset⟩ ∈ tokens := by
  have cut : lex "a + * b" = .ok doubledTokens := eq_ok_of_toOption (by decide +kernel)
  have lexed : lexToEnd "a + * b" = .ok (doubledTokens ++ [⟨.finish, 7⟩]) := by
    rw [lexToEnd, cut]
    rfl
  have refused : parse "a + * b" = .error ⟨6, .unexpected (.symbol .star)⟩ :=
    (parse_error_iff cut).mpr ⟨_, rfl, rfl⟩
  intro claimed
  have member := claimed lexed refused rfl
  simp [doubledTokens] at member

end FormWizard.Expr
