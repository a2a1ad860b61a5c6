import FormWizard.Proofs.Expr.Access
import FormWizard.Proofs.Expr.Counters
import FormWizard.Proofs.Expr.Towers

/-! Arguments do not use up what there is for each other: those that are accepted each on its own
are accepted side by side.
-/

namespace FormWizard.Expr

-----------------------------------------------------------------------------------------
-- Cutting in front of a closer
-----------------------------------------------------------------------------------------

/-- A comma or a closing parenthesis. No other token goes on with either. -/
def IsCloser (c : Char) : Prop :=
  c = ',' ∨ c = ')'

section

variable {c d : Char}

/-- No closer is a part of a number or a name. -/
theorem IsCloser.apart (h : IsCloser c)
    : c.isDigit = false ∧ c ≠ '.' ∧ c ≠ 'e' ∧ c ≠ 'E' ∧ c ≠ '+' ∧ c ≠ '-'
      ∧ isNamePart c = false := by
  rcases h with rfl | rfl <;> decide

/-- A run of characters ends in front of a closer, if not before. -/
theorem IsCloser.span {isPart : Char → Bool} (noPart : isPart c = false) (text rest : List Char)
    : (text ++ c :: rest).takeWhile isPart = text.takeWhile isPart
      ∧ (text ++ c :: rest).dropWhile isPart = text.dropWhile isPart ++ c :: rest := by
  induction text with
  | nil => simp [noPart]
  | cons first text ih =>
      rw [List.cons_append, List.takeWhile_cons, List.dropWhile_cons, List.takeWhile_cons,
        List.dropWhile_cons]
      split
      · exact ⟨congrArg _ ih.1, ih.2⟩
      · exact ⟨rfl, rfl⟩

theorem IsCloser.startsNumber (h : IsCloser c) {text : List Char} (some : text ≠ [])
    (rest : List Char)
    : startsNumber (text ++ c :: rest) = startsNumber text := by
  obtain ⟨first, others, rfl⟩ := List.exists_cons_of_ne_nil some
  cases others with
  | nil => simp [Expr.startsNumber, h.apart.1]
  | cons second others => rfl

theorem IsCloser.spanExponent (h : IsCloser c) (text rest : List Char)
    : spanExponent (text ++ c :: rest)
      = ((spanExponent text).1, (spanExponent text).2 ++ c :: rest) := by
  obtain ⟨noDigit, -, noE, noBigE, noPlus, noMinus, -⟩ := h.apart
  cases text with
  | nil => simp [Expr.spanExponent, noE, noBigE]
  | cons mark others =>
      rw [List.cons_append, Expr.spanExponent, Expr.spanExponent]
      split
      · cases others with
        | nil => simp [noPlus, noMinus, Text.spanDigits, noDigit]
        | cons sign others =>
            by_cases signed : sign = '+' ∨ sign = '-'
            · obtain ⟨digits, behind⟩ := IsCloser.span noDigit others rest
              simp [signed, Text.spanDigits, digits, behind]
            · obtain ⟨digits, behind⟩ := IsCloser.span noDigit (sign :: others) rest
              rw [List.cons_append] at digits behind
              simp [signed, Text.spanDigits, digits, behind]
      · rfl

theorem IsCloser.spanNumber (h : IsCloser c) (text rest : List Char)
    : spanNumber (text ++ c :: rest)
      = ((spanNumber text).1, (spanNumber text).2 ++ c :: rest) := by
  obtain ⟨noDigit, noPoint, -⟩ := h.apart
  have noBody : (c.isDigit || c == '.') = false := by simp [noDigit, noPoint]
  obtain ⟨front, behind⟩ := @IsCloser.span c (fun c => c.isDigit || c == '.') noBody text rest
  simp only [Expr.spanNumber, front, behind, h.spanExponent]

/-- A sign with a closer in it is that closer. -/
theorem Symbol.length_of_closer (sign : Symbol) (h : IsCloser c)
    (member : c ∈ sign.spelling.toList)
    : sign.spelling.toList.length = 1 := by
  rcases h with rfl | rfl <;> cases sign <;> revert member <;> decide

/-- What stands in front of a closer stands in front of every closer. -/
theorem Stands.ofCloser {behind text : List Char} {token : Token} (closer : IsCloser c)
    (other : IsCloser d) {rest : List Char} (h : Stands (behind ++ c :: rest) text token)
    (rest' : List Char)
    : Stands (behind ++ d :: rest') text token := by
  obtain ⟨first, others, split, -⟩ := h.exists_head
  have filled : text ++ behind ≠ [] := by simp [split]
  have starts : startsNumber (text ++ (behind ++ c :: rest))
      = startsNumber (text ++ (behind ++ d :: rest')) := by
    rw [← List.append_assoc, ← List.append_assoc, closer.startsNumber filled,
      other.startsNumber filled]
  cases h with
  | number isNumber whole spelled =>
      refine .number (starts ▸ isNumber) ?_ spelled
      rw [← List.append_assoc, closer.spanNumber] at whole
      obtain ⟨front, back⟩ := Prod.mk.inj whole
      rw [← List.append_assoc, other.spanNumber, front, List.append_cancel_right back]
  | text opens quoted => exact .text opens quoted
  | name isName parts ends =>
      refine .name isName parts fun next first => ?_
      cases behind with
      | nil =>
          obtain rfl := Option.some.inj first
          exact other.apart.2.2.2.2.2.2
      | cons next' behind => exact ends next first
  | @sign sign noNumber longest =>
      refine .sign (starts ▸ noNumber) fun longer member ⟨more, split⟩ => ?_
      rw [← List.append_assoc] at split
      rcases List.append_eq_append_iff.mp split with ⟨front, same, -⟩ | ⟨front, same, tail⟩
      · refine longest longer member ⟨front ++ c :: rest, ?_⟩
        rw [← List.append_assoc, ← same, List.append_assoc]
      · cases front with
        | nil =>
            refine longest longer member ⟨c :: rest, ?_⟩
            rw [same, List.append_nil, List.append_assoc]
        | cons _ front =>
            obtain ⟨rfl, -⟩ := List.cons.inj tail
            have short := longer.length_of_closer other (by simp [same])
            have pos := sign.spelling_length_pos
            omega

end

theorem IsCutInto.blank {tokens : List Token} {text : List Char} (h : IsCutInto tokens text)
    {c : Char} (isBlank : isSpace c = true)
    : IsCutInto tokens (c :: text) := by
  intro offset
  obtain ⟨lexed, cut, spelled⟩ := h (offset + 1)
  exact ⟨lexed, by rw [lexFrom_blank offset isBlank, cut], spelled⟩

/-- In front of a closer, the text is cut into the tokens, whatever is behind it. -/
def IsCutBefore (tokens : List Token) (text : List Char) : Prop :=
  ∀ {c : Char} {rest : List Char} {others : List Token}, IsCloser c → IsCutInto others (c :: rest) →
    IsCutInto (tokens ++ others) (text ++ c :: rest)

/-- No token but the closing parenthesis itself ends with one. -/
theorem Stands.eq_nil_of_closeParen {behind text : List Char} {token : Token}
    (h : Stands behind (text ++ [')']) token)
    : text = [] := by
  have closer : IsCloser ')' := .inr rfl
  generalize same : text ++ [')'] = piece at h
  have member : ')' ∈ piece := by simp [← same]
  cases h with
  | number isNumber whole spelled =>
      rw [← same, List.append_assoc, List.singleton_append, closer.spanNumber] at whole
      have tooLong := congrArg List.length (Prod.mk.inj whole).2
      simp only [List.length_append, List.length_cons] at tooLong
      omega
  | @text quote written content opens quoted =>
      have last := congrArg List.getLast? same
      simp only [List.getLast?_append, List.getLast?_singleton, Option.some_or,
        Option.some.injEq] at last
      subst last
      cases opens
  | name isName parts ends =>
      rcases List.mem_cons.mp member with rfl | member
      · cases isName
      · cases parts _ member
  | @sign sign noNumber longest =>
      have short := sign.length_of_closer closer member
      rw [← same, List.length_append, List.length_singleton] at short
      exact List.length_eq_zero_iff.mp (by omega)

/-- The tokens in front of a closing parenthesis are those of the text on its own. Witness:
induction on the way the text is cut.
-/
theorem exists_isCutBefore {offset : Nat} {text : List Char} {lexed : List Lexed}
    (cut : lexFrom offset (text ++ [')']) = .ok lexed)
    : ∃ tokens, bare lexed = tokens ++ [.symbol .closeParen] ∧ IsCutBefore tokens text := by
  have closer : IsCloser ')' := .inr rfl
  generalize same : text ++ [')'] = chars at cut
  induction offset, chars using lexing_induction generalizing text lexed with
  | finish offset => simp at same
  | blank offset c rest isBlank ih =>
      rw [lexFrom_blank offset isBlank] at cut
      cases text with
      | nil =>
          cases same
          cases isBlank
      | cons first text =>
          obtain ⟨rfl, shorter⟩ := List.cons.inj same
          obtain ⟨tokens, spelled, before⟩ := ih shorter cut
          exact ⟨tokens, spelled, fun closes others => (before closes others).blank isBlank⟩
  | failed offset c rest fault visible stuck =>
      rw [lexFrom_error offset visible stuck] at cut
      cases cut
  | token offset piece behind token stands ih =>
      rw [stands.lexFrom] at cut
      rcases List.eq_nil_or_concat behind with rfl | ⟨front, last, shape⟩
      · rw [List.append_nil] at same
        subst same
        obtain rfl := stands.eq_nil_of_closeParen
        have isClose : scan ')' [] = .ok ⟨.symbol .closeParen, 1, []⟩ := rfl
        cases isClose.symm.trans (stands.scan rfl)
        rw [lexFrom_nil] at cut
        cases cut
        exact ⟨[], rfl, fun _ others => others⟩
      · rw [List.concat_eq_append] at shape
        subst shape
        rw [← List.append_assoc] at same
        obtain ⟨rfl, isLast⟩ := List.append_inj' same rfl
        obtain rfl := (List.cons.inj isLast).1
        cases later : lexFrom (offset + byteSize piece) (front ++ [')']) with
        | error error =>
            rw [later] at cut
            cases cut
        | ok others =>
            rw [later] at cut
            cases cut
            obtain ⟨tokens, spelled, before⟩ := ih rfl later
            refine ⟨token :: tokens, by simp [spelled], fun closes others => ?_⟩
            rw [List.append_assoc]
            exact (before closes others).stands (stands.ofCloser closer closes _)

-----------------------------------------------------------------------------------------
-- Calls
-----------------------------------------------------------------------------------------

/-- Where a name stands in front, only that name derives a name. -/
theorem Derives.eq_name {phrase : Phrase} {tokens : List Token} {tree : Expr}
    (h : Derives phrase tokens tree) {name : String} (same : tree = .ident name) {first : String}
    (starts : tokens.head? = some (.ident first))
    : tokens = [.ident name] ∧ name ∉ constants.map Prod.fst := by
  induction h with
  | plain _ ih | tighter _ ih | single _ ih | unsigned _ ih | alone _ ih => exact ih same starts
  | name free =>
      cases same
      exact ⟨rfl, free⟩
  | group _ _ => cases starts
  | _ => cases same

/-- Where a name stands in front, only a call of that name derives a call. -/
theorem Derives.exists_call {phrase : Phrase} {tokens : List Token} {tree : Expr}
    (h : Derives phrase tokens tree) {function : String} {args : List Expr}
    (same : tree = .call function args) {first : String}
    (starts : tokens.head? = some (.ident first))
    : function ∉ constants.map Prod.fst ∧ ∃ parts : List (List Token × Expr),
      tokens = .ident function :: .symbol .openParen
          :: (commaSeparated (parts.map Prod.fst) ++ [.symbol .closeParen])
        ∧ parts.map Prod.snd = args ∧ ∀ part ∈ parts, Derives .condition part.1 part.2 := by
  induction h with
  | plain _ ih | tighter _ ih | single _ ih | unsigned _ ih | alone _ ih => exact ih same starts
  | call front parts each =>
      cases same
      obtain ⟨token, rest, rfl, -⟩ := front.starts
      obtain ⟨named, free⟩ := front.eq_name rfl starts
      exact ⟨free, parts, by rw [named]; rfl, rfl, each⟩
  | group _ _ => cases starts
  | _ => cases same

/-- The text is one argument of a call: its tokens are read as its tree in front of whatever ends an
argument.
-/
structure IsArgument (text : List Char) (tokens : List Token) (tree : Expr) : Prop where
  cut : IsCutBefore tokens text
  derives : Derives .condition tokens tree
  reads
    : ∀ {front rest : List Lexed}, bare front = tokens → (peek rest).IsClosing →
        (level 63).whole maxLinks (front ++ rest) = .ok (tree, rest)

/-- An operation that is read starts with an operand that is read. -/
theorem exists_operand_of_operation {operand : ParseWithin Expr} {degree links : Nat}
    {tokens : List Lexed} {result : Expr × List Lexed}
    (read : operation operand degree links tokens = .ok result)
    : ∃ result, operand links tokens = .ok result := by
  induction degree generalizing result with
  | zero => exact ⟨result, read⟩
  | succ degree ih =>
      rw [operation, bind_ok_iff] at read
      obtain ⟨left, read, -⟩ := read
      exact ih read

/-- An argument of a call that is accepted was read on the way. -/
theorem exists_item_of_whole {depth links : Nat} {name opening : Lexed} {rest : List Lexed}
    {function : String} (isName : name.token = .ident function)
    (free : function ∉ constants.map Prod.fst) (opens : opening.token = .symbol .openParen)
    {result : Expr × List Lexed} (some : peek rest ≠ .symbol .closeParen)
    (read : (level (depth + 1)).whole links (name :: opening :: rest) = .ok result)
    : ∃ result, (level depth).whole links rest = .ok result := by
  obtain ⟨condition, tested, -⟩ := bind_ok_iff.mp read
  obtain ⟨operand, read⟩ := exists_operand_of_operation tested
  rw [operand_eq_postfixed _ _ (by simp [peek, isName, unaryOp?])] at read
  have atom : primary ((level depth).whole links) (name :: opening :: rest)
      = .ok (.ident function, opening :: rest) := by
    rw [primary, isName, ← ofName_of_free free]
  simp only [postfixed, atom, bind, Except.bind, peek, opens, List.tail_cons] at read
  split at read
  · cases read
  · rename_i listed
    rw [list, if_neg some, items, bind_ok_iff] at listed
    obtain ⟨first, item, -⟩ := listed
    exact ⟨first, item⟩

/-- An argument that was read is read again in front of whatever ends an argument. -/
theorem rereads_argument {depth links : Nat} {name opening last : Lexed} {front : List Lexed}
    {function : String} {tree : Expr} (isName : name.token = .ident function)
    (free : function ∉ constants.map Prod.fst) (opens : opening.token = .symbol .openParen)
    (isLast : last.token = .symbol .closeParen) (derived : Derives .condition (bare front) tree)
    {result : Expr × List Lexed}
    (read : (level (depth + 1)).whole links (name :: opening :: (front ++ [last])) = .ok result)
    : Rereads ((level depth).whole links) front tree (.symbol .closeParen) := by
  have some : peek (front ++ [last]) ≠ .symbol .closeParen := by
    obtain ⟨first, rest, split, notParen, -⟩ := derived.starts
    obtain ⟨lexed, others, rfl, isFirst, -⟩ := List.map_eq_cons_iff.mp split
    simpa [peek, isFirst] using notParen
  obtain ⟨result, item⟩ := exists_item_of_whole isName free opens some read
  have closing : (peek [last]).IsClosing := .inr (.inl isLast)
  have whole : (level depth).whole links (front ++ [last]) = .ok (tree, [last]) := by
    rcases derived.completes depth links rfl closing with whole | ⟨stuck, failed, -⟩
    · exact whole
    · cases item.symm.trans failed
  obtain ⟨read, split, again⟩ := ((isLocal_level depth).1 links).rereads whole
  obtain rfl := List.append_cancel_right split
  rwa [peek, isLast] at again

theorem parse_ok_iff {source : String} {tree : Expr}
    : parse source = .ok tree
      ↔ ∃ lexed, lexFrom 0 source.toList = .ok lexed ∧ ofTokens lexed = .ok tree := by
  rw [parse, bind_ok_iff]
  refine exists_congr fun lexed => and_congr_right fun _ => ?_
  cases ofTokens lexed <;> simp [Except.mapError]

theorem exists_isArgument {function : String} (name : IsIdentifier function) {text : String}
    {tree : Expr} (accepted : parse (function ++ "(" ++ text ++ ")") = .ok (.call function [tree]))
    : function ∉ constants.map Prod.fst ∧ ∃ tokens, IsArgument text.toList tokens tree := by
  obtain ⟨lexed, cut, read⟩ := parse_ok_iff.mp accepted
  have source : (function ++ "(" ++ text ++ ")").toList
      = function.toList ++ ('(' :: (text.toList ++ [')'])) := by
    simp
  have named : Stands ('(' :: (text.toList ++ [')'])) function.toList (.ident function) :=
    name.stands (by rintro _ ⟨⟩; rfl)
  have opening : Stands (text.toList ++ [')']) ['('] (.symbol .openParen) :=
    stands_access rfl rfl rfl
  rw [source, named.lexFrom, ← List.singleton_append, opening.lexFrom] at cut
  cases inside : lexFrom (0 + byteSize function.toList + byteSize ['(']) (text.toList ++ [')']) with
  | error error =>
      rw [inside] at cut
      cases cut
  | ok others =>
      rw [inside] at cut
      cases cut
      obtain ⟨tokens, spelled, before⟩ := exists_isCutBefore inside
      obtain ⟨free, parts, same, trees, each⟩ :=
        (derives_of_ofTokens read).exists_call rfl rfl
      obtain ⟨part, rfl, rfl⟩ := List.map_eq_singleton_iff.mp trees
      have separated : bare others = part.1 ++ [.symbol .closeParen] := by
        simpa [commaSeparated] using same
      obtain rfl := List.append_cancel_right (spelled.symm.trans separated)
      obtain ⟨front, back, rfl, isFront, isBack⟩ := List.map_eq_append_iff.mp spelled
      obtain ⟨last, rfl, isLast⟩ := List.map_eq_singleton_iff.mp isBack
      have derived : Derives .condition (bare front) part.2 := by
        rw [bare, isFront]
        exact each part List.mem_cons_self
      have whole := ofTokens_ok_iff.mp read
      have again : Rereads ((level 63).whole maxLinks) front part.2 (.symbol .closeParen) :=
        rereads_argument rfl free rfl isLast derived whole
      exact ⟨free, part.1, before, each part List.mem_cons_self, fun {_ rest} isRead closing =>
        again rest (isRead.trans isFront.symm) (.inr ⟨.inr (.inl rfl), closing⟩)⟩

-----------------------------------------------------------------------------------------
-- Arguments side by side
-----------------------------------------------------------------------------------------

/-- Items that are read each on its own are read one behind the other. Witness: induction on the
items.
-/
theorem items_of_each {item : Parse Expr} {parts : List (List Token × Expr)}
    (each : ∀ part ∈ parts, ∀ {front rest : List Lexed}, bare front = part.1 →
      (peek rest).IsClosing → item (front ++ rest) = .ok (part.2, rest))
    (nonempty : parts ≠ []) {count : Nat} (enough : parts.length ≤ count) {front : List Lexed}
    {last : Lexed} (spelled : bare front = commaSeparated (parts.map Prod.fst))
    (isLast : last.token = .symbol .closeParen) (back : List Lexed)
    : items .closeParen item count (front ++ last :: back) = .ok (parts.map Prod.snd, back) := by
  induction parts generalizing front count with
  | nil => exact (nonempty rfl).elim
  | cons part rest ih =>
      obtain ⟨count, rfl⟩ : ∃ less, count = less + 1 := ⟨count - 1, by simp at enough; omega⟩
      rw [List.forall_mem_cons] at each
      rw [items, bind_ok_iff]
      cases rest with
      | nil =>
          have alone : bare front = part.1 := by simpa [commaSeparated] using spelled
          exact ⟨_, each.1 alone (.inr (.inl isLast)), if_pos isLast⟩
      | cons next rest =>
          obtain ⟨first, others, rfl, isFirst, areOthers⟩ := List.map_eq_append_iff.mp spelled
          obtain ⟨comma, behind, rfl, isComma, areBehind⟩ := List.map_eq_cons_iff.mp areOthers
          have tail := ih each.2 (by simp) (Nat.le_of_succ_le_succ enough) areBehind
          have another : peek (comma :: (behind ++ last :: back)) ≠ .symbol .closeParen := by
            simp [peek, isComma]
          rw [List.append_assoc]
          refine ⟨_, each.1 isFirst (.inr (.inr (.inr (.inl isComma)))), ?_⟩
          dsimp only
          rw [List.cons_append, if_neg another, bind_ok_iff]
          refine ⟨_, expect_ok_iff.mpr ⟨comma, rfl, isComma⟩, ?_⟩
          exact bind_ok_iff.mpr ⟨_, tail, rfl⟩

/-- A call of a name with such items is all of a source. -/
theorem ofTokens_call {function : String} (free : function ∉ constants.map Prod.fst)
    {parts : List (List Token × Expr)} (derived : ∀ part ∈ parts, Derives .condition part.1 part.2)
    (each : ∀ part ∈ parts, ∀ {front rest : List Lexed}, bare front = part.1 →
      (peek rest).IsClosing → (level 63).whole maxLinks (front ++ rest) = .ok (part.2, rest))
    (nonempty : parts ≠ []) {lexed : List Lexed}
    (spelled : bare lexed = .ident function :: .symbol .openParen
      :: (commaSeparated (parts.map Prod.fst) ++ [.symbol .closeParen]))
    : ofTokens lexed = .ok (.call function (parts.map Prod.snd)) := by
  obtain ⟨name, rest, rfl, isName, spelled⟩ := List.map_eq_cons_iff.mp spelled
  obtain ⟨opening, front, last, rfl, opens, isFront, isLast⟩ := exists_enclosed spelled
  have listed : list .closeParen ((level 63).whole maxLinks) (front ++ [last])
      = .ok (parts.map Prod.snd, []) := by
    obtain ⟨count, enough, same⟩ :=
      exists_list_eq_items _ (.inl rfl) derived nonempty isFront [last]
    rw [same]
    exact items_of_each each nonempty enough isFront isLast []
  have operand : (level 63).operand maxLinks (name :: opening :: (front ++ [last]))
      = .ok (.call function (parts.map Prod.snd), []) := by
    have atom : primary ((level 63).whole maxLinks) (name :: opening :: (front ++ [last]))
        = .ok (.ident function, opening :: (front ++ [last])) := by
      rw [primary, isName, ← ofName_of_free free]
    rw [operand_eq_postfixed _ _ (by simp [peek, isName, unaryOp?]), postfixed, atom]
    simp only [bind, Except.bind, peek, opens, List.tail_cons, listed]
    rfl
  have closing : (peek []).IsClosing := .inl rfl
  exact ofTokens_ok_iff.mpr
    (whole_of_operation (operation_of_operand operand (closing.stops _)) closing)

/-- What is known of a text, its tokens and its tree if it is an argument. -/
abbrev AreArguments (arguments : List (List Char × List Token × Expr)) : Prop :=
  ∀ argument ∈ arguments, IsArgument argument.1 argument.2.1 argument.2.2

/-- Arguments that are cut each in front of a closer are cut side by side. Witness: induction on
them.
-/
theorem isCutInto_arguments {arguments : List (List Char × List Token × Expr)}
    (each : AreArguments arguments) (nonempty : arguments ≠ [])
    : IsCutInto (commaSeparated ((arguments.map Prod.snd).map Prod.fst) ++ [.symbol .closeParen])
        ([',', ' '].intercalate (arguments.map Prod.fst) ++ [')']) := by
  induction arguments with
  | nil => exact (nonempty rfl).elim
  | cons argument rest ih =>
      obtain ⟨first, others⟩ := List.forall_mem_cons.mp each
      cases rest with
      | nil =>
          have close : Stands [] [')'] (.symbol .closeParen) := stands_access rfl rfl rfl
          have whole := first.cut (.inr rfl) (isCutInto_nil.stands close)
          simpa [commaSeparated, List.intercalate] using whole
      | cons next rest =>
          have behind := (ih others (by simp)).blank (by rfl : isSpace ' ' = true)
          have whole := first.cut (.inl rfl) (behind.stands (stands_access rfl rfl rfl))
          simpa [commaSeparated, List.intercalate] using whole

/-- Sources that are accepted one at a time are arguments. -/
theorem exists_arguments {function : String} (name : IsIdentifier function)
    {args : List (String × Expr)}
    (each : ∀ arg ∈ args, parse (function ++ "(" ++ arg.1 ++ ")") = .ok (.call function [arg.2]))
    : ∃ arguments, AreArguments arguments
      ∧ arguments.map Prod.fst = (args.map Prod.fst).map String.toList
      ∧ (arguments.map Prod.snd).map Prod.snd = args.map Prod.snd := by
  induction args with
  | nil => exact ⟨[], by simp [AreArguments], rfl, rfl⟩
  | cons arg rest ih =>
      rw [List.forall_mem_cons] at each
      obtain ⟨-, tokens, isArgument⟩ := exists_isArgument name each.1
      obtain ⟨arguments, areArguments, texts, trees⟩ := ih each.2
      refine ⟨(arg.1.toList, tokens, arg.2) :: arguments, ?_, ?_, ?_⟩
      · exact List.forall_mem_cons.mpr ⟨isArgument, areArguments⟩
      · simp [texts]
      · simp [trees]

/-- Arguments of a name that are accepted one at a time are accepted together. -/
theorem parse_call_of_each {function : String} (name : IsIdentifier function)
    {args : List (String × Expr)} (nonempty : args ≠ [])
    (each : ∀ arg ∈ args, parse (function ++ "(" ++ arg.1 ++ ")") = .ok (.call function [arg.2]))
    : parse (function ++ "(" ++ ", ".intercalate (args.map Prod.fst) ++ ")")
      = .ok (.call function (args.map Prod.snd)) := by
  have free : function ∉ constants.map Prod.fst := by
    obtain ⟨first, others, rfl⟩ := List.exists_cons_of_ne_nil nonempty
    exact (exists_isArgument name (each first List.mem_cons_self)).1
  obtain ⟨arguments, areArguments, texts, trees⟩ := exists_arguments name each
  have filled : arguments ≠ [] := by
    rintro rfl
    exact nonempty (List.map_eq_nil_iff.mp trees.symm)
  have source : (function ++ "(" ++ ", ".intercalate (args.map Prod.fst) ++ ")").toList
      = function.toList
        ++ ('(' :: ([',', ' '].intercalate (arguments.map Prod.fst) ++ [')'])) := by
    simp [texts]
  have inside := isCutInto_arguments areArguments filled
  have behind := inside.stands (stands_access rfl rfl rfl : Stands _ ['('] (.symbol .openParen))
  obtain ⟨lexed, cut, spelled⟩ := behind.stands (name.stands (by rintro _ ⟨⟩; rfl)) 0
  refine parse_ok_iff.mpr ⟨lexed, source ▸ cut, ?_⟩
  rw [← trees]
  refine ofTokens_call free ?_ ?_ (by simpa using filled) spelled
  · exact List.forall_mem_map.mpr fun argument member => (areArguments argument member).derives
  · exact List.forall_mem_map.mpr fun argument member => (areArguments argument member).reads

/-- Siblings do not use up each other's budget. Every part of the parser with counters that reads
something leaves both counters as they were, and none falls below zero; that parser comes to what
the parser with budgets comes to. So arguments of a name that are accepted one at a time are
accepted together, with the same trees.
-/
theorem siblings_share_no_budget
    : (Counting.Restores Counting.condition
        ∧ (∀ degree, Counting.Restores (Counting.operation · degree))
        ∧ Counting.Restores Counting.operand ∧ Counting.Restores Counting.postfixed
        ∧ Counting.Restores Counting.atom ∧ (∀ close, Counting.Restores (Counting.list · close))
        ∧ ∀ close, Counting.Restores (Counting.items · close))
      ∧ (∀ tokens,
          (∀ {steps outcome}, Counting.ofTokens steps tokens = some outcome →
            outcome = (ofTokens tokens).mapError .stuck)
          ∧ ∀ᶠ steps in Filter.atTop, Counting.ofTokens steps tokens ≠ none)
      ∧ ∀ {function : String} {args : List (String × Expr)}, IsIdentifier function → args ≠ [] →
          (∀ arg ∈ args,
            parse (function ++ "(" ++ arg.1 ++ ")") = .ok (.call function [arg.2])) →
          parse (function ++ "(" ++ ", ".intercalate (args.map Prod.fst) ++ ")")
            = .ok (.call function (args.map Prod.snd)) :=
  ⟨Counting.restores_parts, Counting.ofTokens_agrees, fun name => parse_call_of_each name⟩

/-- A sum that takes most of the links. -/
def longSum : List Char :=
  'x' :: linkText (List.replicate 200 .plus)

/-- The tokens of a call with such a sum. -/
def longSumTokens : List Token :=
  .ident "max" :: .symbol .openParen
    :: (.ident "x" :: (linkTokens (List.replicate 200 .plus) ++ [.symbol .closeParen]))

/-- The argument of a call of a function with one argument. -/
def argumentOf? (function : String) : Expr → Option Expr
  | .call name [arg] => if name = function then some arg else none
  | _ => none

theorem argumentOf?_eq_some_iff {function : String} {tree arg : Expr}
    : argumentOf? function tree = some arg ↔ tree = .call function [arg] := by
  unfold argumentOf?
  split <;> simp_all

theorem exists_longSum
    : ∃ sum, parse ("max" ++ "(" ++ String.ofList longSum ++ ")") = .ok (.call "max" [sum]) := by
  have isCall
      : ((ofTokens (longSumTokens.map (⟨·, 0⟩))).toOption.bind (argumentOf? "max")).isSome := by
    decide +kernel
  have close : Stands [] [')'] (.symbol .closeParen) := stands_access rfl rfl rfl
  have ends : EndsName [')'] := by
    rintro _ ⟨⟩
    rfl
  have sum := ((isCutInto_nil.stands close).links ends (List.replicate 200 .plus)).name
    (endsName_linkText ends)
  have opening := sum.stands (stands_access rfl rfl rfl : Stands _ ['('] (.symbol .openParen))
  have identifier : IsIdentifier "max" := ⟨'m', ['a', 'x'], rfl, rfl, List.all_eq_true.mp rfl⟩
  obtain ⟨lexed, cut, spelled⟩ := opening.stands (identifier.stands (by rintro _ ⟨⟩; rfl)) 0
  have source : ("max" ++ "(" ++ String.ofList longSum ++ ")").toList
      = "max".toList ++ (['('] ++ longSum ++ [')']) := by
    simp
  have bareTokens : bare (longSumTokens.map (⟨·, 0⟩)) = longSumTokens := by
    simp [bare, Function.comp_def]
  obtain ⟨sum, found⟩ := Option.isSome_iff_exists.mp isCall
  cases read : ofTokens (longSumTokens.map (⟨·, 0⟩)) with
  | error stuck =>
      rw [read] at found
      cases found
  | ok tree =>
      rw [read] at found
      obtain rfl := argumentOf?_eq_some_iff.mp found
      exact ⟨sum, parse_ok_iff.mpr
        ⟨lexed, source ▸ cut, ofTokens_congr (spelled.trans bareTokens.symm) read⟩⟩

/-- Two such sums side by side would take more links than there are. -/
theorem siblings_long_sums
    : IsIdentifier "max" ∧ maxLinks < 200 + 200
      ∧ ∃ sum, parse ("max" ++ "(" ++ String.ofList longSum ++ ")") = .ok (.call "max" [sum])
        ∧ parse ("max" ++ "(" ++ ", ".intercalate [String.ofList longSum, String.ofList longSum]
            ++ ")")
          = .ok (.call "max" [sum, sum]) := by
  have identifier : IsIdentifier "max" := ⟨'m', ['a', 'x'], rfl, rfl, List.all_eq_true.mp rfl⟩
  obtain ⟨sum, alone⟩ := exists_longSum
  refine ⟨identifier, by decide, sum, alone, ?_⟩
  have each
      : ∀ arg ∈ [(String.ofList longSum, sum), (String.ofList longSum, sum)],
          parse ("max" ++ "(" ++ arg.1 ++ ")") = .ok (.call "max" [arg.2]) := by
    intro arg member
    rcases List.mem_cons.mp member with rfl | member
    · exact alone
    · rcases List.mem_singleton.mp member with rfl
      exact alone
  have together := siblings_share_no_budget.2.2 identifier (List.cons_ne_nil _ _) each
  simpa only [List.map_cons, List.map_nil] using together

end FormWizard.Expr
