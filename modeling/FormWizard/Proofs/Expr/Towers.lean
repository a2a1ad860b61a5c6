import FormWizard.Proofs.Expr.Completeness
import FormWizard.Proofs.Expr.Height
import FormWizard.Proofs.Expr.Lexing

/-! Sources whose trees are as high as the parser lets them be. On each level of nesting a call is
the first operand of a chain of the tightest operators, that chain the first operand of the next
looser one, and so on; every chain takes all links, since those of a first operand have been
returned. Where less is chained, the height keeps to the sum of both budgets.
-/

namespace FormWizard.Expr

-----------------------------------------------------------------------------------------
-- Signs with names behind them
-----------------------------------------------------------------------------------------

/-- Signs, each with a name behind it, as tokens. -/
def linkTokens (signs : List Symbol) : List Token :=
  signs.flatMap fun sign => [.symbol sign, .ident "x"]

/-- Signs, each with a name behind it, as text. -/
def linkText (signs : List Symbol) : List Char :=
  signs.flatMap fun sign => sign.spelling.toList ++ ['x']

/-- A name in front of the text would end there. -/
def EndsName (text : List Char) : Prop :=
  ∀ c ∈ text.head?, isNamePart c = false

theorem IsCutInto.name {text : List Char} {tokens : List Token} (h : IsCutInto tokens text)
    (ends : EndsName text)
    : IsCutInto (.ident "x" :: tokens) ('x' :: text) := by
  have noOthers (c : Char) (member : c ∈ []) : isNamePart c = true := by cases member
  exact h.stands (@Stands.name text 'x' [] rfl noOthers ends)

theorem endsName_spelling (sign : Symbol) (text : List Char)
    : EndsName (sign.spelling.toList ++ text) := by
  cases sign <;> exact fun c first => by cases first; rfl

theorem endsName_linkText {signs : List Symbol} {text : List Char} (ends : EndsName text)
    : EndsName (linkText signs ++ text) := by
  cases signs with
  | nil => exact ends
  | cons sign rest =>
      rw [linkText, List.flatMap_cons, List.append_assoc, List.append_assoc]
      exact endsName_spelling sign _

/-- No sign is taken for a longer one where a name stands behind it. -/
theorem exists_scan_sign (sign : Symbol) (text : List Char)
    : ∃ c rest size, sign.spelling.toList ++ 'x' :: text = c :: rest ∧ isSpace c = false
      ∧ scan c rest = .ok ⟨.symbol sign, size, 'x' :: text⟩ := by
  cases sign <;> exact ⟨_, _, _, rfl, rfl, rfl⟩

theorem IsCutInto.links {text : List Char} {tokens : List Token} (h : IsCutInto tokens text)
    (ends : EndsName text) (signs : List Symbol)
    : IsCutInto (linkTokens signs ++ tokens) (linkText signs ++ text) := by
  induction signs with
  | nil => exact h
  | cons sign rest ih =>
      obtain ⟨c, behind, size, split, visible, found⟩ :=
        exists_scan_sign sign (linkText rest ++ text)
      have spelled : linkText (sign :: rest) ++ text = c :: behind := by
        rw [← split, linkText, List.flatMap_cons, linkText]
        simp
      rw [spelled]
      exact (ih.name (endsName_linkText ends)).cons _ visible found

-----------------------------------------------------------------------------------------
-- Chains that take as many links as they may
-----------------------------------------------------------------------------------------

/-- In front of a token at which it may end, a parser takes the given tokens for a tree of the given
height.
-/
def Reaches (height : Nat) (tokens : List Token) (ends : Token → Prop) (parse : Parse Expr)
    : Prop :=
  ∀ front back, bare front = tokens → ends (peek back) →
    ∃ tree, parse (front ++ back) = .ok (tree, back) ∧ tree.height = height

/-- A sign of each degree of looseness. -/
def signOf : (degree : Nat) → Symbol
  | 0 => .star
  | 1 => .plus
  | 2 => .less
  | 3 => .equal
  | 4 => .both
  | _ => .either

theorem exists_binaryOp?_signOf {degree : Nat} (lt : degree < looseness)
    : ∃ op, binaryOp? degree (.symbol (signOf degree)) = some op := by
  match degree, lt with
  | 0, _ | 1, _ | 2, _ | 3, _ | 4, _ | 5, _ => exact ⟨_, rfl⟩

theorem stops_signOf {degree : Nat} (lt : degree < looseness)
    : (Token.symbol (signOf degree)).Stops degree := by
  obtain ⟨op, found⟩ := exists_binaryOp?_signOf lt
  obtain ⟨sign, same, listed⟩ := binaryOp?_eq_some_iff.mp found
  cases same
  exact stops_of_mem_signsBetween listed

/-- So many signs of every degree below the given one, the tightest first. -/
def operators (counts : Nat → Nat) : (degree : Nat) → List Symbol
  | 0 => []
  | degree + 1 => operators counts degree ++ List.replicate (counts degree) (signOf degree)

theorem linkTokens_append (signs more : List Symbol)
    : linkTokens (signs ++ more) = linkTokens signs ++ linkTokens more :=
  List.flatMap_append

/-- The first of some links is a sign that stops what is in front of them, if every sign does. -/
theorem stops_of_links {degree : Nat} {signs : List Symbol} {front back : List Lexed}
    (spelled : bare front = linkTokens signs)
    (stop : ∀ sign ∈ signs, (Token.symbol sign).Stops degree) (ends : (peek back).Stops degree)
    : (peek (front ++ back)).Stops degree := by
  cases signs with
  | nil =>
      obtain rfl := List.map_eq_nil_iff.mp spelled
      exact ends
  | cons sign rest =>
      obtain ⟨lexed, others, rfl, isSign, -⟩ := List.map_eq_cons_iff.mp spelled
      rw [List.cons_append, peek, isSign]
      exact stop sign List.mem_cons_self

theorem exists_link {sign : Symbol} {signs : List Symbol} {front : List Lexed}
    (spelled : bare front = linkTokens (sign :: signs))
    : ∃ first second rest, front = first :: second :: rest ∧ first.token = .symbol sign
      ∧ second.token = .ident "x" ∧ bare rest = linkTokens signs := by
  obtain ⟨first, rest, rfl, isSign, spelled⟩ := List.map_eq_cons_iff.mp spelled
  obtain ⟨second, rest, rfl, isName, spelled⟩ := List.map_eq_cons_iff.mp spelled
  exact ⟨first, second, rest, rfl, isSign, isName, spelled⟩

/-- Members take as many links as there are points. Witness: induction on the count. -/
theorem accesses_points (inner : ParseWithin Expr) {count links : Nat} (le : count ≤ links)
    (target : Expr) {front back : List Lexed}
    (spelled : bare front = linkTokens (List.replicate count .dot)) {degree : Nat}
    (ends : (peek back).Stops degree)
    : ∃ tree, accesses inner links target (front ++ back) = .ok (tree, back)
      ∧ tree.height = target.height + count := by
  induction count generalizing links target front with
  | zero =>
      obtain rfl := List.map_eq_nil_iff.mp spelled
      obtain ⟨notDot, notBracket, notParen, -⟩ := ends
      refine ⟨target, ?_, rfl⟩
      unfold accesses
      split <;> simp_all
  | succ count ih =>
      obtain ⟨point, name, rest, rfl, isPoint, isName, spelled⟩ := exists_link spelled
      cases links with
      | zero => omega
      | succ links =>
          obtain ⟨tree, read, high⟩ := ih (Nat.le_of_succ_le_succ le) (target.member "x") spelled
          refine ⟨tree, ?_, by rw [high, height]; omega⟩
          rw [accesses.eq_def]
          simpa [peek, isPoint, isName] using read

/-- A chain takes as many links as there are signs of its degree. Witness: induction on the
count.
-/
theorem chain_links {operand : ParseWithin Expr} {degree count links : Nat}
    (lt : degree < looseness)
    (names : ∀ links, Reaches 1 [.ident "x"] (Token.Stops degree) (operand links))
    (le : count ≤ links) (left : Expr) {front back : List Lexed}
    (spelled : bare front = linkTokens (List.replicate count (signOf degree)))
    (ends : (peek back).Stops (degree + 1))
    : ∃ tree, chain degree operand links left (front ++ back) = .ok (tree, back)
      ∧ tree.height = left.height + count := by
  induction count generalizing links left front with
  | zero =>
      obtain rfl := List.map_eq_nil_iff.mp spelled
      refine ⟨left, ?_, rfl⟩
      rw [List.nil_append, chain]
      exact ends.noOperator degree (Nat.lt_succ_self degree)
  | succ count ih =>
      obtain ⟨sign, name, rest, rfl, isSign, isName, spelled⟩ := exists_link spelled
      obtain ⟨op, found⟩ := exists_binaryOp?_signOf lt
      cases links with
      | zero => omega
      | succ links =>
          have stop : (peek (rest ++ back)).Stops degree :=
            stops_of_links spelled
              (fun other listed => List.eq_of_mem_replicate listed ▸ stops_signOf lt)
              (ends.mono (Nat.le_succ _))
          obtain ⟨right, readRight, one⟩ :=
            names links [name] (rest ++ back) (by simp [isName]) stop
          obtain ⟨tree, read, high⟩ :=
            ih (Nat.le_of_succ_le_succ le) (.binary op left right) spelled
          refine ⟨tree, ?_, ?_⟩
          · rw [chain.eq_def]
            simp only [List.cons_append, peek, isSign, found, List.tail_cons]
            rw [List.singleton_append] at readRight
            rw [readRight]
            exact read
          · have := height_pos left
            rw [high, height, one]
            omega

/-- Where no sign of a lower degree is next, the first operand is all of an operation. -/
theorem Reaches.operation_alone {operand : ParseWithin Expr} {links least : Nat}
    {tokens : List Token} (h : Reaches least tokens (Token.Stops 0) (operand links)) (degree : Nat)
    : Reaches least tokens (Token.Stops degree) (Expr.operation operand degree links) := by
  intro front back spelled ends
  obtain ⟨tree, read, high⟩ := h front back spelled (ends.mono (Nat.zero_le degree))
  exact ⟨tree, operation_of_operand read ends, high⟩

/-- The chains of all degrees below one go on top of what is read as the first operand. Witness:
induction on the degree; the links of a chain that is complete are there again for the next.
-/
theorem Reaches.operation {operand : ParseWithin Expr} {counts : Nat → Nat} {links least : Nat}
    {tokens : List Token} (h : Reaches least tokens (Token.Stops 0) (operand links))
    (names : ∀ links, Reaches 1 [.ident "x"] (Token.Stops 0) (operand links))
    (le : ∀ degree, counts degree ≤ links) {degree : Nat} (known : degree ≤ looseness)
    : Reaches (least + (operators counts degree).length)
        (tokens ++ linkTokens (operators counts degree)) (Token.Stops degree)
        (Expr.operation operand degree links) := by
  induction degree with
  | zero => simpa [operators, linkTokens, Expr.operation] using h
  | succ degree ih =>
      intro front back spelled ends
      rw [operators, linkTokens_append, ← List.append_assoc] at spelled
      obtain ⟨first, others, rfl, spelledFirst, spelled⟩ := List.map_eq_append_iff.mp spelled
      have stop : (peek (others ++ back)).Stops degree :=
        stops_of_links spelled
          (fun other listed => List.eq_of_mem_replicate listed ▸ stops_signOf known)
          (ends.mono (Nat.le_succ _))
      obtain ⟨left, readLeft, highLeft⟩ :=
        ih (Nat.le_of_succ_le known) first (others ++ back) spelledFirst stop
      obtain ⟨tree, read, high⟩ :=
        chain_links known (fun links => (names links).operation_alone degree) (le degree) left
          spelled ends
      refine ⟨tree, ?_, ?_⟩
      · rw [List.append_assoc, Expr.operation]
        dsimp only
        rw [readLeft]
        exact read
      · rw [high, highLeft, operators, List.length_append, List.length_replicate, Nat.add_assoc]

-----------------------------------------------------------------------------------------
-- Levels of nesting
-----------------------------------------------------------------------------------------

theorem ne_openParen_of_points {count : Nat} {front back : List Lexed}
    (spelled : bare front = linkTokens (List.replicate count .dot)) {degree : Nat}
    (ends : (peek back).Stops degree)
    : peek (front ++ back) ≠ .symbol .openParen := by
  cases count with
  | zero =>
      obtain rfl := List.map_eq_nil_iff.mp spelled
      exact ends.notParen
  | succ count =>
      obtain ⟨point, name, rest, rfl, isPoint, -, -⟩ := exists_link spelled
      simp [peek, isPoint]

theorem primary_name {inner : Parse Expr} {lexed : Lexed} (h : lexed.token = .ident "x")
    {rest : List Lexed}
    : primary inner (lexed :: rest) = .ok (.ident "x", rest) := by
  rw [primary, h]
  rfl

/-- A name with points behind it takes as many links as there are points. -/
theorem reaches_name {depth links count : Nat} (le : count ≤ links)
    : Reaches (1 + count) (.ident "x" :: linkTokens (List.replicate count .dot)) (Token.Stops 0)
        ((level depth).operand links) := by
  intro front back spelled ends
  obtain ⟨name, points, rfl, isName, spelled⟩ := List.map_eq_cons_iff.mp spelled
  obtain ⟨tree, read, high⟩ :=
    accesses_points (level depth).whole le (.ident "x") spelled ends
  refine ⟨tree, ?_, high⟩
  rw [operand_eq_postfixed _ _ (by simp [peek, isName, unaryOp?]), ← read,
    ← resumeAccess_of_ne (ne_openParen_of_points spelled ends)]
  rw [List.cons_append, postfixed, primary_name isName]
  rfl

theorem reaches_name_alone (depth links : Nat)
    : Reaches 1 [.ident "x"] (Token.Stops 0) ((level depth).operand links) :=
  reaches_name (Nat.zero_le links)

/-- A list of one item is read if the item is, unless it is taken for the end of the list. -/
theorem list_single {close : Symbol} {item : Parse Expr} {first closing : Lexed}
    {rest back : List Lexed} {tree : Expr}
    (read : item (first :: rest) = .ok (tree, closing :: back))
    (starts : first.token ≠ .symbol close) (closes : closing.token = .symbol close)
    : list close item (first :: rest) = .ok ([tree], back) := by
  rw [list, if_neg (by simpa [peek] using starts), items, read]
  simp [peek, closes, bind, Except.bind, pure, Except.pure]

/-- A call with points behind it is one higher than its argument, and takes as many links as there
are points.
-/
theorem Reaches.call {depth links count least : Nat} (le : count ≤ links) {tokens : List Token}
    (h : Reaches least (.ident "x" :: tokens) Token.IsClosing ((level depth).whole links))
    : Reaches (least + 1 + count)
        (.ident "x" :: .symbol .openParen :: .ident "x" :: tokens
          ++ .symbol .closeParen :: linkTokens (List.replicate count .dot))
        (Token.Stops 0) ((level depth).operand links) := by
  intro front back spelled ends
  obtain ⟨call, points, rfl, spelledCall, spelledPoints⟩ := List.map_eq_append_iff.mp spelled
  obtain ⟨name, arg, rfl, isName, spelledCall⟩ := List.map_eq_cons_iff.mp spelledCall
  obtain ⟨opening, arg, rfl, opens, spelledArg⟩ := List.map_eq_cons_iff.mp spelledCall
  obtain ⟨first, rest, rfl, isFirst, spelledRest⟩ := List.map_eq_cons_iff.mp spelledArg
  obtain ⟨closing, points, rfl, closes, spelledPoints⟩ := List.map_eq_cons_iff.mp spelledPoints
  obtain ⟨inside, readArg, highArg⟩ :=
    h (first :: rest) (closing :: (points ++ back)) spelledArg
      (by simp [peek, closes, Token.IsClosing])
  obtain ⟨tree, read, high⟩ :=
    accesses_points (level depth).whole le (.call "x" [inside]) spelledPoints ends
  refine ⟨tree, ?_, ?_⟩
  · have args := list_single readArg (by simp [isFirst]) closes
    rw [operand_eq_postfixed _ _ (by simp [peek, isName, unaryOp?]), ← read]
    simp only [List.append_eq, List.cons_append, List.append_assoc] at args ⊢
    rw [postfixed, primary_name isName]
    simp only [bind, Except.bind, peek, opens, List.tail_cons, args]
  · rw [high, height, heights, heights, highArg]
    omega

/-- An operation that ends the condition is all of it. -/
theorem Reaches.plain {depth links least : Nat} {tokens : List Token}
    (h : Reaches least tokens (Token.Stops looseness)
      (Expr.operation (level depth).operand looseness links))
    : Reaches least tokens Token.IsClosing ((level (depth + 1)).whole links) := by
  intro front back spelled closing
  obtain ⟨tree, read, high⟩ := h front back spelled (closing.stops _)
  exact ⟨tree, whole_of_operation read closing, high⟩

theorem reaches_name_plain (depth links : Nat)
    : Reaches 1 [.ident "x"] Token.IsClosing ((level (depth + 1)).whole links) :=
  ((reaches_name_alone depth links).operation_alone looseness).plain

/-- Branches behind an operation that are names make it one higher. -/
theorem Reaches.conditional {depth links least : Nat} {tokens : List Token}
    (h : Reaches least tokens (Token.Stops looseness)
      (Expr.operation (level (depth + 1)).operand looseness links))
    : Reaches (least + 1) (tokens ++ linkTokens [.question, .colon]) Token.IsClosing
        ((level (depth + 2)).whole links) := by
  intro front back spelled closing
  obtain ⟨test, branches, rfl, spelledTest, spelledBranches⟩ := List.map_eq_append_iff.mp spelled
  obtain ⟨question, yes, branches, rfl, isQuestion, isYes, spelledBranches⟩ :=
    exists_link spelledBranches
  obtain ⟨colon, no, others, rfl, isColon, isNo, spelledOthers⟩ := exists_link spelledBranches
  obtain rfl := List.map_eq_nil_iff.mp spelledOthers
  obtain ⟨condition, readTest, highTest⟩ :=
    h test (question :: yes :: colon :: no :: back) spelledTest
      (by rw [peek, isQuestion]; exact stops_question _)
  obtain ⟨first, readFirst, highFirst⟩ :=
    reaches_name_plain depth links [yes] (colon :: no :: back) (by simp [isYes])
      (by simp [peek, isColon, Token.IsClosing])
  obtain ⟨second, readSecond, highSecond⟩ :=
    reaches_name_plain depth links [no] back (by simp [isNo]) closing
  refine ⟨.conditional condition first second, ?_, ?_⟩
  · have colonNext : expect .colon (colon :: no :: back) = .ok (no :: back) := by
      simp [expect, peek, isColon]
    rw [List.singleton_append] at readFirst readSecond
    change branching (level (depth + 1)).operand (level (depth + 1)).whole links _ = _
    rw [List.append_assoc, List.cons_append, List.cons_append, List.cons_append, List.cons_append,
      List.nil_append, branching]
    simp only [readTest, bind, Except.bind, peek, isQuestion, if_pos, List.tail_cons, readFirst,
      colonNext, readSecond]
    rfl
  · have := height_pos condition
    rw [height, highFirst, highSecond, highTest]
    omega

-----------------------------------------------------------------------------------------
-- Towers
-----------------------------------------------------------------------------------------

/-- Members and operators of every degree, each as often as there are links. -/
def fullChains (links : Nat) : List Symbol :=
  List.replicate links .dot ++ operators (fun _ => links) looseness

/-- The tokens of a tower: a name, or a call of a lower tower, with all chains behind it. Where
there are levels left for branches, it is the condition for two names.
-/
def towerTokens (links : Nat) : (depth : Nat) → List Token
  | 0 => .ident "x" :: linkTokens (fullChains links)
  | depth + 1 =>
    .ident "x" :: .symbol .openParen :: towerTokens links depth
      ++ .symbol .closeParen :: linkTokens (fullChains links ++ [.question, .colon])

/-- The text of a tower. -/
def towerText (links : Nat) : (depth : Nat) → List Char
  | 0 => 'x' :: linkText (fullChains links)
  | depth + 1 =>
    'x' :: '(' :: towerText links depth
      ++ ')' :: linkText (fullChains links ++ [.question, .colon])

theorem length_operators (links degree : Nat)
    : (operators (fun _ => links) degree).length = degree * links := by
  induction degree with
  | zero => simp [operators]
  | succ degree ih => rw [operators, List.length_append, ih, List.length_replicate, Nat.succ_mul]

theorem exists_towerTokens (links depth : Nat)
    : ∃ tokens, towerTokens links depth = .ident "x" :: tokens := by
  cases depth <;> exact ⟨_, rfl⟩

/-- A tower is read at the level that it is made for, and is as high as a tree of that level can be.
Witness: induction on the levels.
-/
theorem reaches_tower (links depth : Nat)
    : ∃ height, height + 1 = heightBound (depth + 1) links
      ∧ Reaches height (towerTokens links depth) Token.IsClosing
          ((level (depth + 1)).whole links) := by
  have full {depth least : Nat} {tokens : List Token}
      (h : Reaches least tokens (Token.Stops 0) ((level depth).operand links))
      : Reaches (least + looseness * links)
          (tokens ++ linkTokens (operators (fun _ => links) looseness)) (Token.Stops looseness)
          (operation (level depth).operand looseness links) := by
    rw [← length_operators]
    exact h.operation (reaches_name_alone depth) (fun _ => Nat.le_refl _) (Nat.le_refl _)
  induction depth with
  | zero =>
      refine ⟨1 + links + looseness * links, ?_, ?_⟩
      · rw [heightBound, looseness]
        omega
      · rw [towerTokens, fullChains, linkTokens_append, ← List.cons_append]
        exact (full (reaches_name (Nat.le_refl _))).plain
  | succ depth ih =>
      obtain ⟨height, high, lower⟩ := ih
      obtain ⟨tokens, starts⟩ := exists_towerTokens links depth
      rw [starts] at lower
      refine ⟨height + 1 + links + looseness * links + 1, ?_, ?_⟩
      · rw [heightBound_succ, ← high, looseness]
        omega
      · have whole := (full (lower.call (Nat.le_refl _))).conditional
        rw [towerTokens, starts, fullChains, linkTokens_append, linkTokens_append]
        simpa using whole

/-- The text of a tower is cut into its tokens. Witness: induction on the levels. -/
theorem IsCutInto.tower {links : Nat} {text : List Char} {tokens : List Token}
    (h : IsCutInto tokens text) (ends : EndsName text) (depth : Nat)
    : IsCutInto (towerTokens links depth ++ tokens) (towerText links depth ++ text) := by
  induction depth generalizing text tokens with
  | zero => exact (h.links ends (fullChains links)).name (endsName_linkText ends)
  | succ depth ih =>
      have behind := h.links ends (fullChains links ++ [.question, .colon])
      have closed := behind.cons (c := ')') ⟨.symbol .closeParen, 1, _⟩ rfl rfl
      have call := (ih closed (by rintro c ⟨⟩; rfl)).cons (c := '(')
        ⟨.symbol .openParen, 1, _⟩ rfl rfl
      have named := call.name (by rintro c ⟨⟩; rfl)
      simpa [towerTokens, towerText] using named

/-- A source is accepted if it is cut into tokens that are read to their end. -/
theorem exists_parse {height : Nat} {tokens : List Token} {text : List Char}
    (cut : IsCutInto tokens text)
    (read : Reaches height tokens Token.IsClosing ((level maxDepth).whole maxLinks))
    : ∃ expr, parse (String.ofList text) = .ok expr ∧ expr.height = height := by
  obtain ⟨lexed, lexes, spelled⟩ := cut 0
  obtain ⟨tree, whole, high⟩ := read lexed [] spelled (.inl rfl)
  refine ⟨tree, ?_, high⟩
  rw [List.append_nil] at whole
  have accepted : ofTokens lexed = .ok tree := by
    simp [ofTokens, whole, bind, Except.bind, pure, Except.pure]
  rw [parse, lex, String.toList_ofList, lexes]
  simp only [bind, Except.bind, accepted]
  rfl

/-- The bound of all levels and links is no greater than it has to be. -/
theorem exists_height_attained
    : ∃ source expr, parse source = .ok expr
      ∧ expr.height + 1 = maxDepth * (7 * maxLinks + 2) := by
  obtain ⟨height, high, read⟩ := reaches_tower maxLinks 63
  have cut : IsCutInto (towerTokens maxLinks 63) (towerText maxLinks 63) := by
    simpa using isCutInto_nil.tower (fun c none => by cases none) 63
  obtain ⟨expr, accepted, same⟩ := exists_parse cut read
  exact ⟨_, expr, accepted, same ▸ high⟩

-----------------------------------------------------------------------------------------
-- The sum of both budgets
-----------------------------------------------------------------------------------------

/-- A name with chains of operators behind it, the tightest first. -/
def chainSource (counts : Nat → Nat) : String :=
  String.ofList ('x' :: linkText (operators counts looseness))

/-- Every chain may be as long as if it were the only one. -/
theorem exists_parse_chainSource {counts : Nat → Nat} (le : ∀ degree, counts degree ≤ maxLinks)
    : ∃ expr, parse (chainSource counts) = .ok expr
      ∧ expr.height = 1 + (operators counts looseness).length := by
  have read : Reaches (1 + (operators counts looseness).length)
      ([.ident "x"] ++ linkTokens (operators counts looseness)) Token.IsClosing
      ((level maxDepth).whole maxLinks) :=
    ((reaches_name_alone 63 maxLinks).operation (reaches_name_alone 63) le (Nat.le_refl _)).plain
  have ended : EndsName [] := fun c none => by cases none
  have cut := (isCutInto_nil.links ended (operators counts looseness)).name
    (endsName_linkText ended)
  rw [List.append_nil, List.append_nil] at cut
  exact exists_parse cut read

/-- The height of an accepted tree is what is chained in it and at most all levels of nesting
besides. So it keeps to the sum of both budgets where no more than the links and a test are chained;
whatever is chained, it stays below the bound of all levels and links.
-/
theorem height_le_of_chained_le {source : String} {expr : Expr} (accepted : parse source = .ok expr)
    : expr.chained < expr.height
      ∧ expr.height ≤ maxDepth + expr.chained
      ∧ (expr.chained ≤ maxLinks + 1 → expr.height ≤ maxDepth + maxLinks + 1)
      ∧ expr.height < maxDepth * (7 * maxLinks + 2) := by
  obtain ⟨low, nested⟩ := isWithin_of_parse accepted
  exact ⟨chained_lt_height expr, nested, fun few => by omega, low⟩

/-- Forty operators of each degree are well within the links. -/
theorem height_le_of_chained_le_forty
    : ∃ expr, parse (chainSource fun _ => 40) = .ok expr
      ∧ expr.chained ≤ maxLinks + 1
      ∧ expr.height ≤ maxDepth + maxLinks + 1 := by
  have le (degree : Nat) : (fun _ => 40) degree ≤ maxLinks := show 40 ≤ maxLinks by decide
  obtain ⟨expr, accepted, high⟩ := exists_parse_chainSource le
  have few : expr.chained ≤ maxLinks + 1 := by
    have below := chained_lt_height expr
    simp only [high, operators, looseness, List.length_append, List.length_replicate,
      List.length_nil] at below
    rw [maxLinks]
    omega
  exact ⟨expr, accepted, few, (height_le_of_chained_le accepted).2.2.1 few⟩

/-- A product with as many factors as may be, in front of a sum. -/
def productInSum : Nat → Nat
  | 0 => 256
  | 1 => 65
  | _ => 0

/-- The tree is higher than all levels of nesting, all links and a leaf together. -/
theorem height_productInSum
    : ∃ expr, parse (chainSource productInSum) = .ok expr
      ∧ maxDepth + maxLinks + 1 < expr.height := by
  have le (degree : Nat) : productInSum degree ≤ maxLinks := by
    rw [maxLinks]
    unfold productInSum
    split <;> omega
  obtain ⟨expr, accepted, high⟩ := exists_parse_chainSource le
  refine ⟨expr, accepted, ?_⟩
  simp only [high, operators, productInSum, looseness, List.length_append, List.length_replicate,
    maxDepth, maxLinks]
  decide

end FormWizard.Expr
