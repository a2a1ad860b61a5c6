import FormWizard.Proofs.Expr.Locality

/-! Which token a parser blames when it gives up: the first one with which no phrase goes on. What is
in front of the token can be completed, and the token makes a failure of whatever is behind it.
-/

namespace FormWizard.Expr

/-- The token that the wording of a fault names. -/
def Fault.named? : Fault → Option Token
  | .trailing token | .expected _ token | .expectedProperty token | .unexpected token => some token
  | _ => none

/-- The fault is found when its token has been taken already. -/
def Fault.isPast : Fault → Bool
  | .expectedProperty _ | .unexpected _ => true
  | _ => false

-----------------------------------------------------------------------------------------
-- Blame
-----------------------------------------------------------------------------------------

/-- The tokens are the front of a phrase. -/
def Opens (phrase : Phrase) (tokens : List Token) : Prop :=
  ∃ more tree, Derives phrase (tokens ++ more) tree

theorem peek_append_congr {read read' rest rest' : List Lexed} (same : bare read' = bare read)
    (next : peek rest' = peek rest)
    : peek (read' ++ rest') = peek (read ++ rest) :=
  (peek_append_related Eq.refl same next.symm).symm

section

variable {α β : Type}

/-- The result is a failure, and not for a bound. -/
def Refuses (result : Except Stuck α) : Prop :=
  ∃ stuck, result = .error stuck ∧ ¬stuck.fault.IsBound

/-- A fault that names a token is no bound. -/
theorem refuses_error {stuck : Stuck} {named : Token} (names : stuck.fault.named? = some named)
    : Refuses (.error stuck : Except Stuck α) := by
  refine ⟨stuck, rfl, ?_⟩
  rintro (bound | bound) <;> rw [bound] at names <;> cases names

theorem Refuses.bind {first : Except Stuck α} (h : Refuses first) (next : α → Except Stuck β)
    : Refuses (first >>= next) := by
  obtain ⟨stuck, rfl, unbound⟩ := h
  exact ⟨stuck, rfl, unbound⟩

/-- What cannot fail in the end has failed before. -/
theorem error_of_bind_ok {first : Except Stuck α} {next : α → Except Stuck β} {stuck : Stuck}
    (ends : ∀ value, ∃ result, next value = .ok result) (failed : first >>= next = .error stuck)
    : first = .error stuck := by
  cases first with
  | error found => exact congrArg _ (Except.error.inj failed)
  | ok value =>
      obtain ⟨result, ended⟩ := ends value
      cases ended.symm.trans failed

/-- What a parser that gives up at a token has done: the tokens in front of it were all right, the
parser stands at the token or right behind it, and wherever it reads the same, it refuses to go on
with this token.
-/
structure IsBlamed (opens : List Token → Prop) (parse : List Lexed → Except Stuck α) (stuck : Stuck)
    (named : Token) (read rest : List Lexed) : Prop where
  next : peek rest = named
  place : stuck.tokens = if stuck.fault.isPast then rest.tail else rest
  opens : opens (bare read)
  refuses
    : ∀ {read' rest' : List Lexed}, bare read' = bare read → peek rest' = named →
        Refuses (parse (read' ++ rest'))

/-- A parser that names a token blames it. -/
structure Blames (opens : List Token → Prop) (parse : Parse α) : Prop where
  splits
    : ∀ {tokens : List Lexed} {stuck : Stuck} {named : Token}, parse tokens = .error stuck →
        stuck.fault.named? = some named →
        ∃ read rest, tokens = read ++ rest ∧ IsBlamed opens parse stuck named read rest

/-- The parser has read the tokens as a value, in front of some others. -/
def Reads (parse : Parse α) (tokens : List Token) (value : α) : Prop :=
  ∃ read rest, parse (read ++ rest) = .ok (value, rest) ∧ bare read = tokens

theorem Reads.derives {phrase : Phrase} {parse : Parse Expr} {tokens : List Token} {tree : Expr}
    (h : Reads parse tokens tree) (sound : IsSound phrase parse)
    : Derives phrase tokens tree := by
  obtain ⟨read, rest, taken, rfl⟩ := h
  obtain ⟨read', split, derived⟩ := sound taken
  rwa [List.append_cancel_right split]

variable {opens opens' : List Token → Prop} {parse : Parse α}

theorem Blames.mono (h : Blames opens parse) (le : ∀ tokens, opens tokens → opens' tokens)
    : Blames opens' parse := by
  constructor
  intro tokens stuck named failed names
  obtain ⟨read, rest, split, blamed⟩ := h.splits failed names
  exact ⟨read, rest, split, { blamed with opens := le _ blamed.opens }⟩

/-- A phrase that stands behind others in a wider one is read as far as that one is. -/
theorem Blames.within {phrase phrase' : Phrase} (h : Blames (Opens phrase) parse)
    {front : List Token}
    (fits : ∀ {tokens tree}, Derives phrase tokens tree → Opens phrase' (front ++ tokens))
    : Blames (fun tokens => Opens phrase' (front ++ tokens)) parse := by
  refine h.mono fun tokens ⟨more, tree, derived⟩ => ?_
  obtain ⟨after, whole, derived⟩ := fits derived
  exact ⟨more ++ after, whole, by simpa using derived⟩

theorem blames_pure (value : α) : Blames opens fun tokens => .ok (value, tokens) := by
  constructor
  intro tokens stuck named failed
  cases failed

/-- A fault that names no token blames none. -/
theorem blames_error {stuck : List Lexed → Stuck}
    (unnamed : ∀ tokens, (stuck tokens).fault.named? = none)
    : Blames opens fun tokens => (.error (stuck tokens) : Except Stuck (α × List Lexed)) := by
  constructor
  intro tokens found named failed names
  cases failed
  cases (unnamed tokens).symm.trans names

/-- What is read in front of a parser that blames a token does not change the blame, if nothing that
is read in the same way makes a difference.
-/
theorem IsBlamed.behind {next : Parse α} {whole : Parse β} {stuck : Stuck} {named : Token}
    (front : List Lexed) {read rest : List Lexed}
    (h : IsBlamed (fun tokens => opens (bare front ++ tokens)) next stuck named read rest)
    (goes : ∀ {front' behind : List Lexed}, bare front' = bare front →
      peek behind = peek (read ++ rest) → Refuses (next behind) →
      Refuses (whole (front' ++ behind)))
    : IsBlamed opens whole stuck named (front ++ read) rest := by
  refine ⟨h.next, h.place, ?_, fun {read' rest'} same isNext => ?_⟩
  · rw [bare, List.map_append]
    exact h.opens
  · rw [bare, bare, List.map_append] at same
    obtain ⟨front', back, rfl, isFront, isBack⟩ := List.map_eq_append_iff.mp same
    rw [List.append_assoc]
    exact goes isFront (peek_append_congr isBack (isNext.trans h.next.symm))
      (h.refuses isBack isNext)

theorem Blames.bind (h : Blames opens parse) (isLocal : IsLocal parse) (next : α → Parse β)
    (h' : ∀ front value, Reads parse front value →
      Blames (fun tokens => opens (front ++ tokens)) (next value))
    : Blames opens fun tokens => parse tokens >>= fun (value, tokens) => next value tokens := by
  constructor
  intro tokens stuck named failed names
  cases first : parse tokens with
  | error found =>
      simp only [first] at failed
      cases failed
      obtain ⟨read, rest, rfl, blamed⟩ := h.splits first names
      refine ⟨read, rest, rfl, blamed.next, blamed.place, blamed.opens, ?_⟩
      exact fun same isNext => (blamed.refuses same isNext).bind _
  | ok result =>
      obtain ⟨value, behind⟩ := result
      simp only [first] at failed
      obtain ⟨front, rfl, again⟩ := isLocal.rereads first
      obtain ⟨read, rest, rfl, blamed⟩ :=
        (h' _ value ⟨front, _, first, rfl⟩).splits failed names
      refine ⟨front ++ read, rest, (List.append_assoc _ _ _).symm, blamed.behind front ?_⟩
      intro front' behind isFront isNext refused
      simp only [again behind isFront (.inl isNext.symm)]
      exact refused

theorem Blames.map (h : Blames opens parse) (isLocal : IsLocal parse) (f : α → β)
    : Blames opens fun tokens => parse tokens >>= fun (value, tokens) => .ok (f value, tokens) :=
  h.bind isLocal (fun value tokens => .ok (f value, tokens)) fun _ _ _ => blames_pure _

-----------------------------------------------------------------------------------------
-- Signs
-----------------------------------------------------------------------------------------

/-- Another token than the sign that must come next is the one to blame. -/
theorem isBlamed_expect {sign : Symbol} {tokens : List Lexed} (here : opens [])
    (other : peek tokens ≠ .symbol sign) (next : List Lexed → Except Stuck (α × List Lexed))
    : IsBlamed opens (fun tokens => expect sign tokens >>= next)
        ⟨tokens, .expected sign (peek tokens)⟩ (peek tokens) [] tokens := by
  refine ⟨rfl, rfl, here, fun {read' rest'} same isNext => ?_⟩
  obtain rfl := List.map_eq_nil_iff.mp same
  have refused : expect sign rest' = .error ⟨rest', .expected sign (peek rest')⟩ :=
    if_neg (isNext ▸ other)
  rw [List.nil_append, refused]
  exact refuses_error rfl

/-- The sign that must come next is read in front of what blames a token. -/
theorem IsBlamed.afterSign {sign : Symbol} {stuck : Stuck} {named : Token} {lexed : Lexed}
    {read rest : List Lexed}
    (h : IsBlamed (fun tokens => opens (.symbol sign :: tokens)) parse stuck named read rest)
    (isSign : lexed.token = .symbol sign)
    : IsBlamed opens (fun tokens => expect sign tokens >>= parse) stuck named (lexed :: read)
        rest := by
  rw [← isSign] at h
  refine h.behind [lexed] fun {front' behind} isFront _ refused => ?_
  obtain ⟨lexed', rfl, token⟩ := List.map_eq_singleton_iff.mp isFront
  have taken : expect sign ([lexed'] ++ behind) = .ok behind :=
    expect_ok_iff.mpr ⟨lexed', rfl, token.trans isSign⟩
  rw [taken]
  exact refused

/-- What must come next is there, or not. -/
theorem expect_cases (sign : Symbol) (tokens : List Lexed)
    : (∃ lexed rest, tokens = lexed :: rest ∧ lexed.token = .symbol sign
        ∧ expect sign tokens = .ok rest)
      ∨ peek tokens ≠ .symbol sign
        ∧ expect sign tokens = .error ⟨tokens, .expected sign (peek tokens)⟩ := by
  by_cases next : peek tokens = .symbol sign
  · obtain ⟨lexed, split, isSign⟩ := eq_cons_of_peek next (by simp)
    exact .inl ⟨lexed, tokens.tail, split, isSign, if_pos next⟩
  · exact .inr ⟨next, if_neg next⟩

theorem Blames.afterExpect {sign : Symbol} (here : opens [])
    (h : Blames (fun tokens => opens (.symbol sign :: tokens)) parse)
    : Blames opens fun tokens => expect sign tokens >>= parse := by
  constructor
  intro tokens stuck named failed names
  rcases expect_cases sign tokens with ⟨lexed, behind, rfl, isSign, taken⟩ | ⟨other, refused⟩
  · rw [taken] at failed
    obtain ⟨read, rest, rfl, blamed⟩ := h.splits failed names
    exact ⟨lexed :: read, rest, rfl, blamed.afterSign isSign⟩
  · rw [refused] at failed
    cases failed
    cases names
    exact ⟨[], tokens, rfl, isBlamed_expect here other parse⟩

/-- The results are the same, or failures for one reason that names no token. -/
def Resembles (left right : Except Stuck α) : Prop :=
  left = right
  ∨ ∃ stuck stuck', left = .error stuck ∧ right = .error stuck'
    ∧ stuck.fault = stuck'.fault ∧ stuck.fault.named? = none

theorem Resembles.refuses {left right : Except Stuck α} (h : Resembles left right)
    (refuses : Refuses right)
    : Refuses left := by
  rcases h with rfl | ⟨stuck, stuck', rfl, rfl, same, -⟩
  · exact refuses
  · obtain ⟨_, ⟨⟩, unbound⟩ := refuses
    exact ⟨stuck, rfl, same ▸ unbound⟩

theorem Resembles.error {left right : Except Stuck α} (h : Resembles left right) {stuck : Stuck}
    {named : Token} (failed : left = .error stuck) (names : stuck.fault.named? = some named)
    : right = .error stuck := by
  rcases h with rfl | ⟨_, _, rfl, rfl, -, unnamed⟩
  · exact failed
  · cases failed
    cases unnamed.symm.trans names

/-- A parser that goes on by the next token, or gives up at it. -/
theorem Blames.ofPeek (choose : Token → Option (Parse α))
    (finish : choose .finish = none)
    (each : ∀ token next, choose token = some next →
      Blames (fun tokens => opens (token :: tokens)) next)
    (goes : ∀ lexed rest next, choose lexed.token = some next →
      Resembles (parse (lexed :: rest)) (next rest))
    (here : ∀ {tokens stuck named}, choose (peek tokens) = none → parse tokens = .error stuck →
      stuck.fault.named? = some named →
      ∃ read rest, tokens = read ++ rest ∧ IsBlamed opens parse stuck named read rest)
    : Blames opens parse := by
  constructor
  intro tokens stuck named failed names
  cases chosen : choose (peek tokens) with
  | none => exact here chosen failed names
  | some next =>
      cases tokens with
      | nil => cases finish.symm.trans chosen
      | cons lexed behind =>
          have further := (goes lexed behind next chosen).error failed names
          obtain ⟨read, rest, rfl, blamed⟩ := (each lexed.token next chosen).splits further names
          refine ⟨lexed :: read, rest, rfl, blamed.behind [lexed] ?_⟩
          intro front' behind isFront _ refused
          obtain ⟨lexed', rfl, token⟩ := List.map_eq_singleton_iff.mp isFront
          exact (goes lexed' behind next (token ▸ chosen)).refuses refused

end

/-- A parser of phrases that knows by the next token how a phrase can go on. -/
structure IsPredictive (phrase : Phrase) (parse : Parse Expr) : Prop where
  sound : IsSound phrase parse
  isLocal : IsLocal parse
  blames : Blames (Opens phrase) parse

-----------------------------------------------------------------------------------------
-- Operations and conditions
-----------------------------------------------------------------------------------------

section

variable {inner nested operand : ParseWithin Expr}

/-- Witness: induction on the links that are left, where the operation in front of the chain grows
by what is read.
-/
theorem blames_chain {degree : Nat}
    (h : ∀ links, IsPredictive (.operation degree) (operand links)) (links : Nat) {left : Expr}
    {front : List Token} (start : Derives (.operation (degree + 1)) front left)
    : Blames (fun tokens => Opens (.operation (degree + 1)) (front ++ tokens))
        (chain degree operand links left) := by
  have link (links : Nat) {left : Expr} {front : List Token}
      (each : ∀ {sign op}, (sign, op) ∈ signsBetween degree →
        Blames (fun tokens => Opens (.operation (degree + 1)) (front ++ .symbol sign :: tokens))
          (chainLink degree operand left links op))
      : Blames (fun tokens => Opens (.operation (degree + 1)) (front ++ tokens))
          (chain degree operand links left) := by
    refine .ofPeek (fun token => (binaryOp? degree token).map (chainLink degree operand left links))
      rfl ?_ ?_ ?_
    · intro token next chosen
      obtain ⟨op, between, rfl⟩ := Option.map_eq_some_iff.mp chosen
      obtain ⟨sign, rfl, listed⟩ := binaryOp?_eq_some_iff.mp between
      exact each listed
    · intro lexed rest next chosen
      obtain ⟨op, between, rfl⟩ := Option.map_eq_some_iff.mp chosen
      rw [chain_eq, peek, between]
      exact .inl rfl
    · intro tokens stuck named chosen failed
      rw [chain_eq, Option.map_eq_none_iff.mp chosen] at failed
      cases failed
  induction links generalizing left front with
  | zero => exact link 0 fun _ => blames_error fun _ => rfl
  | succ links ih =>
      refine link (links + 1) fun {sign op} between => ?_
      have right := (h links).blames.within fun derived =>
        (⟨[], _, by simpa using start.binary between derived⟩
          : Opens (.operation (degree + 1)) (front ++ [.symbol sign] ++ _))
      simp only [List.append_assoc, List.singleton_append] at right
      refine right.bind (h links).isLocal
        (fun tree => chain degree operand links (.binary op left tree)) fun back tree reads => ?_
      simpa using ih (start.binary between (reads.derives (h links).sound))

theorem isPredictive_operation (h : ∀ links, IsPredictive .operand (operand links))
    (degree links : Nat)
    : IsPredictive (.operation degree) (operation operand degree links) := by
  have sound := isSound_operation (fun links => (h links).sound)
  have isLocal := isLocal_operation (fun links => (h links).isLocal)
  induction degree generalizing links with
  | zero =>
      refine ⟨sound 0 links, isLocal 0 links, (h links).blames.mono ?_⟩
      exact fun tokens ⟨more, tree, derived⟩ => ⟨more, tree, derived.single⟩
  | succ degree ih =>
      refine ⟨sound (degree + 1) links, isLocal (degree + 1) links, ?_⟩
      have first : Blames (Opens (.operation (degree + 1))) (operation operand degree links) :=
        (ih links).blames.mono fun tokens ⟨more, tree, derived⟩ => ⟨more, tree, derived.tighter⟩
      exact first.bind (ih links).isLocal (chain degree (operation operand degree) links)
        fun front tree reads => blames_chain ih links (reads.derives (ih links).sound).tighter

/-- The second branch of a condition, behind the first one. -/
def lastBranch (inner : ParseWithin Expr) (links : Nat) (condition whenTrue : Expr) : Parse Expr :=
  fun tokens => expect .colon tokens >>= fun tokens => inner links tokens
    >>= fun (whenFalse, tokens) => .ok (.conditional condition whenTrue whenFalse, tokens)

/-- Where a branch is read, a condition is, which each branch can complete. -/
theorem blames_branches (h : ∀ links, IsPredictive .condition (inner links)) (links : Nat)
    {asked : List Token} {condition : Expr} (test : Derives (.operation 6) asked condition)
    : Blames (fun tokens => Opens .condition (asked ++ .symbol .question :: tokens))
        (branches inner links condition) := by
  have first : Blames (fun tokens => Opens .condition (asked ++ [.symbol .question] ++ tokens))
      (inner links) :=
    (h links).blames.within fun {tokens _} derived =>
      ⟨.symbol .colon :: tokens, _, by simpa using test.conditional derived derived⟩
  simp only [List.append_assoc, List.singleton_append] at first
  refine first.bind (h links).isLocal (lastBranch inner links condition)
    fun yes whenTrue reads => ?_
  have isYes := reads.derives (h links).sound
  refine .afterExpect ⟨.symbol .colon :: yes, _, by simpa using test.conditional isYes isYes⟩ ?_
  have second : Blames (fun tokens =>
        Opens .condition (asked ++ .symbol .question :: (yes ++ [.symbol .colon]) ++ tokens))
      (inner links) :=
    (h links).blames.within fun derived =>
      ⟨[], _, by simpa using test.conditional isYes derived⟩
  simp only [List.append_assoc, List.cons_append, List.nil_append] at second
  exact second.map (h links).isLocal (Expr.conditional condition whenTrue)

theorem isPredictive_branching (h : ∀ links, IsPredictive .operand (operand links))
    (h' : ∀ links, IsPredictive .condition (inner links)) (links : Nat)
    : IsPredictive .condition (branching operand inner links) := by
  have operations := isPredictive_operation h looseness links
  refine ⟨isSound_branching (fun links => (h links).sound) (fun links => (h' links).sound) links,
    isLocal_branching (fun links => (h links).isLocal) (fun links => (h' links).isLocal) links, ?_⟩
  have first : Blames (Opens .condition) (operation operand looseness links) :=
    operations.blames.mono fun tokens ⟨more, tree, derived⟩ => ⟨more, tree, derived.plain⟩
  refine first.bind operations.isLocal (resumeCondition inner links) fun asked condition reads => ?_
  refine .ofPeek
    (fun token => if token = .symbol .question then some (branches inner links condition) else none)
    rfl ?_ ?_ ?_
  · intro token next chosen
    split at chosen <;> cases chosen
    rename_i isQuestion
    rw [isQuestion]
    exact blames_branches h' links (reads.derives operations.sound)
  · intro lexed rest next chosen
    split at chosen <;> cases chosen
    exact .inl (if_pos ‹_›)
  · intro tokens stuck named chosen failed
    split at chosen
    · cases chosen
    · cases (if_neg ‹_›).symm.trans failed

end

-----------------------------------------------------------------------------------------
-- Lists
-----------------------------------------------------------------------------------------

/-- The tokens are the front of conditions between commas, and a closing sign. -/
def OpensItems (close : Symbol) (tokens : List Token) : Prop :=
  ∃ (more : List Token) (parts : List (List Token × Expr)), parts ≠ []
    ∧ tokens ++ more = commaSeparated (parts.map Prod.fst) ++ [.symbol close]
    ∧ ∀ part ∈ parts, Derives .condition part.1 part.2

theorem Opens.items {tokens : List Token} (h : Opens .condition tokens) (close : Symbol)
    : OpensItems close tokens := by
  obtain ⟨more, tree, derived⟩ := h
  refine ⟨more ++ [.symbol close], [(tokens ++ more, tree)], by simp, ?_, by simpa using derived⟩
  simp [commaSeparated]

theorem OpensItems.cons {close : Symbol} {tokens front : List Token} {tree : Expr}
    (h : OpensItems close tokens) (first : Derives .condition front tree)
    : OpensItems close (front ++ .symbol .comma :: tokens) := by
  obtain ⟨more, parts, some, split, each⟩ := h
  obtain ⟨part, parts, rfl⟩ := List.exists_cons_of_ne_nil some
  refine ⟨more, (front, tree) :: part :: parts, by simp, ?_,
    List.forall_mem_cons.mpr ⟨first, each⟩⟩
  simpa [commaSeparated] using split

section

variable {item : Parse Expr} {inner nested : ParseWithin Expr}

/-- Where no items are allowed for, none are accepted. -/
theorem isBlamed_items_of_succ {close : Symbol} {stuck : Stuck} {named : Token}
    {read rest : List Lexed}
    (h : ∀ count, IsBlamed (OpensItems close) (items close item (count + 1)) stuck named read rest)
    (count : Nat)
    : IsBlamed (OpensItems close) (items close item count) stuck named read rest := by
  cases count with
  | zero => exact { h 0 with refuses := fun _ _ => refuses_error rfl }
  | succ count => exact h count

/-- What is blamed behind an item that is not the last one is blamed for the list. -/
theorem isBlamed_items_of_others {close : Symbol} (h : IsPredictive .condition item)
    {count : Nat} {tree : Expr} {front read rest : List Lexed} {stuck : Stuck} {named : Token}
    (first : item (front ++ (read ++ rest)) = .ok (tree, read ++ rest))
    (further : peek (read ++ rest) ≠ .symbol close)
    (blamed : IsBlamed (fun tokens => OpensItems close (bare front ++ tokens))
      (fun tokens => expect .comma tokens >>= items close item count) stuck named read rest)
    : IsBlamed (OpensItems close) (items close item (count + 1)) stuck named (front ++ read)
        rest := by
  obtain ⟨front', split, again⟩ := h.isLocal.rereads first
  obtain rfl := List.append_cancel_right split
  refine blamed.behind front fun {front' behind} isFront isNext refused => ?_
  rw [items_succ (again behind isFront (.inl isNext.symm)), resumeItems,
    if_neg (isNext ▸ further)]
  exact refused.bind _

/-- Items are refused at the same token, whatever number of them is allowed for. Witness: induction
on the number that is allowed for where the token is blamed.
-/
theorem blames_items {close : Symbol} (h : IsPredictive .condition item) {count : Nat}
    {tokens : List Lexed} (enough : tokens.length < count) {stuck : Stuck} {named : Token}
    (failed : items close item count tokens = .error stuck)
    (names : stuck.fault.named? = some named)
    : ∃ read rest, tokens = read ++ rest
      ∧ ∀ count', IsBlamed (OpensItems close) (items close item count') stuck named read rest := by
  induction count generalizing tokens with
  | zero => cases enough
  | succ count ih =>
      cases first : item tokens with
      | error found =>
          simp only [items, first] at failed
          cases failed
          obtain ⟨read, rest, rfl, blamed⟩ := h.blames.splits first names
          refine ⟨read, rest, rfl, isBlamed_items_of_succ fun count' => ?_⟩
          exact ⟨blamed.next, blamed.place, blamed.opens.items close,
            fun same isNext => (blamed.refuses same isNext).bind _⟩
      | ok result =>
          obtain ⟨tree, behind⟩ := result
          rw [items_succ first, resumeItems] at failed
          split at failed
          · cases failed
          rename_i further
          have shorter := IsSound.length_lt h.sound first
          obtain ⟨front, rfl, -⟩ := h.isLocal.rereads first
          have derived := Reads.derives ⟨front, _, first, rfl⟩ h.sound
          have failed := error_of_bind_ok (fun _ => ⟨_, rfl⟩) failed
          rcases expect_cases .comma behind with
            ⟨comma, others, rfl, isComma, taken⟩ | ⟨other, refused⟩
          · rw [taken] at failed
            rw [List.length_cons] at shorter
            obtain ⟨read, rest, rfl, blamed⟩ := ih (by omega) failed
            refine ⟨front ++ comma :: read, rest, by simp, isBlamed_items_of_succ fun count' => ?_⟩
            refine isBlamed_items_of_others h first further (IsBlamed.afterSign ?_ isComma)
            exact { blamed count' with opens := (blamed count').opens.cons derived }
          · rw [refused] at failed
            cases failed
            cases names
            refine ⟨front ++ [], behind, by simp, isBlamed_items_of_succ fun count' => ?_⟩
            refine isBlamed_items_of_others h first further (isBlamed_expect ?_ other _)
            exact Opens.items ⟨[], tree, by simpa using derived⟩ close

theorem blames_list {close : Symbol} (h : IsPredictive .condition item)
    : Blames (OpensItems close) (list close item) := by
  constructor
  intro tokens stuck named failed names
  unfold list at failed
  split at failed
  · cases failed
  rename_i further
  obtain ⟨read, rest, rfl, blamed⟩ := blames_items h (Nat.lt_succ_self _) failed names
  refine ⟨read, rest, rfl, { blamed 0 with refuses := fun {read' rest'} same isNext => ?_ }⟩
  have next := peek_append_congr same (isNext.trans (blamed 0).next.symm)
  rw [list, if_neg (next ▸ further)]
  exact (blamed _).refuses same isNext

-----------------------------------------------------------------------------------------
-- Atoms and what stands behind them
-----------------------------------------------------------------------------------------

/-- A phrase that holds a list is read as far as the list is. -/
theorem blames_list_within {close : Symbol} (h : IsPredictive .condition item) {phrase : Phrase}
    {front : List Token}
    (fits : ∀ parts : List (List Token × Expr),
      (∀ part ∈ parts, Derives .condition part.1 part.2) → ∃ tree,
        Derives phrase
          (front ++ (commaSeparated (parts.map Prod.fst) ++ [.symbol close])) tree)
    : Blames (fun tokens => Opens phrase (front ++ tokens)) (list close item) := by
  refine (blames_list h).mono fun tokens ⟨more, parts, _, split, each⟩ => ?_
  obtain ⟨tree, derived⟩ := fits parts each
  exact ⟨more, tree, by rwa [List.append_assoc, split]⟩

theorem Reads.exists_parts {close : Symbol} {tokens : List Token} {trees : List Expr}
    (h : Reads (list close item) tokens trees) (sound : IsSound .condition item)
    : ∃ parts : List (List Token × Expr),
        tokens = commaSeparated (parts.map Prod.fst) ++ [.symbol close]
        ∧ parts.map Prod.snd = trees ∧ ∀ part ∈ parts, Derives .condition part.1 part.2 := by
  obtain ⟨read, rest, taken, rfl⟩ := h
  obtain ⟨read', parts, split, spelled, named, each⟩ := readsList_of_list sound taken
  rw [← List.append_cancel_right split] at spelled
  exact ⟨parts, spelled, named, each⟩

/-- The tokens that an atom can start with. -/
def Token.startsAtom : Token → Bool
  | .number _ | .text _ | .ident _ | .symbol .openParen | .symbol .openBracket => true
  | _ => false

theorem atomBehind_of_not_startsAtom {token : Token} (other : token.startsAtom = false)
    : atomBehind item token = fun rest => .error ⟨rest, .unexpected token⟩ := by
  cases token with
  | symbol sign => cases sign <;> first | rfl | cases other
  | finish => rfl
  | _ => cases other

/-- The token that no atom starts with is blamed, when it has been taken. -/
theorem isBlamed_atom {lexed : Lexed} (other : lexed.token.startsAtom = false) (rest : List Lexed)
    : IsBlamed (Opens .atom) (primary item) ⟨rest, .unexpected lexed.token⟩ lexed.token []
        (lexed :: rest) := by
  refine ⟨rfl, rfl, ⟨[.text ""], _, .text ""⟩, fun {read' rest'} same isNext => ?_⟩
  obtain rfl := List.map_eq_nil_iff.mp same
  cases rest' with
  | nil => exact ⟨⟨[], .unexpectedEnd⟩, rfl, by simp [Fault.IsBound]⟩
  | cons lexed' rest' =>
      rw [← isNext, peek] at other
      rw [List.nil_append, primary_cons, atomBehind_of_not_startsAtom other]
      exact refuses_error rfl

theorem blames_atomBehind (h : IsPredictive .condition item) {token : Token}
    (starts : token.startsAtom = true)
    : Blames (fun tokens => Opens .atom (token :: tokens)) (atomBehind item token) := by
  unfold Token.startsAtom at starts
  split at starts
  · rename_i value
    unfold atomBehind
    dsimp only
    cases Json.Number.ofDouble? value with
    | some number => exact blames_pure _
    | none => exact blames_error fun _ => rfl
  · exact blames_pure _
  · exact blames_pure _
  · have inside : Blames (fun tokens => Opens .atom ([.symbol .openParen] ++ tokens)) item :=
      h.blames.within fun derived => ⟨[.symbol .closeParen], _, by simpa using derived.group⟩
    refine inside.bind h.isLocal
      (fun tree tokens => expect .closeParen tokens >>= fun rest => .ok (tree, rest))
      fun front tree reads => .afterExpect ?_ (blames_pure tree)
    exact ⟨[.symbol .closeParen], tree, by simpa using (reads.derives h.sound).group⟩
  · have inside : Blames (fun tokens => Opens .atom ([.symbol .openBracket] ++ tokens))
        (list .closeBracket item) :=
      blames_list_within h fun parts each => ⟨_, .array parts each⟩
    exact inside.map (isLocal_list h.isLocal .closeBracket) Expr.array
  · cases starts

theorem isPredictive_primary (h : IsPredictive .condition item)
    : IsPredictive .atom (primary item) := by
  refine ⟨isSound_primary h.sound, isLocal_primary h.isLocal, ?_⟩
  refine .ofPeek
    (fun token => if token.startsAtom then some (atomBehind item token) else none) rfl ?_ ?_ ?_
  · intro token next chosen
    split at chosen <;> cases chosen
    exact blames_atomBehind h ‹_›
  · intro lexed rest next chosen
    split at chosen <;> cases chosen
    exact .inl (primary_cons item lexed rest)
  · intro tokens stuck named chosen failed names
    split at chosen
    · cases chosen
    rename_i other
    cases tokens with
    | nil =>
        cases failed
        cases names
    | cons lexed rest =>
        have other : lexed.token.startsAtom = false := Bool.eq_false_iff.mpr other
        rw [primary_cons, atomBehind_of_not_startsAtom other] at failed
        cases failed
        cases names
        exact ⟨[], lexed :: rest, rfl, isBlamed_atom other rest⟩

theorem resembles_resumeAccess {links : Nat} {target : Expr} {lexed : Lexed} {rest : List Lexed}
    {next : Parse Expr} (h : accessBehind inner links target lexed.token = some next)
    : Resembles (resumeAccess inner links target (lexed :: rest)) (next rest) := by
  rw [resumeAccess_eq, peek]
  unfold accessBehind at h
  split at h <;> cases h <;> rename_i next <;> rw [next]
  · cases links with
    | zero => exact .inr ⟨_, _, rfl, rfl, rfl, rfl⟩
    | succ links => exact .inl rfl
  · cases links with
    | zero => exact .inr ⟨_, _, rfl, rfl, rfl, rfl⟩
    | succ links => exact .inl rfl
  · cases target with
    | ident name => exact .inl rfl
    | _ => exact .inr ⟨_, _, rfl, rfl, rfl, rfl⟩

/-- With what stands behind a sign, all that stands behind an atom blames its tokens. A call comes
first and is no name itself.
-/
theorem blames_resumeAccess_of_behind {links : Nat} (h : IsPredictive .condition (inner links))
    (member : ∀ {front target}, Derives .access front target →
      Blames (fun tokens => Opens .access (front ++ .symbol .dot :: tokens))
        (memberBehind inner target links))
    (index : ∀ {front target}, Derives .access front target →
      Blames (fun tokens => Opens .access (front ++ .symbol .openBracket :: tokens))
        (indexBehind inner target links))
    {front : List Token} {target : Expr} (start : Derives .access front target)
    : Blames (fun tokens => Opens .access (front ++ tokens)) (resumeAccess inner links target) := by
  have step {front : List Token} {target : Expr} (start : Derives .access front target)
      (call : Blames (fun tokens => Opens .access (front ++ .symbol .openParen :: tokens))
        (callBehind inner links target))
      : Blames (fun tokens => Opens .access (front ++ tokens))
          (resumeAccess inner links target) := by
    refine .ofPeek (accessBehind inner links target) rfl ?_
      (fun _ _ _ => resembles_resumeAccess) ?_
    · intro token next chosen
      unfold accessBehind at chosen
      split at chosen <;> cases chosen
      · exact member start
      · exact index start
      · exact call
    · intro tokens stuck named chosen failed
      rw [resumeAccess_of_none chosen] at failed
      cases failed
  cases target with
  | ident name =>
      have args : Blames (fun tokens => Opens .access (front ++ [.symbol .openParen] ++ tokens))
          (list .closeParen (inner links)) :=
        blames_list_within h fun parts each => ⟨_, by simpa using start.call parts each⟩
      simp only [List.append_assoc, List.singleton_append] at args
      refine step start (args.bind (isLocal_list h.isLocal .closeParen)
        (fun args => resumeAccess inner links (.call name args)) fun listed args reads => ?_)
      obtain ⟨parts, rfl, rfl, each⟩ := reads.exists_parts h.sound
      simpa using step (start.call parts each) (blames_error fun _ => rfl)
  | _ => exact step start (blames_error fun _ => rfl)

/-- The token behind a point that is no name is blamed, when it has been taken. -/
theorem isBlamed_memberBehind (opens : List Token → Prop) (here : opens []) {links : Nat}
    {target : Expr} {tokens : List Lexed} (unnamed : ∀ name, peek tokens ≠ .ident name)
    : memberBehind inner target (links + 1) tokens
        = .error ⟨tokens.tail, .expectedProperty (peek tokens)⟩
      ∧ IsBlamed opens (memberBehind inner target (links + 1))
          ⟨tokens.tail, .expectedProperty (peek tokens)⟩ (peek tokens) [] tokens := by
  have refused {tokens : List Lexed} (unnamed : ∀ name, peek tokens ≠ .ident name)
      : memberBehind inner target (links + 1) tokens
        = .error ⟨tokens.tail, .expectedProperty (peek tokens)⟩ := by
    rw [memberBehind]
    dsimp only
    split
    · exact (unnamed _ ‹_›).elim
    · rfl
  refine ⟨refused unnamed, rfl, rfl, here, fun {read' rest'} same isNext => ?_⟩
  obtain rfl := List.map_eq_nil_iff.mp same
  rw [List.nil_append, refused (isNext ▸ unnamed)]
  exact refuses_error rfl

/-- What goes on behind a point. -/
def propertyBehind (inner : ParseWithin Expr) (target : Expr) (links : Nat)
    : Token → Option (Parse Expr)
  | .ident name => some (resumeAccess inner links (.member target name))
  | _ => none

theorem blames_memberBehind {links : Nat}
    (h : ∀ {front target}, Derives .access front target →
      Blames (fun tokens => Opens .access (front ++ tokens)) (resumeAccess inner links target))
    {front : List Token} {target : Expr} (start : Derives .access front target)
    : Blames (fun tokens => Opens .access (front ++ .symbol .dot :: tokens))
        (memberBehind inner target (links + 1)) := by
  refine .ofPeek (propertyBehind inner target links) rfl ?_ ?_ ?_
  · intro token next chosen
    unfold propertyBehind at chosen
    split at chosen <;> cases chosen
    simpa using h (start.member _)
  · intro lexed rest next chosen
    unfold propertyBehind at chosen
    split at chosen <;> cases chosen
    rename_i isName
    simp only [memberBehind, peek, isName, List.tail_cons]
    exact .inl rfl
  · intro tokens stuck named chosen failed names
    have unnamed (name : String) : peek tokens ≠ .ident name := by
      intro isName
      rw [isName] at chosen
      cases chosen
    obtain ⟨refused, blamed⟩ := isBlamed_memberBehind
      (fun tokens => Opens .access (front ++ .symbol .dot :: tokens))
      ⟨[.ident ""], _, by simpa using start.member ""⟩ unnamed
    rw [refused] at failed
    cases failed
    cases names
    exact ⟨[], tokens, rfl, blamed⟩

theorem blames_indexBehind {links : Nat} (h : IsPredictive .condition (inner links))
    (h' : ∀ {front target}, Derives .access front target →
      Blames (fun tokens => Opens .access (front ++ tokens)) (resumeAccess inner links target))
    {front : List Token} {target : Expr} (start : Derives .access front target)
    : Blames (fun tokens => Opens .access (front ++ .symbol .openBracket :: tokens))
        (indexBehind inner target (links + 1)) := by
  have position : Blames (fun tokens => Opens .access (front ++ [.symbol .openBracket] ++ tokens))
      (inner links) :=
    h.blames.within fun derived =>
      ⟨[.symbol .closeBracket], _, by simpa using start.index derived⟩
  simp only [List.append_assoc, List.singleton_append] at position
  refine position.bind h.isLocal (fun position tokens =>
    expect .closeBracket tokens >>= resumeAccess inner links (.index target position))
    fun inside position reads => ?_
  have whole := start.index (reads.derives h.sound)
  refine .afterExpect ⟨[.symbol .closeBracket], _, by simpa using whole⟩ ?_
  simpa using h' whole

theorem blames_resumeAccess (h : ∀ links, IsPredictive .condition (inner links)) (links : Nat)
    {front : List Token} {target : Expr} (start : Derives .access front target)
    : Blames (fun tokens => Opens .access (front ++ tokens)) (resumeAccess inner links target) := by
  induction links generalizing front target with
  | zero =>
      exact blames_resumeAccess_of_behind (h 0) (fun _ => blames_error fun _ => rfl)
        (fun _ => blames_error fun _ => rfl) start
  | succ links ih =>
      exact blames_resumeAccess_of_behind (h (links + 1)) (blames_memberBehind ih)
        (blames_indexBehind (h links) ih) start

theorem isPredictive_postfixed (h : ∀ links, IsPredictive .condition (inner links)) (links : Nat)
    : IsPredictive .access (postfixed inner links) := by
  refine ⟨isSound_postfixed (fun links => (h links).sound) links,
    isLocal_postfixed (fun links => (h links).isLocal) links, ?_⟩
  have atoms := isPredictive_primary (h links)
  have first : Blames (Opens .access) (primary (inner links)) :=
    atoms.blames.mono fun tokens ⟨more, tree, derived⟩ => ⟨more, tree, derived.alone⟩
  exact first.bind atoms.isLocal (resumeAccess inner links) fun front tree reads =>
    blames_resumeAccess h links (reads.derives atoms.sound).alone

/-- The operand behind a sign. -/
def signedOperand (nested : ParseWithin Expr) (links : Nat) (op : UnaryOp) : Parse Expr :=
  fun tokens => nested links tokens >>= fun (operand, tokens) => .ok (.unary op operand, tokens)

theorem isPredictive_signed (h : ∀ links, IsPredictive .condition (inner links))
    (h' : ∀ links, IsPredictive .operand (nested links)) (links : Nat)
    : IsPredictive .operand (signed inner nested links) := by
  refine ⟨isSound_signed (fun links => (h links).sound) (fun links => (h' links).sound) links,
    isLocal_signed (fun links => (h links).isLocal) (fun links => (h' links).isLocal) links, ?_⟩
  refine .ofPeek (fun token => (unaryOp? token).map (signedOperand nested links)) rfl ?_ ?_ ?_
  · intro token next chosen
    obtain ⟨op, before, rfl⟩ := Option.map_eq_some_iff.mp chosen
    obtain ⟨sign, rfl, listed⟩ := unaryOp?_eq_some_iff.mp before
    have operand : Blames (fun tokens => Opens .operand ([.symbol sign] ++ tokens))
        (nested links) :=
      (h' links).blames.within fun derived => ⟨[], _, by simpa using derived.unary listed⟩
    exact operand.map (h' links).isLocal (Expr.unary op)
  · intro lexed rest next chosen
    obtain ⟨op, before, rfl⟩ := Option.map_eq_some_iff.mp chosen
    rw [signed, peek, before]
    exact .inl rfl
  · intro tokens stuck named chosen failed names
    have unsigned {tokens : List Lexed} (none : unaryOp? (peek tokens) = none)
        : signed inner nested links tokens = postfixed inner links tokens := by
      rw [signed, none]
    have chosen := Option.map_eq_none_iff.mp chosen
    rw [unsigned chosen] at failed
    obtain ⟨read, rest, rfl, blamed⟩ := (isPredictive_postfixed h links).blames.splits failed names
    obtain ⟨more, tree, derived⟩ := blamed.opens
    refine ⟨read, rest, rfl, blamed.next, blamed.place, ⟨more, tree, derived.unsigned⟩, ?_⟩
    intro read' rest' same isNext
    have next := peek_append_congr same (isNext.trans blamed.next.symm)
    rw [unsigned (next ▸ chosen)]
    exact blamed.refuses same isNext

/-- The parsers of every level of nesting are predictive, by induction on the levels that are left.
-/
theorem isPredictive_level (depth : Nat)
    : (∀ links, IsPredictive .condition ((level depth).whole links))
      ∧ ∀ links, IsPredictive .operand ((level depth).operand links) := by
  have refused (phrase : Phrase) (links : Nat) : IsPredictive phrase (tooDeep links) :=
    ⟨fun failed => (by cases failed), isLocal_error _, blames_error fun _ => rfl⟩
  induction depth with
  | zero => exact ⟨refused _, isPredictive_signed (refused _) (refused _)⟩
  | succ depth ih =>
      have whole := isPredictive_branching ih.2 ih.1
      exact ⟨whole, isPredictive_signed whole ih.2⟩

end

end FormWizard.Expr
