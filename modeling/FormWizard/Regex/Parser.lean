import FormWizard.Regex.Bracket
import FormWizard.Regex.Size
import FormWizard.Text.Numeral

/-! Reading patterns: repetitions, groups and whole patterns. Every reader takes something off the
front of the characters and gives up on what is no pattern.
-/

namespace FormWizard.Regex

/-! ### Repetitions -/

/-- A decimal number, with blanks around it. -/
def takeCount (flags : Flags) : Take Nat := fun chars => do
  let (digits, rest) := spanCounting flags Char.isDigit (chars.dropWhile Text.isBlank)
  guard (!digits.isEmpty)
  let value := Text.digitsValue digits
  guard (value < Nat.pow 2 32)
  return (value, skip flags (rest.dropWhile Text.isBlank))

/-- The bounds of a repetition, behind the opening brace. -/
def takeBounds (flags : Flags) : Take (Nat × Option Nat) := fun chars => do
  let (least, rest) ← takeCount flags (skip flags chars)
  match rest with
  | '\x7d' :: rest => return ((least, some least), rest)
  | ',' :: rest =>
    match skip flags rest with
    | '\x7d' :: rest => return ((least, none), rest)
    | rest =>
      let (greatest, rest) ← takeCount flags rest
      let '\x7d' :: rest := rest | none
      guard (least ≤ greatest)
      return ((least, some greatest), rest)
  | _ => none

/-! ### Groups -/

/-- A part of a sequence, with the number of groups, repetitions and the like that are nested in
it. What only sets flags cannot be repeated.
-/
structure Part where
  pattern : Regex
  depth : Nat := 0
  isRepeatable : Bool := true

/-- The part that some parts make up together, the first of which is given apart. It is nested one
deeper than they are unless it is the only one.
-/
def Part.join (combine : Regex → Regex → Regex) (first : Part) (rest : List Part) : Part where
  pattern := rest.foldl (fun pattern part => combine pattern part.pattern) first.pattern
  depth :=
    if rest.isEmpty then first.depth
    else rest.foldl (fun depth part => max depth part.depth) first.depth + 1

/-- A group in progress: its number if it has one, the alternatives that are finished and the parts
of the current one, both last one first, and the flags to return to at its end.
-/
structure Group where
  number : Option Nat := none
  alternatives : List Part := []
  parts : List Part := []
  outerFlags : Flags := {}

/-- The current alternative as a whole. -/
def Group.sequence (group : Group) : Part :=
  match group.parts.reverse with
  | [] => { pattern := .empty }
  | first :: rest => .join .seq first rest

/-- All alternatives of a group. -/
def Group.whole (group : Group) : Part :=
  match group.alternatives.reverse with
  | [] => group.sequence
  | first :: rest => .join .alt first (rest ++ [group.sequence])

/-- The state of the reader: the innermost group, the groups around it, the flags in force, and the
number and the names of the groups so far.
-/
structure State where
  current : Group := {}
  outer : List Group := []
  flags : Flags := {}
  groups : Nat := 0
  names : List String := []

/-- The state with one more part. -/
def State.push (part : Part) (state : State) : State :=
  { state with current := { state.current with parts := part :: state.current.parts } }

/-- The state with its last part repeated. -/
def State.repeatLast (least : Nat) (greatest : Option Nat) (state : State) : Option State :=
  match state.current.parts with
  | ⟨pattern, depth, true⟩ :: rest =>
    let part : Part := { pattern := .many pattern least greatest, depth := depth + 1 }
    some { state with current := { state.current with parts := part :: rest } }
  | _ => none

/-- The state with a new group opened under the given flags. -/
def State.openGroup (number : Option Nat) (flags : Flags) (state : State) : State :=
  { state with
    current := { number, outerFlags := state.flags }
    outer := state.current :: state.outer
    flags := flags }

/-- The state with a new group opened that has the next number. -/
def State.openNumbered (state : State) : State :=
  { state with groups := state.groups + 1 }.openGroup (some (state.groups + 1)) state.flags

/-- The state with the innermost group closed. -/
def State.closeGroup (state : State) : Option State :=
  match state.outer with
  | [] => none
  | parent :: outer =>
    let ⟨pattern, depth, _⟩ := state.current.whole
    some <| State.push { pattern := .group state.current.number pattern, depth := depth + 1 }
      { state with current := parent, outer := outer, flags := state.current.outerFlags }

/-- The state with the current alternative finished. -/
def State.alternate (state : State) : State :=
  { state with
    current := { state.current with
      alternatives := state.current.sequence :: state.current.alternatives
      parts := [] } }

/-- The flags with one of them set or cleared. -/
def Flags.set? (flags : Flags) (letter : Char) (value : Bool) : Option Flags :=
  match letter with
  | 'i' => some { flags with ignoreCase := value }
  | 'm' => some { flags with multiLine := value }
  | 's' => some { flags with dotAll := value }
  | 'R' => some { flags with carriageReturns := value }
  | 'x' => some { flags with verbose := value }
  | 'u' => some { flags with isUnicode := value }
  | 'U' => some flags
  | _ => none

/-- Letters of flags, each at most once, those behind a hyphen to be cleared. At least one letter
follows a hyphen.
-/
def takeFlags (value : Bool) (seen : List Char) (flags : Flags) : Take Flags
  | [] => none
  | c :: rest =>
    if c == ':' || c == ')' then
      if seen.head? = some '-' then none else some (flags, c :: rest)
    else if seen.contains c then none
    else if c == '-' then takeFlags false (c :: seen) flags rest
    else
      match flags.set? c value with
      | some flags => takeFlags value (c :: seen) flags rest
      | none => none

/-- The characters of names of groups. -/
def isGroupNamePart (isFirst : Bool) (c : Char) : Bool :=
  let code := c.toNat
  let isLetter := Unicode.alphabetic.contains code
  c == '_' || isLetter
    || (!isFirst && (c == '.' || c == '[' || c == ']'
      || (Unicode.decimalDigits ++ Unicode.letterNumbers ++ Unicode.otherNumbers).contains code))

/-- A group with a name, which no other group has. -/
def takeNamedGroup (state : State) : Take State := fun chars => do
  let name := chars.takeWhile (· != '>')
  let first :: others := name | none
  guard (name.length < chars.length)
  guard (isGroupNamePart true first && others.all (isGroupNamePart false))
  let text := String.ofList name
  guard (!state.names.contains text)
  let state := { state with names := text :: state.names }
  return (state.openNumbered, chars.drop (name.length + 1))

/-- What follows an opening parenthesis: a named group, flags for the rest of the group around, a
group with flags of its own, or a plain group. Conditions on what comes next or before are not
supported.
-/
def takeGroup (state : State) : Take State := fun chars => do
  match skip state.flags chars with
  | '?' :: '=' :: _ | '?' :: '!' :: _ | '?' :: '<' :: '=' :: _ | '?' :: '<' :: '!' :: _ => none
  | '?' :: 'P' :: '<' :: rest | '?' :: '<' :: rest => takeNamedGroup state rest
  | '?' :: rest =>
    let (flags, behind) ← takeFlags true [] state.flags rest
    match behind with
    | ':' :: behind => return (state.openGroup none flags, behind)
    | ')' :: behind =>
      guard (behind.length + 1 < rest.length)
      let part : Part := { pattern := .empty, isRepeatable := false }
      return ({ state.push part with flags := flags }, behind)
    | _ => none
  | rest => return (state.openNumbered, rest)

/-! ### Whole patterns -/

/-- A character that stands for itself. -/
def literal (flags : Flags) (code : Nat) : Regex :=
  let set : CharClass := .range code code
  .chars (if flags.isUnicode || code < 0x80 then foldedIf flags set else set)

/-- Any character, but line breaks only where the flags admit them. Where only ASCII counts it
would match parts of characters and is refused.
-/
def anyChar? (flags : Flags) : Option Regex :=
  let breaks : CharClass :=
    if flags.dotAll then .empty
    else if flags.carriageReturns then .union (.range 10 10) (.range 13 13)
    else .range 10 10
  if flags.isUnicode then some (.chars (.complement breaks)) else none

/-- The mark behind a repetition that makes it prefer fewer rounds. It makes no difference to
whether there is a match.
-/
def skipLazy : List Char → List Char
  | '?' :: rest => rest
  | others => others

/-- What the next character of a pattern, which is given apart, does to the state. -/
def step (state : State) (c : Char) : Take State := fun rest => do
  let flags := state.flags
  match c with
  | '(' => takeGroup state rest
  | ')' => return (← state.closeGroup, rest)
  | '|' => return (state.alternate, rest)
  | '[' =>
    let (opened, inner) := openClass flags rest
    let (⟨set, depth⟩, rest) ← takeClass flags (rest.length + 1) opened [] inner
    return (state.push { pattern := .chars set, depth }, rest)
  | '?' => return (← state.repeatLast 0 (some 1), skipLazy rest)
  | '*' => return (← state.repeatLast 0 none, skipLazy rest)
  | '+' => return (← state.repeatLast 1 none, skipLazy rest)
  | '\x7b' =>
    let ((least, greatest), rest) ← takeBounds flags rest
    return (← state.repeatLast least greatest, skipLazy (skip flags rest))
  | '.' => return (state.push { pattern := ← anyChar? flags }, rest)
  | '^' =>
    let look : Look := if flags.multiLine then .lineStart flags.carriageReturns else .textStart
    return (state.push { pattern := .look look }, rest)
  | '$' =>
    let look : Look := if flags.multiLine then .lineEnd flags.carriageReturns else .textEnd
    return (state.push { pattern := .look look }, rest)
  | '\\' =>
    match ← takeEscape flags rest with
    | (.literal code, rest) => return (state.push { pattern := literal flags code }, rest)
    | (.chars set, rest) => return (state.push { pattern := .chars set }, rest)
    | (.look condition, rest) => return (state.push { pattern := .look condition }, rest)
  | c => return (state.push { pattern := literal flags c.toNat }, rest)

/-- Reads the rest of a pattern. Every round takes at least one character, which bounds the
rounds.
-/
def run : (rounds : Nat) → State → List Char → Option State
  | 0, _, _ => none
  | rounds + 1, state, source =>
    match skip state.flags source with
    | [] => some state
    | c :: rest =>
      match step state c rest with
      | some (state, rest) => run rounds state rest
      | none => none

/-- Groups, repetitions and the like may be nested to this depth. -/
def maxDepth : Nat := 250

/-- Reads a pattern, which must not be nested too deeply or be too large. -/
def parse? (source : String) : Option Regex := do
  let chars := source.toList
  let state ← run (chars.length + 1) {} chars
  guard state.outer.isEmpty
  let whole := state.current.whole
  guard (whole.depth ≤ maxDepth && isAffordable whole.pattern)
  return whole.pattern

end FormWizard.Regex
