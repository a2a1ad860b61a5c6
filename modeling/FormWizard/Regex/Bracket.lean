import FormWizard.Regex.Escape

/-! Reading classes in brackets: characters, ranges, named classes and classes within, with
operations between them.
-/

namespace FormWizard.Regex

/-- A class as it is read, and how deeply classes are nested in it. Several members side by side
are nested one deeper than each of them, and so are the two sides of an operation.
-/
structure Bracketed where
  set : CharClass
  depth : Nat

/-- Members of a class side by side, with their number and the depth of the deepest one. -/
structure Members where
  set : CharClass := .empty
  count : Nat := 0
  depth : Nat := 0

/-- The members with one more. -/
def Members.add (members : Members) (one : Bracketed) : Members where
  set := .union members.set one.set
  count := members.count + 1
  depth := max members.depth one.depth

/-- The members as one part of a class. -/
def Members.whole (members : Members) : Bracketed where
  set := members.set
  depth := if members.count ≤ 1 then members.depth else members.depth + 1

/-- An operation between two parts of a class. -/
inductive ClassOp where
  | inter
  | diff
  | symDiff

/-- The class of an operation, whose sides are closed under case where case is ignored. -/
def ClassOp.apply (flags : Flags) (op : ClassOp) (left right : Bracketed) : Bracketed where
  set :=
    let left := foldedIf flags left.set
    let right := foldedIf flags right.set
    match op with
    | inter => .inter left right
    | diff => .diff left right
    | symDiff => .symDiff left right
  depth := max left.depth right.depth + 1

/-- A class in progress: whether it is negated, the operation that waits for its right side, and the
members since then.
-/
structure OpenClass where
  negated : Bool
  waiting : Option (Bracketed × ClassOp) := none
  members : Members := {}

/-- The class with one more member. -/
def OpenClass.add (current : OpenClass) (one : Bracketed) : OpenClass :=
  { current with members := current.members.add one }

/-- The class up to here, with the operation that waits carried out. -/
def OpenClass.value (flags : Flags) (current : OpenClass) : Bracketed :=
  match current.waiting with
  | none => current.members.whole
  | some (left, op) => op.apply flags left current.members.whole

/-- The class with an operation that waits for its right side. -/
def OpenClass.await (flags : Flags) (op : ClassOp) (current : OpenClass) : OpenClass where
  negated := current.negated
  waiting := some (current.value flags, op)

/-- The class when its closing bracket has been reached. -/
def OpenClass.close? (flags : Flags) (current : OpenClass) : Option Bracketed := do
  let whole := current.value flags
  return ⟨← adjusted? flags current.negated whole.set, whole.depth + 1⟩

/-- A character as a member. Where only ASCII counts, no other may be one. -/
def single? (flags : Flags) (code : Nat) : Option Bracketed :=
  if flags.isUnicode || code < 0x80 then some ⟨.range code code, 0⟩ else none

/-- The opening of a class, behind its bracket. Hyphens that come first stand for themselves, and
so does a closing bracket that comes first.
-/
def openClass (flags : Flags) (chars : List Char) : OpenClass × List Char :=
  let front := skip flags chars
  let (negated, front) :=
    match front with
    | '^' :: rest => (true, skip flags rest)
    | _ => (false, front)
  let opened : OpenClass := { negated }
  match spanCounting flags (· == '-') front with
  | ([], ']' :: rest) => (opened.add ⟨.char ']', 0⟩, rest)
  | (hyphens, rest) => (hyphens.foldl (fun current c => current.add ⟨.char c, 0⟩) opened, rest)

/-- The name between colons that makes a named class, whether the class is negated, and what is
behind it. The opening bracket has been taken.
-/
def takeClassName : Take (Bool × CharClass) := fun chars => do
  let ':' :: rest := chars | none
  let (negated, rest) :=
    match rest with
    | '^' :: rest => (true, rest)
    | _ => (false, rest)
  let (name, rest) := rest.span (· != ':')
  let ':' :: ']' :: rest := rest | none
  return ((negated, ← CharClass.bracketed? (String.ofList name)), rest)

/-- One member of a class: a character or an escape. -/
def takeMember (flags : Flags) : Take (Nat ⊕ CharClass) := fun chars => do
  match chars with
  | '\\' :: rest =>
    match ← takeEscape flags rest with
    | (Escape.literal code, rest) => return (.inl code, rest)
    | (Escape.chars set, rest) => return (.inr set, rest)
    | (Escape.look _, _) => none
  | c :: rest => return (.inl c.toNat, rest)
  | [] => none

/-- The character that decides what a hyphen in front of it means. Blanks do not count in verbose
patterns, nor does the sign that starts a comment, but the text of the comment does.
-/
def deciding? (flags : Flags) (chars : List Char) : Option Char :=
  if !flags.verbose then chars.head?
  else
    let counting :=
      match chars.dropWhile Text.isBlank with
      | '#' :: rest => rest.dropWhile Text.isBlank
      | rest => rest
    counting.head?.or chars.head?

/-- A hyphen that has a member to its right, so that it makes a range. -/
def startsRange (flags : Flags) : List Char → Bool
  | '-' :: rest => deciding? flags rest != some ']' && deciding? flags rest != some '-'
  | _ => false

/-- A member of a class or a range between two characters. -/
def takeRange (flags : Flags) : Take Bracketed := fun chars => do
  let (first, rest) ← takeMember flags chars
  let rest := skip flags rest
  if startsRange flags rest then
    let (last, rest) ← takeMember flags (skip flags rest.tail)
    let (.inl first, .inl last) := (first, last) | none
    guard (first ≤ last ∧ (flags.isUnicode ∨ last < 0x80))
    return (⟨.range first last, 0⟩, rest)
  else
    match first with
    | .inl code => return (← single? flags code, rest)
    | .inr set => return (⟨set, 0⟩, rest)

/-- The operation that two equal characters stand for between parts of a class. -/
def classOp? (chars : List Char) : Option ClassOp :=
  match chars with
  | '&' :: '&' :: _ => some .inter
  | '-' :: '-' :: _ => some .diff
  | '~' :: '~' :: _ => some .symDiff
  | _ => none

/-- The rest of a class, given the classes around it, innermost first. Every round takes at least
one character, which bounds the rounds.
-/
def takeClass (flags : Flags)
    : (rounds : Nat) → (current : OpenClass) → (outer : List OpenClass) → Take Bracketed
  | 0, _, _, _ => none
  | rounds + 1, current, outer, source => do
    let front := skip flags source
    match classOp? front with
    | some op => takeClass flags rounds (current.await flags op) outer (front.drop 2)
    | none =>
      match front with
      | [] => none
      | ']' :: rest =>
        let closed ← current.close? flags
        match outer with
        | [] => return (closed, rest)
        | parent :: outer => takeClass flags rounds (parent.add closed) outer rest
      | '[' :: rest =>
        match takeClassName rest with
        | some ((negated, set), rest) =>
          let set ← adjusted? flags negated set
          takeClass flags rounds (current.add ⟨set, 0⟩) outer rest
        | none =>
          let (inner, rest) := openClass flags rest
          takeClass flags rounds inner (current :: outer) rest
      | _ =>
        let (part, rest) ← takeRange flags front
        takeClass flags rounds (current.add part) outer rest

end FormWizard.Regex
