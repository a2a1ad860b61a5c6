import FormWizard.Regex.Basic
import FormWizard.Regex.Property
import FormWizard.Text.Blank

/-! Reading what a backslash starts in a pattern. Every reader takes something off the front of the
characters and gives up on what is no pattern.
-/

namespace FormWizard.Regex

/-- The flags that are in force at a place of a pattern. -/
structure Flags where
  ignoreCase : Bool := false
  multiLine : Bool := false
  dotAll : Bool := false
  carriageReturns : Bool := false
  verbose : Bool := false
  isUnicode : Bool := true

/-- Takes something off the front, or gives up. -/
abbrev Take (α : Type) := List Char → Option (α × List Char)

/-! ### Blanks and comments -/

/-- What is left behind the comment that the characters stand in, or behind blanks. -/
def skipVerbose (inComment : Bool) : List Char → List Char
  | [] => []
  | c :: rest =>
    if inComment then skipVerbose (c != '\n') rest
    else if Text.isBlank c then skipVerbose false rest
    else if c == '#' then skipVerbose true rest
    else c :: rest

/-- In verbose patterns blanks and comments do not count. -/
def skip (flags : Flags) (chars : List Char) : List Char :=
  if flags.verbose then skipVerbose false chars else chars

/-- The longest start of which every character that counts belongs to it, and the rest. The rest
starts with a character that counts.
-/
def spanVerbose (isPart : Char → Bool) (inComment : Bool) : List Char → List Char × List Char
  | [] => ([], [])
  | c :: rest =>
    if inComment then spanVerbose isPart (c != '\n') rest
    else if Text.isBlank c then spanVerbose isPart false rest
    else if c == '#' then spanVerbose isPart true rest
    else if isPart c then
      let (part, rest) := spanVerbose isPart false rest
      (c :: part, rest)
    else ([], c :: rest)

/-- The longest start that belongs to it, without blanks and comments in verbose patterns, and the
rest.
-/
def spanCounting (flags : Flags) (isPart : Char → Bool) (chars : List Char)
    : List Char × List Char :=
  if flags.verbose then spanVerbose isPart false chars else chars.span isPart

/-! ### Characters by their codes -/

/-- What a backslash and the characters after it stand for. -/
inductive Escape where
  | literal (code : Nat)
  | chars (set : CharClass)
  | look (condition : Look)

/-- The value of a hexadecimal digit. -/
def hexDigit? (c : Char) : Option Nat :=
  if c.isDigit then some (c.toNat - '0'.toNat)
  else if 'a' ≤ c ∧ c ≤ 'f' then some (c.toNat - 'a'.toNat + 10)
  else if 'A' ≤ c ∧ c ≤ 'F' then some (c.toNat - 'A'.toNat + 10)
  else none

/-- The character with the given hexadecimal code. -/
def hexChar? (digits : List Char) : Option Nat := do
  guard (!digits.isEmpty)
  let values ← digits.mapM hexDigit?
  let code := values.foldl (fun value digit => 16 * value + digit) 0
  guard code.isValidChar
  return code

/-- The given number of characters that count. -/
def takeCounting (flags : Flags) : (count : Nat) → Take (List Char)
  | 0, source => some ([], source)
  | count + 1, source =>
    match skip flags source with
    | [] => none
    | c :: rest => (takeCounting flags count rest).map fun (part, rest) => (c :: part, rest)

/-- The characters that count between an opening brace, which has been taken, and the closing
one.
-/
def takeBraced (flags : Flags) : Take (List Char) := fun chars =>
  match spanCounting flags (· != '\x7d') chars with
  | (inner, '\x7d' :: rest) => some (inner, rest)
  | _ => none

/-- The number of digits is fixed, unless braces hold them. Where only ASCII counts, a code of two
digits stands for a byte, and one beyond ASCII is refused.
-/
def takeHex (flags : Flags) (count : Nat) : Take Nat := fun chars => do
  match skip flags chars with
  | '\x7b' :: rest =>
    let (digits, rest) ← takeBraced flags rest
    return (← hexChar? digits, rest)
  | source =>
    let (digits, rest) ← takeCounting flags count source
    let code ← hexChar? digits
    guard (flags.isUnicode || count != 2 || code < 0x80)
    return (code, rest)

/-! ### Classes -/

/-- A class by the negation of a name, where the names say so. -/
def negatedIf (negated : Bool) (set : CharClass) : CharClass :=
  if negated then .complement set else set

/-- A class closed under case where case is ignored. -/
def foldedIf (flags : Flags) (set : CharClass) : CharClass :=
  if !flags.ignoreCase then set else if flags.isUnicode then .folded set else .asciiFolded set

/-- A class as the pattern names it, with case and negation applied. Where only ASCII counts, a
negated class would hold parts of characters and is refused.
-/
def adjusted? (flags : Flags) (negated : Bool) (set : CharClass) : Option CharClass :=
  if negated && !flags.isUnicode then none else some (negatedIf negated (foldedIf flags set))

/-- The parts of a text before and after the first place where the given mark stands. -/
def splitAtMark? (mark : List Char) : List Char → Option (List Char × List Char)
  | [] => none
  | c :: rest =>
    if mark.isPrefixOf (c :: rest) then some ([], (c :: rest).drop mark.length)
    else (splitAtMark? mark rest).map fun (before, behind) => (c :: before, behind)

/-- A class by the text between the braces: a name, or a property and a value with a mark between
them, one of which says that the value is not the given one.
-/
def propertyClass? (inner : List Char) : Option (Bool × CharClass) :=
  match splitAtMark? ['!', '='] inner with
  | some (property, value) => (CharClass.valued? property value).map ((true, ·))
  | none =>
    match (splitAtMark? [':'] inner).or (splitAtMark? ['='] inner) with
    | some (property, value) => (CharClass.valued? property value).map ((false, ·))
    | none => (CharClass.named? inner).map ((false, ·))

/-- A class of Unicode, by one letter or by a name between braces. -/
def takeProperty (flags : Flags) (negated : Bool) : Take CharClass := fun chars => do
  guard flags.isUnicode
  match skip flags chars with
  | '\x7b' :: rest =>
    let (inner, rest) ← takeBraced flags rest
    let (unlike, set) ← propertyClass? inner
    return (← adjusted? flags (negated != unlike) set, rest)
  | '\\' :: _ => none
  | c :: rest => return (← adjusted? flags negated (← CharClass.named? [c]), rest)
  | [] => none

/-- The class of a letter behind a backslash, which is closed under case. -/
def letterClass? (flags : Flags) (negated : Bool) (set : CharClass) : Option CharClass :=
  adjusted? { flags with ignoreCase := false } negated set

/-! ### Any escape -/

/-- The characters that have a meaning in patterns. -/
def isMeta (c : Char) : Bool :=
  "\\.+*?()|[]\x7b\x7d^$#&-~".toList.contains c

/-- The characters that a backslash may stand in front of without need. -/
def isEscapable (c : Char) : Bool :=
  isMeta c || (c.toNat < 0x80 && !c.isAlphanum && c != '<' && c != '>')

/-- A condition on word boundaries with a name between braces. If no name starts there, the plain
boundary is meant and the brace belongs to what follows.
-/
def takeBoundary (flags : Flags) : Take Look := fun chars =>
  let plain : Option (Look × List Char) := some (.wordBoundary flags.isUnicode, chars)
  let isNamePart := fun c : Char => c.isAlpha || c == '-'
  match chars with
  | '\x7b' :: rest =>
    match spanCounting flags isNamePart rest with
    | (_, []) => none
    | ([], _) => plain
    | (name, '\x7d' :: rest) =>
      match String.ofList name with
      | "start" => some (.wordStart flags.isUnicode, rest)
      | "end" => some (.wordEnd flags.isUnicode, rest)
      | "start-half" => some (.wordStartHalf flags.isUnicode, rest)
      | "end-half" => some (.wordEndHalf flags.isUnicode, rest)
      | _ => none
    | _ => none
  | _ => plain

/-- What follows a backslash. -/
def takeEscape (flags : Flags) : Take Escape := fun chars => do
  match chars with
  | [] => none
  | c :: rest =>
    if isEscapable c then return (.literal c.toNat, rest)
    match c with
    | 'x' =>
      let (code, rest) ← takeHex flags 2 rest
      return (.literal code, rest)
    | 'u' =>
      let (code, rest) ← takeHex flags 4 rest
      return (.literal code, rest)
    | 'U' =>
      let (code, rest) ← takeHex flags 8 rest
      return (.literal code, rest)
    | 'p' | 'P' =>
      let (set, rest) ← takeProperty flags (c == 'P') rest
      return (.chars set, rest)
    | 'd' | 'D' =>
      let set ← letterClass? flags (c == 'D') (CharClass.digits flags.isUnicode)
      return (.chars set, rest)
    | 's' | 'S' =>
      let set ← letterClass? flags (c == 'S') (CharClass.blanks flags.isUnicode)
      return (.chars set, rest)
    | 'w' | 'W' =>
      let set ← letterClass? flags (c == 'W') (CharClass.wordParts flags.isUnicode)
      return (.chars set, rest)
    | 'a' => return (.literal 7, rest)
    | 'f' => return (.literal 12, rest)
    | 't' => return (.literal 9, rest)
    | 'n' => return (.literal 10, rest)
    | 'r' => return (.literal 13, rest)
    | 'v' => return (.literal 11, rest)
    | 'A' => return (.look .textStart, rest)
    | 'z' => return (.look .textEnd, rest)
    | 'b' =>
      let (condition, rest) ← takeBoundary flags rest
      return (.look condition, rest)
    | 'B' => return (.look (.noWordBoundary flags.isUnicode), rest)
    | '<' => return (.look (.wordStart flags.isUnicode), rest)
    | '>' => return (.look (.wordEnd flags.isUnicode), rest)
    | _ => none

end FormWizard.Regex
