import FormWizard.Text.Blank
import FormWizard.Text.Numeral

/-! Data paths such as `$.order.lines[1].qty`: how a text splits into segments, and the one
canonical spelling of a list of segments.
-/

namespace FormWizard

/-- One step of a data path: a member by its key, or an item by its index. -/
inductive Segment where
  | key (name : String)
  | index (position : Nat)
deriving DecidableEq, Repr

/-- A data path as the list of its steps from the root. -/
abbrev DataPath := List Segment

namespace DataPath

/-- The key that stands between two separators, if anything but blanks stands there. -/
def bareKey (chars : List Char) : DataPath :=
  let name := Text.trim chars
  if name.isEmpty then [] else [.key (String.ofList name)]

/-- The characters between two equal quotes at the two ends. -/
def unquoted? (quote : Char) (chars : List Char) : Option (List Char) :=
  match chars with
  | first :: rest =>
    if first = quote ∧ rest.getLast? = some quote then some rest.dropLast else none
  | [] => none

/-- What stands in brackets: a quoted key, an index, or else a key as it stands. -/
def bracketed (chars : List Char) : Segment :=
  let inner := Text.trim chars
  match (unquoted? '\'' inner).or (unquoted? '"' inner) with
  | some name => .key (String.ofList name)
  | none =>
    match Text.natural? inner with
    | some position => .index position
    | none => .key (String.ofList inner)

mutual

/-- Splits what follows a separator. The first argument holds the characters since then, last
one first.
-/
def splitKeys (pending : List Char) : List Char → DataPath
  | [] => bareKey pending.reverse
  | c :: rest =>
    if c = '.' then bareKey pending.reverse ++ splitKeys [] rest
    else if c = '[' then bareKey pending.reverse ++ splitBracket [] rest
    else splitKeys (c :: pending) rest

/-- Splits what follows an opening bracket. The closing one may be missing at the end. -/
def splitBracket (pending : List Char) : List Char → DataPath
  | [] => [bracketed pending.reverse]
  | c :: rest =>
    if c = ']' then bracketed pending.reverse :: splitKeys [] rest
    else splitBracket (c :: pending) rest

end

/-- The segments of a path spelled by the given characters. The root sign in front is optional.
-/
def split (chars : List Char) : DataPath :=
  let body := Text.trim chars
  match body with
  | '$' :: rest => splitKeys [] rest
  | _ => splitKeys [] body

/-- The segments of a path as it is written. -/
def ofText (text : String) : DataPath :=
  split text.toList

/-- A segment in the canonical spelling. -/
def Segment.spelling : Segment → List Char
  | .key name => '.' :: name.toList
  | .index position => '[' :: Text.naturalDigits position ++ [']']

/-- The canonical spelling: the root sign followed by `.key` and `[index]` parts. -/
def spelling (path : DataPath) : List Char :=
  '$' :: path.flatMap Segment.spelling

/-- The canonical spelling as text. -/
def text (path : DataPath) : String :=
  String.ofList (spelling path)

/-- The canonical spelling of the path that a text spells. -/
def normalize (path : String) : String :=
  text (ofText path)

/-- The last key of a path. A dependency is bound to this name inside an expression. -/
def leafName? (path : DataPath) : Option String :=
  path.reverse.findSome? fun
    | .key name => some name
    | .index _ => none

end DataPath

end FormWizard
