import FormWizard.Regex.CharClass

/-! Patterns as trees, and the places in a text at which a match of one may end. Sets of places are
numbers, so that all matches that start somewhere are followed at once.
-/

namespace FormWizard

namespace Regex

/-- A condition on a place in a text. Line breaks are the line feed alone, or the carriage return
as well.
-/
inductive Look where
  | textStart
  | textEnd
  | lineStart (carriageReturns : Bool)
  | lineEnd (carriageReturns : Bool)
  | wordBoundary (isUnicode : Bool)
  | noWordBoundary (isUnicode : Bool)
  | wordStart (isUnicode : Bool)
  | wordEnd (isUnicode : Bool)
  | wordStartHalf (isUnicode : Bool)
  | wordEndHalf (isUnicode : Bool)
deriving DecidableEq

end Regex

/-- A pattern. A group has a number if what it matched can be told apart from the whole. -/
inductive Regex where
  | empty
  | chars (set : Regex.CharClass)
  | look (condition : Regex.Look)
  | seq (first second : Regex)
  | alt (left right : Regex)
  | many (inner : Regex) (least : Nat) (greatest : Option Nat)
  | group (number : Option Nat) (inner : Regex)

namespace Regex

/-- A place in a text: the code points before and after it. -/
structure Place where
  before : Option Nat
  after : Option Nat

/-- The places of a text, from its start to its end. -/
def places (before : Option Nat) : List Nat → List Place
  | [] => [⟨before, none⟩]
  | code :: rest => ⟨before, some code⟩ :: places (some code) rest

namespace Look

/-- There is a character and it belongs to words. -/
def isWord (isUnicode : Bool) (code : Option Nat) : Bool :=
  code.any (CharClass.wordParts isUnicode).contains

/-- The condition holds at a place. Between a carriage return and a line feed no line starts or
ends.
-/
def holds (look : Look) (place : Place) : Bool :=
  let isLineFeed := fun code : Option Nat => code == some 10
  let isReturn := fun code : Option Nat => code == some 13
  match look with
  | textStart => place.before.isNone
  | textEnd => place.after.isNone
  | lineStart false => place.before.isNone || isLineFeed place.before
  | lineStart true =>
    place.before.isNone || isLineFeed place.before
      || (isReturn place.before && !isLineFeed place.after)
  | lineEnd false => place.after.isNone || isLineFeed place.after
  | lineEnd true =>
    place.after.isNone || isReturn place.after
      || (isLineFeed place.after && !isReturn place.before)
  | wordBoundary u => isWord u place.before != isWord u place.after
  | noWordBoundary u => isWord u place.before == isWord u place.after
  | wordStart u => !isWord u place.before && isWord u place.after
  | wordEnd u => isWord u place.before && !isWord u place.after
  | wordStartHalf u => !isWord u place.before
  | wordEndHalf u => !isWord u place.after

end Look

/-- A set of places of a text. A place belongs to it if the bit of that number is set. -/
abbrev Marks := Nat

namespace Marks

/-- The places at which a list says so. -/
def ofBools (flags : List Bool) : Marks :=
  flags.foldr (fun flag marks => 2 * marks + flag.toNat) 0

/-- The places from the first to the one of the given number. -/
def upTo (last : Nat) : Marks :=
  (1 <<< (last + 1)) - 1

/-- The places of the first set that are not in the second. -/
def without (left right : Marks) : Marks :=
  left ^^^ (left &&& right)

/-- The marks reached by repeating a step without bound, where new places go on from there. Every
round marks a new place, so a text has at most as many rounds as places.
-/
def closure (step : Marks → Marks) : (rounds : Nat) → (reached newest : Marks) → Marks
  | 0, reached, _ => reached
  | rounds + 1, reached, newest =>
    let further := (step newest).without reached
    if further = 0 then reached else closure step rounds (reached ||| further) further

/-- The marks after exactly the given number of steps. -/
def iterate (step : Marks → Marks) : (count : Nat) → Marks → Marks
  | 0, marks => marks
  | count + 1, marks =>
    let next := step marks
    if next = marks then marks else iterate step count next

end Marks

/-- A pattern seen with one text: conditions and classes are given by the places where they let a
match go on.
-/
inductive Route where
  | stay (allowed : Marks)
  | advance (allowed : Marks)
  | seq (first second : Route)
  | alt (left right : Route)
  | many (inner : Route) (least : Nat) (greatest : Option Nat)

/-- The route of a pattern through a text. -/
def route (text : List Nat) : Regex → Route
  | empty => .stay (.upTo text.length)
  | chars set => .advance (.ofBools (text.map set.contains))
  | look condition => .stay (.ofBools ((places none text).map condition.holds))
  | seq first second => .seq (route text first) (route text second)
  | alt left right => .alt (route text left) (route text right)
  | many inner least greatest => .many (route text inner) least greatest
  | group _ inner => route text inner

/-- The places at which a match may end that starts at a marked place of a text of the given
length.
-/
def Route.ends (length : Nat) : Route → Marks → Marks
  | stay allowed, marks => marks &&& allowed
  | advance allowed, marks => (marks &&& allowed) <<< 1
  | seq first second, marks => second.ends length (first.ends length marks)
  | alt left right, marks => left.ends length marks ||| right.ends length marks
  | many inner least greatest, marks =>
    let start := Marks.iterate (inner.ends length) least marks
    let rounds :=
      match greatest with
      | none => length + 1
      | some greatest => min (greatest - least) (length + 1)
    Marks.closure (inner.ends length) rounds start start

/-- Some part of the text matches the pattern. -/
def isMatch (pattern : Regex) (text : String) : Bool :=
  let codes := text.toList.map Char.toNat
  (route codes pattern).ends codes.length (.upTo codes.length) != 0

end Regex

end FormWizard
