import FormWizard.Unicode.Case

/-! Classes of characters in patterns. -/

namespace FormWizard.Regex

/-- A class of code points, built by the set operations of patterns. A folded class also holds
what differs from its members by case alone.
-/
inductive CharClass where
  | empty
  | range (first last : Nat)
  | table (set : Unicode.CharSet)
  | union (left right : CharClass)
  | inter (left right : CharClass)
  | diff (left right : CharClass)
  | symDiff (left right : CharClass)
  | complement (inner : CharClass)
  | folded (inner : CharClass)
  | asciiFolded (inner : CharClass)

namespace CharClass

/-- The other case of an ASCII letter, and the code point itself. -/
def asciiCases (code : Nat) : List Nat :=
  if 0x41 ≤ code ∧ code ≤ 0x5A then [code, code + 0x20]
  else if 0x61 ≤ code ∧ code ≤ 0x7A then [code, code - 0x20]
  else [code]

/-- The code point belongs to the class. -/
def contains : CharClass → Nat → Bool
  | empty, _ => false
  | range first last, code => first ≤ code && code ≤ last
  | table set, code => set.contains code
  | union left right, code => left.contains code || right.contains code
  | inter left right, code => left.contains code && right.contains code
  | diff left right, code => left.contains code && !right.contains code
  | symDiff left right, code => left.contains code != right.contains code
  | complement inner, code => !inner.contains code
  | folded inner, code => (Unicode.sameFold code).any inner.contains
  | asciiFolded inner, code => (asciiCases code).any inner.contains

/-- The class of one character. -/
def char (c : Char) : CharClass :=
  .range c.toNat c.toNat

/-- The characters of a list of ranges. -/
def ofRanges (ranges : List (Nat × Nat)) : CharClass :=
  ranges.foldr (fun (first, last) rest => .union (.range first last) rest) .empty

/-- The greatest code point. -/
def lastCode : Nat := 0x10FFFF

/-- Every character. -/
def all : CharClass :=
  .range 0 lastCode

/-- The decimal digits of all scripts, or of ASCII. -/
def digits (isUnicode : Bool) : CharClass :=
  if isUnicode then .table Unicode.decimalDigits else .range 0x30 0x39

/-- The blanks of Unicode, or of ASCII. -/
def blanks (isUnicode : Bool) : CharClass :=
  if isUnicode then .table Unicode.whiteSpace else ofRanges [(9, 13), (0x20, 0x20)]

/-- The characters of words in ASCII. -/
def asciiWord : CharClass :=
  ofRanges [(0x30, 0x39), (0x41, 0x5A), (0x5F, 0x5F), (0x61, 0x7A)]

/-- The characters of words in all scripts, or in ASCII. -/
def wordParts (isUnicode : Bool) : CharClass :=
  if isUnicode then .table Unicode.wordCharacters else asciiWord

/-- The classes with names between brackets and colons. All hold ASCII alone. -/
def bracketed? (name : String) : Option CharClass :=
  match name with
  | "alnum" => some (ofRanges [(0x30, 0x39), (0x41, 0x5A), (0x61, 0x7A)])
  | "alpha" => some (ofRanges [(0x41, 0x5A), (0x61, 0x7A)])
  | "ascii" => some (.range 0 0x7F)
  | "blank" => some (ofRanges [(9, 9), (0x20, 0x20)])
  | "cntrl" => some (ofRanges [(0, 0x1F), (0x7F, 0x7F)])
  | "digit" => some (.range 0x30 0x39)
  | "graph" => some (.range 0x21 0x7E)
  | "lower" => some (.range 0x61 0x7A)
  | "print" => some (.range 0x20 0x7E)
  | "punct" => some (ofRanges [(0x21, 0x2F), (0x3A, 0x40), (0x5B, 0x60), (0x7B, 0x7E)])
  | "space" => some (ofRanges [(9, 13), (0x20, 0x20)])
  | "upper" => some (.range 0x41 0x5A)
  | "word" => some asciiWord
  | "xdigit" => some (ofRanges [(0x30, 0x39), (0x41, 0x46), (0x61, 0x66)])
  | _ => none

end CharClass

end FormWizard.Regex
