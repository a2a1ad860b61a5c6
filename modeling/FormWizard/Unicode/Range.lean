/-! Sets of characters as ranges of code points, and their notation in tables: `41-5A` is a range,
`100-136/2` every second code point of one, and `B5` a single code point, all in hexadecimal.
-/

namespace FormWizard.Unicode

/-- The code points from the first to the last, one in every stride. -/
structure Range where
  first : Nat
  last : Nat
  stride : Nat
deriving DecidableEq, Repr

/-- A set of code points as a list of ranges. -/
abbrev CharSet := List Range

/-- The code point lies in the range. -/
def Range.contains (range : Range) (code : Nat) : Bool :=
  range.first ≤ code && code ≤ range.last && (code - range.first) % range.stride == 0

/-- The code point lies in one of the ranges. -/
def CharSet.contains (set : CharSet) (code : Nat) : Bool :=
  set.any fun range => range.contains code

/-- The value of a hexadecimal digit; capitals are used in tables. -/
def hexDigitValue (c : Char) : Nat :=
  if c.isDigit then c.toNat - '0'.toNat else c.toNat - 'A'.toNat + 10

/-- The value of a hexadecimal numeral. -/
def hexValue (digits : List Char) : Nat :=
  digits.foldl (fun value c => 16 * value + hexDigitValue c) 0

/-- The parts of a text before and after the first of the given characters. -/
def cut (mark : Char) (chars : List Char) : List Char × List Char :=
  (chars.takeWhile (· != mark), (chars.dropWhile (· != mark)).drop 1)

/-- The words of a table, which single blanks separate. -/
def tableWords (lines : List String) : List (List Char) :=
  lines.flatMap fun line => (line.toList.splitOn ' ').filter (!·.isEmpty)

/-- The range of a word of a table. -/
def Range.ofWord (word : List Char) : Range :=
  let (bounds, stride) := cut '/' word
  let (first, last) := cut '-' bounds
  { first := hexValue first
    last := if last.isEmpty then hexValue first else hexValue last
    stride := if stride.isEmpty then 1 else hexValue stride }

/-- The set that the lines of a table list. -/
def CharSet.ofTable (lines : List String) : CharSet :=
  (tableWords lines).map Range.ofWord

end FormWizard.Unicode
