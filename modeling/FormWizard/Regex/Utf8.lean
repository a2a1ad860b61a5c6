import FormWizard.Regex.Runs

/-! Runs of code points as sequences of ranges of bytes: what one sequence matches, byte by byte, is
the encoding of some characters of the run, and every character of it is matched by one sequence.
-/

namespace FormWizard.Regex

/-- A range of bytes by its first and its last one. -/
abbrev ByteRange := Nat × Nat

namespace Utf8

/-- A byte that goes on a character holds this many values. -/
def radix : Nat := 64

/-- The byte that goes on a character with the given value. -/
def tailByte (value : Nat) : Nat :=
  0x80 + value

/-- The sequences for a run of numbers of the given number of further digits, where the first digit
is written in a way of its own. Digits that admit everything behind them are taken together.
-/
def sequences (firstByte : Nat → Nat) : (further : Nat) → (first last : Nat) → List (List ByteRange)
  | 0, first, last => [[(firstByte first, firstByte last)]]
  | further + 1, first, last =>
    let unit := Nat.pow radix (further + 1)
    let within (digit lower upper : Nat) :=
      (sequences tailByte further lower upper).map ((firstByte digit, firstByte digit) :: ·)
    let (low, high) := (first / unit, last / unit)
    let (startsInside, endsInside) := (first % unit != 0, last % unit != unit - 1)
    if low = high && (startsInside || endsInside) then within low (first % unit) (last % unit)
    else
      let fullLow := if startsInside then low + 1 else low
      let behindFull := if endsInside then high else high + 1
      let full := List.replicate (further + 1) (tailByte 0, tailByte (radix - 1))
      (if startsInside then within low (first % unit) (unit - 1) else [])
        ++ (if fullLow < behindFull then
            [(firstByte fullLow, firstByte (behindFull - 1)) :: full] else [])
        ++ (if endsInside then within high 0 (last % unit) else [])

/-- The code points that are encoded in a way, the mark of their first byte and the number of further
bytes. Surrogates are not encoded.
-/
def blocks : List ((Nat × Nat) × Nat × Nat) := [
  ((0, 0x7F), 0, 0),
  ((0x80, 0x7FF), 0xC0, 1),
  ((0x800, 0xD7FF), 0xE0, 2),
  ((0xE000, 0xFFFF), 0xE0, 2),
  ((0x10000, 0x10FFFF), 0xF0, 3)]

/-- The sequences for a run of code points. -/
def ofRun (run : Nat × Nat) : List (List ByteRange) :=
  blocks.flatMap fun (block, mark, further) =>
    let first := max run.1 block.1
    let last := min run.2 block.2
    if first ≤ last then sequences (mark + ·) further first last else []

/-- The sequences for a class. -/
def ofRuns (runs : Runs) : List (List ByteRange) :=
  runs.flatMap ofRun

/-- The bytes of a character. -/
def encode (code : Nat) : List Nat :=
  (ofRun (code, code)).flatten.map Prod.fst

end Utf8

end FormWizard.Regex
