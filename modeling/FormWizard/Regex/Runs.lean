import FormWizard.Regex.CharClass

/-! Classes of characters as runs of code points, in ascending order and with gaps between them. -/

namespace FormWizard.Regex

/-- Runs of code points, each by its first and its last one. -/
abbrev Runs := List (Nat × Nat)

namespace Runs

/-- The runs from the current one on, those that touch taken together. -/
def joined (current : Nat × Nat) : Runs → Runs
  | [] => [current]
  | run :: rest =>
    if run.1 ≤ current.2 + 1 then joined (current.1, max current.2 run.2) rest
    else current :: joined run rest

/-- The runs in order and with gaps between them. -/
def normalized (runs : Runs) : Runs :=
  match runs.mergeSort fun left right => left.1 ≤ right.1 with
  | [] => []
  | first :: rest => joined first rest

/-- What lies between the runs, from the given code point on. -/
def gaps (next : Nat) : Runs → Runs
  | [] => if next ≤ CharClass.lastCode then [(next, CharClass.lastCode)] else []
  | (first, last) :: rest =>
    if next < first then (next, first - 1) :: gaps (last + 1) rest else gaps (last + 1) rest

/-- The code points in one of two classes. -/
def union (left right : Runs) : Runs :=
  normalized (left ++ right)

/-- The code points in no run. -/
def complement (runs : Runs) : Runs :=
  gaps 0 runs

/-- The code points in both of two classes. -/
def inter (left right : Runs) : Runs :=
  complement (union (complement left) (complement right))

/-- The code points of a range. -/
def ofRange (range : Unicode.Range) : Runs :=
  if range.stride = 1 then [(range.first, range.last)]
  else
    (List.range ((range.last - range.first) / range.stride + 1)).map fun n =>
      (range.first + n * range.stride, range.first + n * range.stride)

/-- The part of a run that lies in the source of a shift of runs, at its target. -/
def image (run : Nat × Nat) (source : Nat × Nat) (target : Nat) : Option (Nat × Nat) :=
  let first := max run.1 source.1
  let last := min run.2 source.2
  if first ≤ last then some (target + first - source.1, target + last - source.1) else none

/-- The shifts to the forms in which case makes no difference, for one run each. -/
def foldingShifts : List ((Nat × Nat) × Nat) :=
  Unicode.foldingShifts.flatMap fun shift =>
    (ofRange shift.source).map fun run => (run, shift.target + run.1 - shift.source.first)

/-- The runs and all that differs from them by case alone. -/
def folded (runs : Runs) : Runs :=
  let forms := runs ++ runs.flatMap fun run =>
    foldingShifts.filterMap fun (source, target) => image run source target
  let origins := forms.flatMap fun run =>
    foldingShifts.filterMap fun (source, target) =>
      image run (target, target + source.2 - source.1) source.1
  normalized (forms ++ origins)

/-- The runs and the other case of all ASCII letters in them. -/
def asciiFolded (runs : Runs) : Runs :=
  normalized <| runs ++ runs.flatMap fun run =>
    [image run (0x41, 0x5A) 0x61, image run (0x61, 0x7A) 0x41].filterMap id

/-- All of the code points are ASCII. -/
def isAscii (runs : Runs) : Bool :=
  runs.all fun run => run.2 < 0x80

end Runs

/-- The class as runs. -/
def CharClass.runs : CharClass → Runs
  | empty => []
  | range first last => if first ≤ last then [(first, last)] else []
  | table set => Runs.normalized (set.flatMap Runs.ofRange)
  | union left right => left.runs.union right.runs
  | inter left right => left.runs.inter right.runs
  | diff left right => left.runs.inter right.runs.complement
  | symDiff left right =>
    (left.runs.union right.runs).inter (left.runs.inter right.runs).complement
  | complement inner => inner.runs.complement
  | folded inner => inner.runs.folded
  | asciiFolded inner => inner.runs.asciiFolded

end FormWizard.Regex
