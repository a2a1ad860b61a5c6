import FormWizard.Regex.Basic
import FormWizard.Regex.Utf8

/-! The form in which a pattern is written out as an automaton: texts are joined, alternatives of
single characters are classes, a start that all alternatives share stands before them, and what
matches only the empty text is not repeated.
-/

namespace FormWizard.Regex

/-- A pattern in that form. Sequences and alternatives go to the right: the first part of a sequence
is no sequence, and no alternative is itself a choice.
-/
inductive Form where
  | text (codes : List Nat)
  | words (texts : List (List Nat))
  | set (runs : Runs)
  | look (condition : Look)
  | group (number : Nat) (inner : Form)
  | seq (first rest : Form)
  | alt (first rest : Form)
  | many (inner : Form) (least : Nat) (greatest : Option Nat)
deriving DecidableEq

namespace Form

/-- What matches the empty text alone. -/
def empty : Form :=
  .text []

/-- The parts of a sequence. -/
def parts : Form → List Form
  | text [] => []
  | seq first rest => first :: rest.parts
  | form => [form]

/-- The alternatives of a choice. -/
def branches : Form → List Form
  | alt first rest => first :: rest.branches
  | words texts => texts.map text
  | form => [form]

/-- A part in front of a sequence, joined with its first text if both are texts. -/
def consPart (part : Form) (parts : List Form) : List Form :=
  match part, parts with
  | text codes, text more :: rest => text (codes ++ more) :: rest
  | _, _ => part :: parts

/-- The sequence of some parts. -/
def ofParts : List Form → Form
  | [] => empty
  | [part] => part
  | part :: rest => .seq part (ofParts rest)

/-- The sequence of two patterns. -/
def append (first second : Form) : Form :=
  ofParts ((first.parts ++ second.parts).foldr consPart [])

/-- The class of a pattern that matches one character. -/
def runs? : Form → Option Runs
  | text [code] => some [(code, code)]
  | set runs => some runs
  | _ => none

/-- The pattern of a class. -/
def ofRuns (runs : Runs) : Form :=
  match runs with
  | [(first, last)] => if first = last then .text [first] else .set runs
  | _ => .set runs

/-- The codes of a text that is not empty. -/
def text? : Form → Option (List Nat)
  | text (code :: codes) => some (code :: codes)
  | _ => none

/-- The choice between some patterns that share no start. -/
def ofBranches (forms : List Form) : Form :=
  match forms.mapM text? with
  | some texts => .words texts
  | none =>
    match forms.reverse with
    | [] => .set []
    | last :: others => others.foldl (fun rest form => .alt form rest) last

/-- The choice between some patterns that are to be taken as they are, but for alternatives that each
match one character.
-/
def choiceOf (forms : List Form) : Form :=
  match forms.flatMap branches with
  | [] => .set []
  | [form] => form
  | flat =>
    match flat.mapM runs? with
    | some classes => ofRuns (Runs.normalized classes.flatten)
    | none => ofBranches flat

/-- The number of parts that two sequences have in common at their start. -/
def commonLength : List Form → List Form → Nat
  | left :: lefts, right :: rights => if left = right then commonLength lefts rights + 1 else 0
  | _, _ => 0

/-- The choice between some patterns. A start that they share is written once. -/
def choice (forms : List Form) : Form :=
  match (choiceOf forms).branches with
  | first :: others =>
    let isSequence := fun form : Form => form matches .seq ..
    let common := others.foldl (fun count form => min count (commonLength first.parts form.parts))
      first.parts.length
    if others.isEmpty || common = 0 || !isSequence first || !others.all isSequence then
      choiceOf forms
    else
      let rests := (first :: others).map fun form => ofParts (form.parts.drop common)
      append (ofParts (first.parts.take common)) (choiceOf rests)
  | [] => .set []

/-- The length of the shortest text that a pattern matches, if it matches any. -/
def minLength? : Form → Option Nat
  | text codes => some codes.length
  | words texts => (texts.map List.length).min?
  | set runs => if runs.isEmpty then none else some 1
  | look _ => some 0
  | group _ inner => inner.minLength?
  | seq first rest => do return (← first.minLength?) + (← rest.minLength?)
  | alt first rest => do return min (← first.minLength?) (← rest.minLength?)
  | many inner least _ => inner.minLength?.map (least * ·)

/-- The pattern matches the empty text alone, if anything. -/
def isEmptyOnly : Form → Bool
  | text codes => codes.isEmpty
  | words texts => texts.all List.isEmpty
  | set _ => false
  | look _ => true
  | group _ inner => inner.isEmptyOnly
  | seq first rest => first.isEmptyOnly && rest.isEmptyOnly
  | alt first rest => first.isEmptyOnly && rest.isEmptyOnly
  | many inner _ greatest => inner.isEmptyOnly || greatest = some 0

/-- The repetition of a pattern. -/
def repeated (inner : Form) (least : Nat) (greatest : Option Nat) : Form :=
  let (least, greatest) :=
    if inner.isEmptyOnly then (min least 1, some ((greatest.map (min · 1)).getD 1))
    else (least, greatest)
  match least, greatest with
  | 0, some 0 => empty
  | 1, some 1 => inner
  | _, _ => .many inner least greatest

/-- The alternatives of a pattern in this form. -/
def branchesOf : Regex → List Form
  | .empty => [empty]
  | .chars members => [ofRuns members.runs]
  | .look condition => [.look condition]
  | .seq first second => [append (choice (branchesOf first)) (choice (branchesOf second))]
  | .alt left right => branchesOf left ++ branchesOf right
  | .many inner least greatest => [repeated (choice (branchesOf inner)) least greatest]
  | .group none inner => [choice (branchesOf inner)]
  | .group (some number) inner => [.group number (choice (branchesOf inner))]

/-- A pattern in this form. -/
def ofRegex (pattern : Regex) : Form :=
  choice (branchesOf pattern)

end Form

end FormWizard.Regex
