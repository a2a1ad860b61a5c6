import FormWizard.Regex.Form
import Std.Data.HashMap

/-! How much memory an automaton for a pattern takes. Two automata are made, one that reads a text
from its start and one that reads it from its end; neither may become too large. Bounded repetitions
are written out in them, so a short pattern can have a large automaton.
-/

namespace FormWizard.Regex

/-- The direction in which an automaton reads a text. -/
inductive Direction where
  | forward
  | backward
deriving DecidableEq

/-- An automaton that is being made: the number of its states, which is also the number of the next
state, and the memory for what leads from state to state.
-/
structure Automaton where
  states : Nat := 0
  links : Nat := 0

namespace Automaton

/-- The memory of a state. -/
def stateSize : Nat := 32

/-- The memory of a transition by a range of bytes. -/
def transitionSize : Nat := 8

/-- The memory of a transition from a state that leads to several others without reading. -/
def choiceSize : Nat := 4

/-- The memory of an automaton. -/
def size (automaton : Automaton) : Nat :=
  stateSize * automaton.states + automaton.links

/-- No automaton may take more memory than this. -/
def maxSize : Nat := 10 * Nat.pow 2 20

/-- The automaton with more states and links, unless it becomes too large. -/
def grow (states links : Nat) (automaton : Automaton) : Option Automaton :=
  let grown : Automaton := ⟨automaton.states + states, automaton.links + links⟩
  if grown.size ≤ maxSize then some grown else none

/-- The automaton after as many rounds of growth. -/
def times (round : Automaton → Option Automaton) : (count : Nat) → Automaton → Option Automaton
  | 0, automaton => some automaton
  | count + 1, automaton =>
    match round automaton with
    | some automaton => times round count automaton
    | none => none

end Automaton

/-! ### Classes -/

/-- A number that spreads lists of numbers evenly, so that it can tell most of them apart. -/
def fingerprint (numbers : List Nat) : Nat :=
  (numbers.foldl (fun value number => (value ^^^ number.toUInt64) * 1099511628211)
    (14695981039346656037 : UInt64)).toNat

/-- States that have been made before, each under a key. A table of limited size keeps them, in
which a state takes the place of another one whose fingerprint leads to the same slot.
-/
structure Known where
  slots : Nat
  entries : Std.HashMap Nat (List Nat × Nat) := {}

/-- The state with the given key. If the table does not have it, it is made, that is, it gets the
given number.
-/
def Known.find (known : Known) (key : List Nat) (next : Nat) : Nat × Known :=
  let slot := fingerprint key % known.slots
  let made := (next, { known with entries := known.entries.insert slot (key, next) })
  match known.entries[slot]? with
  | some (same, state) => if same = key then (state, known) else made
  | none => made

/-- States that are being made for a class: the number of the next one, the memory of their
transitions, and the states so far.
-/
structure ClassStates where
  next : Nat
  links : Nat := 0
  known : Known

/-- The state with the given transitions, each as its first byte, its last byte and the state that
it leads to.
-/
def ClassStates.state (transitions : List (List Nat)) (states : ClassStates)
    : Nat × ClassStates :=
  let (number, known) := states.known.find transitions.flatten states.next
  if number = states.next then
    (number, ⟨states.next + 1, states.links + Automaton.transitionSize * transitions.length, known⟩)
  else (number, { states with known })

/-- The state from which the given sequences lead to the target, with the states behind it. States
that have the same transitions are one.
-/
def ClassStates.branch (target : Nat)
    : (depth : Nat) → List (List ByteRange) → ClassStates → Nat × ClassStates
  | 0, _, states => (target, states)
  | depth + 1, sequences, states =>
    let (transitions, states) :=
      (sequences.splitBy fun left right => left.head? == right.head?).foldl
        (fun (transitions, states) together =>
          match together with
          | ((first, last) :: rest) :: _ =>
            let (next, states) :=
              if rest.isEmpty then (target, states)
              else branch target depth (together.map List.tail) states
            (transitions ++ [[first, last, next]], states)
          | _ => (transitions, states))
        ([], states)
    states.state transitions

/-- The states for one sequence read from its end, which share those of sequences with the same
start.
-/
def ClassStates.chain (target : Nat) (sequence : List ByteRange) (states : ClassStates)
    : ClassStates :=
  (sequence.foldl
    (fun (target, states) (first, last) =>
      let (number, known) := states.known.find [target, first, last] states.next
      (number, { states with next := max states.next (number + 1), known }))
    (target, states)).2

/-- The slots for states of a class that is read forward. -/
def forwardSlots : Nat := 10000

/-- The slots for states of a class that is read backward. -/
def backwardSlots : Nat := 1000

/-- The automaton with the states for a class. ASCII takes one state with a transition for each run.
Forward, states with the same continuation are one; backward, a state for each sequence of bytes
leads to the ones that it shares with its neighbours.
-/
def Automaton.addClass (direction : Direction) (runs : Runs) (automaton : Automaton)
    : Option Automaton :=
  if runs.isAscii then automaton.grow 2 (transitionSize * runs.length)
  else
    let sequences := Utf8.ofRuns runs
    match direction with
    | .forward =>
      let target := automaton.states
      let start : ClassStates := { next := target + 1, known := { slots := forwardSlots } }
      let (_, made) := start.branch target 4 sequences
      automaton.grow (made.next - automaton.states) made.links
    | .backward =>
      let target := automaton.states + 1
      let start : ClassStates := { next := target + 1, known := { slots := backwardSlots } }
      let made := sequences.foldl (fun states sequence => states.chain target sequence) start
      automaton.grow (made.next - automaton.states) (choiceSize * sequences.length)

/-! ### Words -/

/-- The states and the memory of links for a choice between words, which share the states of their
common starts. A word that ends inside others divides those in front of it from those behind it,
since the first word that matches wins.
-/
def wordStates : (length : Nat) → (words : List (List Nat)) → Automaton
  | 0, _ => {}
  | length + 1, words =>
    let words := if words.head?.any List.isEmpty then [] :: words.dropWhile List.isEmpty else words
    let chunks := (words.splitOn []).map fun chunk =>
      (chunk.map List.head?).eraseDups.map fun first =>
        (chunk.filter fun word => word.head? == first).map List.tail
    let full := chunks.filter (!·.isEmpty)
    let links := full.map fun children =>
      if children.length = 1 then 0 else Automaton.transitionSize * children.length
    let inner := full.flatten.map fun rests =>
      if rests.all List.isEmpty then {} else wordStates length rests
    { states := 1 + full.length + (inner.map Automaton.states).foldr (· + ·) 0
      links :=
        Automaton.choiceSize * (full.length + (chunks.length - 1))
          + links.foldr (· + ·) 0 + (inner.map Automaton.links).foldr (· + ·) 0 }

/-! ### Patterns -/

namespace Form

/-- The automaton for the pattern ends in a state that leads to several others, so that one more way
on takes memory.
-/
def endsInChoice (direction : Direction) : Form → Bool
  | seq first rest =>
    match direction with
    | .forward => rest.endsInChoice direction
    | .backward => first.endsInChoice direction
  | group _ inner => direction = .backward && inner.endsInChoice direction
  | many inner least greatest =>
    match least, greatest with
    | 0, none => inner.minLength?.any (0 < ·)
    | _, none => true
    | least, some greatest => least = greatest && inner.endsInChoice direction
  | _ => false

/-- The memory for one more way on from the end of a pattern. -/
def linkSize (direction : Direction) (form : Form) : Nat :=
  if form.endsInChoice direction then Automaton.choiceSize else 0

/-- The automaton with the states for a pattern, which may be an alternative or the rest of a choice
with the given number of alternatives before it. The two states where a choice starts and ends are
made behind those of its second alternative.
-/
def addTo (direction : Direction) : (before : Nat) → Form → Automaton → Option Automaton
  | _, text codes, automaton =>
    automaton.grow (max 1 ((codes.map fun code => (Utf8.encode code).length).foldr (· + ·) 0)) 0
  | _, words texts, automaton =>
    let encoded := texts.map fun codes => codes.flatMap Utf8.encode
    let read := if direction = .forward then encoded else encoded.map List.reverse
    let made := wordStates ((read.map List.length).foldr max 0) read
    automaton.grow (made.states + 1) made.links
  | _, set runs, automaton => automaton.addClass direction runs
  | _, look _, automaton => automaton.grow 1 0
  | _, group _ inner, automaton =>
    match direction with
    | .forward => do
      let automaton ← inner.addTo direction 0 (← automaton.grow 1 0)
      automaton.grow 1 (inner.linkSize direction)
    | .backward => inner.addTo direction 0 automaton
  | _, seq first rest, automaton =>
    match direction with
    | .forward => do
      let automaton ← rest.addTo direction 0 (← first.addTo direction 0 automaton)
      automaton.grow 0 (first.linkSize direction)
    | .backward => do
      let automaton ← first.addTo direction 0 (← rest.addTo direction 0 automaton)
      automaton.grow 0 (rest.linkSize direction)
  | before, alt first rest, automaton => do
    let automaton ← first.addTo direction 0 automaton
    let automaton ← automaton.grow (if before = 1 then 2 else 0)
      (Automaton.choiceSize + first.linkSize direction)
    match rest with
    | alt .. => rest.addTo direction (before + 1) automaton
    | _ =>
      (← rest.addTo direction 0 automaton).grow (if before = 0 then 2 else 0)
        (Automaton.choiceSize + rest.linkSize direction)
  | _, many inner least greatest, automaton =>
    let add := inner.addTo direction 0
    let link := inner.linkSize direction
    let linked (states links : Nat) (automaton : Automaton) := do
      (← add automaton).grow states (link + links)
    match least, greatest with
    | 0, some 1 => do linked 1 (2 * Automaton.choiceSize) (← automaton.grow 1 0)
    | 0, none =>
      if inner.minLength?.any (0 < ·) then do
        linked 0 Automaton.choiceSize (← automaton.grow 1 0)
      else linked 3 (4 * Automaton.choiceSize) automaton
    | least + 1, none => do
      linked 1 Automaton.choiceSize (← Automaton.times (linked 0 0) least automaton)
    | 0, some greatest => do
      let optional := fun automaton : Automaton => do
        linked 0 (2 * Automaton.choiceSize) (← automaton.grow 1 0)
      Automaton.times optional greatest (← automaton.grow 2 0)
    | least + 1, some greatest =>
      if least + 1 = greatest then do
        add (← Automaton.times (linked 0 0) least automaton)
      else do
        let optional := fun automaton : Automaton => do
          linked 0 (2 * Automaton.choiceSize) (← automaton.grow 1 0)
        let automaton ← Automaton.times (linked 0 0) (least + 1) automaton
        Automaton.times optional (greatest - (least + 1)) (← automaton.grow 1 0)

/-- A pattern matches only at the start of a text, or only at the end of one if it is read from
there. Then no state goes on to later starts.
-/
def isAnchored (direction : Direction) : Form → Bool
  | look condition => condition = if direction = .forward then .textStart else .textEnd
  | group _ inner => inner.isAnchored direction
  | seq first rest =>
    match direction with
    | .forward => first.isAnchored direction || (first.isEmptyOnly && rest.isAnchored direction)
    | .backward => rest.isAnchored direction || (rest.isEmptyOnly && first.isAnchored direction)
  | alt first rest => first.isAnchored direction && rest.isAnchored direction
  | many inner least _ => least != 0 && inner.isAnchored direction
  | _ => false

/-- The whole automaton for a pattern. Forward, it keeps where the whole match starts and ends. -/
def automaton? (direction : Direction) (form : Form) : Option Automaton := do
  let automaton : Automaton := {}
  let automaton ←
    if form.isAnchored direction then automaton.grow 1 0
    else automaton.grow 3 (Automaton.transitionSize + 2 * Automaton.choiceSize)
  let around := if direction = .forward then 1 else 0
  let automaton ← form.addTo direction 0 (← automaton.grow around 0)
  automaton.grow (around + 1) (form.linkSize direction)

end Form

/-- The number of characters and conditions in a pattern when its bounded repetitions are written
out.
-/
def width : Regex → Nat
  | empty | chars _ | look _ => 1
  | seq first second => first.width + second.width
  | alt left right => left.width + right.width
  | many inner least greatest => inner.width * max 1 (greatest.getD (least + 1))
  | group _ inner => inner.width + 1

/-- Patterns up to this width are never too large, since no class of characters takes a part of
`Automaton.maxSize` that comes near to one in this many.
-/
def safeWidth : Nat := 32

/-- Neither automaton for the pattern is too large. -/
def isAffordable (pattern : Regex) : Bool :=
  pattern.width ≤ safeWidth
    || ((Form.ofRegex pattern).automaton? .forward).isSome
      && ((Form.ofRegex pattern).automaton? .backward).isSome

end FormWizard.Regex
