import FormWizard.Json.Basic

/-! Declarative rules: comparisons of operands, their combinations, and calls of host predicates
by name.
-/

namespace FormWizard

/-- How a comparison compares. -/
inductive Comparison where
  | eq
  | neq
  | gt
  | gte
  | lt
  | lte
  | elem
  | regex
deriving DecidableEq, Repr

/-- How a logical rule combines its arguments. -/
inductive Connective where
  | all
  | any
  | negation
deriving DecidableEq, Repr

/-- One side of a comparison: a path into the data, a key of the context, or a value. -/
inductive Operand where
  | data (path : String)
  | context (key : String)
  | literal (value : Json)
deriving DecidableEq

namespace Operand

/-- Texts that are the root sign, alone or with a path after it, point into the data. -/
def isDataReference (text : String) : Bool :=
  match text.toList with
  | '$' :: [] | '$' :: '.' :: _ | '$' :: '[' :: _ => true
  | _ => false

/-- Reads an operand off a value. A text with the sign `@` and more points into the context;
whatever is no reference stands for itself.
-/
def ofJson (value : Json) : Operand :=
  match value with
  | .string text =>
    if isDataReference text then .data text
    else
      match text.toList with
      | '@' :: first :: rest => .context (String.ofList (first :: rest))
      | _ => .literal value
  | _ => .literal value

/-- The value that an operand is written as. -/
def toJson : Operand → Json
  | .data path => .string path
  | .context key => .string ("@" ++ key)
  | .literal value => value

/-- The operand is a path into the data. -/
def isData : Operand → Bool
  | .data _ => true
  | _ => false

/-- The operand is the time or the day of the clock. -/
def isClock : Operand → Bool
  | .context key => key == "now" || key == "today"
  | _ => false

end Operand

/-- A rule that is true or false of data and a context. -/
inductive Rule where
  | comparison (op : Comparison) (left right : Operand)
  | logical (op : Connective) (args : List Rule)
  | custom (function : String) (args : List Json)
  | always (value : Option Bool)
deriving Inhabited

namespace Rule

mutual

/-- Rules are equal if they have the same shape and the same parts. -/
def decideEq : (left right : Rule) → Decidable (left = right)
  | .comparison op a b, .comparison op' a' b' =>
    if h : op = op' ∧ a = a' ∧ b = b' then isTrue (by rw [h.1, h.2.1, h.2.2])
    else isFalse (by simpa using h)
  | .logical op args, .logical op' args' =>
    match decEq op op', decideEqArgs args args' with
    | isTrue h, isTrue hs => isTrue (by rw [h, hs])
    | isFalse h, _ => isFalse (by simp [h])
    | _, isFalse hs => isFalse (by simp [hs])
  | .custom f args, .custom f' args' =>
    if h : f = f' ∧ args = args' then isTrue (by rw [h.1, h.2])
    else isFalse (by simpa using h)
  | .always v, .always v' =>
    if h : v = v' then isTrue (by rw [h]) else isFalse (by simpa using h)
  | .comparison .., .logical .. | .comparison .., .custom .. | .comparison .., .always ..
  | .logical .., .comparison .. | .logical .., .custom .. | .logical .., .always ..
  | .custom .., .comparison .. | .custom .., .logical .. | .custom .., .always ..
  | .always .., .comparison .. | .always .., .logical .. | .always .., .custom .. =>
    isFalse (by simp)

/-- Equality of lists of rules. -/
def decideEqArgs : (left right : List Rule) → Decidable (left = right)
  | [], [] => isTrue rfl
  | a :: as, b :: bs =>
    match decideEq a b, decideEqArgs as bs with
    | isTrue h, isTrue hs => isTrue (by rw [h, hs])
    | isFalse h, _ => isFalse (by simp [h])
    | _, isFalse hs => isFalse (by simp [hs])
  | [], _ :: _ | _ :: _, [] => isFalse (by simp)

end

instance : DecidableEq Rule := decideEq

/-- A comparison of two values read as operands. -/
def compare (op : Comparison) (left right : Json) : Rule :=
  .comparison op (.ofJson left) (.ofJson right)

/-- Equality of two values read as operands. -/
def equals (left right : Json) : Rule :=
  compare .eq left right

/-- All of the rules hold. -/
def all (rules : List Rule) : Rule :=
  .logical .all rules

/-- One of the rules holds. -/
def any (rules : List Rule) : Rule :=
  .logical .any rules

/-- The rule does not hold. -/
def negate (rule : Rule) : Rule :=
  .logical .negation [rule]

mutual

/-- Some operand of the rule is a path into the data. -/
def readsData : Rule → Bool
  | .comparison _ left right => left.isData || right.isData
  | .logical _ args => readDataArgs args
  | .custom _ args =>
    args.any fun
      | .string text => Operand.isDataReference text
      | _ => false
  | .always _ => false

/-- Some operand of one of the rules is a path into the data. -/
def readDataArgs : List Rule → Bool
  | [] => false
  | arg :: rest => readsData arg || readDataArgs rest

end

mutual

/-- The rule may depend on the clock: it compares with the time or the day, or calls a host
predicate, which may look at the clock.
-/
def readsClock : Rule → Bool
  | .comparison _ left right => left.isClock || right.isClock
  | .logical _ args => readClockArgs args
  | .custom .. => true
  | .always _ => false

/-- One of the rules may depend on the clock. -/
def readClockArgs : List Rule → Bool
  | [] => false
  | arg :: rest => readsClock arg || readClockArgs rest

end

end Rule

end FormWizard
