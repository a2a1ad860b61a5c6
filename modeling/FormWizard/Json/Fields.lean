import FormWizard.Json.Document

/-! Reading the fields of an object from its tree. A field may be known under several names, of
which at most one may be used, and only once; members under other names are passed over. An array
gives the fields by their places.
-/

namespace FormWizard.Json.Document

/-- The members of an object as written. -/
abbrev Members := List (Option String × Document)

mutual

/-- Every part of the tree stands for a value. -/
def isReadable : Document → Bool
  | .null | .bool _ | .number _ | .string _ => true
  | .array items => areReadableItems items
  | .object members => areReadableMembers members
  | .unreadable => false

/-- Every item stands for a value. -/
def areReadableItems : List Document → Bool
  | [] => true
  | item :: rest => isReadable item && areReadableItems rest

/-- Every key stands for a text and every member for a value. -/
def areReadableMembers : List (Option String × Document) → Bool
  | [] => true
  | (key, value) :: rest => key.isSome && isReadable value && areReadableMembers rest

end

/-- The members of an object all of whose keys stand for texts. The items of an array are taken for
members under the given names, in their order; there may be fewer items than names.
-/
def members? (names : List String) : Document → Option Members
  | .object members => if members.all (·.1.isSome) then some members else none
  | .array items =>
    if items.length ≤ names.length then some ((names.map some).zip items) else none
  | _ => none

/-- What stands under any of the given names: `some none` if nothing does, and `none` if more
than one member bears one of them.
-/
def field? (names : List String) (members : Members) : Option (Option Document) :=
  match members.filter fun member => member.1.any names.contains with
  | [] => some none
  | [(_, value)] => some (some value)
  | _ => none

variable {α : Type}

/-- A field that must be present. -/
def required? (names : List String) (decode : Document → Option α) (members : Members)
    : Option α := do
  let value ← (← field? names members)
  decode value

/-- A field that may be missing; null counts as missing. -/
def optional? (names : List String) (decode : Document → Option α) (members : Members)
    : Option (Option α) := do
  match ← field? names members with
  | none | some .null => return none
  | some value => return some (← decode value)

/-- A field with a default for where it is missing. Null is no value of it. -/
def defaulted? (names : List String) (default : α) (decode : Document → Option α)
    (members : Members)
    : Option α := do
  match ← field? names members with
  | none => return default
  | some value => decode value

/-- A string. -/
def string? : Document → Option String
  | .string value => some value
  | _ => none

/-- A truth value. -/
def bool? : Document → Option Bool
  | .bool value => some value
  | _ => none

/-- A whole number within bounds. A number with a fraction or an exponent is none, whatever its
size.
-/
def int? (least greatest : Int) : Document → Option Int
  | .number (.whole value) => if least ≤ value ∧ value ≤ greatest then some value else none
  | _ => none

/-- A count that fits a machine word. -/
def count? (value : Document) : Option Nat :=
  (int? 0 (Text.wordLimit - 1) value).map Int.toNat

/-- An array of which every item can be decoded. -/
def list? (decode : Document → Option α) : Document → Option (List α)
  | .array items => items.mapM decode
  | _ => none

/-- An object of which every member can be decoded. Of members under one key the last one stays.
-/
def table? (decode : Document → Option α) : Document → Option (Table α)
  | .object members => do
    let entries ← members.mapM fun (key?, value) => do
      return (← key?, ← decode value)
    return Table.ofEntries entries
  | _ => none

end FormWizard.Json.Document
