import FormWizard.DataPath.Write

/-! Writing at a data path in place: the data are changed while the path is followed, so a write
that is stopped on the way leaves them as they are by then.
-/

namespace FormWizard

/-- The table with another value in the first entry under a key. -/
def Table.replace {α : Type} (key : String) (value : α) : Table α → Table α
  | [] => []
  | (name, old) :: rest =>
    if key = name then (name, value) :: rest else (name, old) :: replace key value rest

namespace DataPath

/-- A null becomes the given container. -/
def openedAs (container : Json) : Json → Json
  | .null => container
  | value => value

/-- The members with a null under a key, unless there is a member under it. -/
def withMember (name : String) (members : Table Json) : Table Json :=
  if Table.hasKey name members then members else Table.insert name .null members

/-- The items with nulls behind them as far as an index. -/
def paddedTo (position : Nat) (items : List Json) : List Json :=
  items ++ List.replicate (position + 1 - items.length) .null

/-- Puts a value at a path in place: whether it could be put there, and what the value in which it
was to be put has become. Null becomes the container that the next segment needs, and the place
that the segment leads to is made before it is entered.
-/
def putInPlace (new : Json) : DataPath → Json → Except String Unit × Json
  | [], _ => (.ok (), new)
  | .key name :: rest, value =>
    match openedAs (.object []) value with
    | .object members =>
      let members := withMember name members
      let (outcome, inner) := putInPlace new rest ((Table.find? name members).getD .null)
      (outcome, .object (Table.replace name inner members))
    | opened => (.error name, opened)
  | .index position :: rest, value =>
    match openedAs (.array []) value with
    | .array items =>
      let items := paddedTo position items
      let (outcome, inner) := putInPlace new rest ((items[position]?).getD .null)
      (outcome, .array (items.set position inner))
    | opened => (.error (Text.integer position), opened)

/-- Writes a value at a path in place: whether it was written, and what the data have become. -/
def writeInPlace (data : Json) (path : DataPath) (new : Json) : Except WriteError Unit × Json :=
  if path.isEmpty then (.error .empty, data)
  else
    match overreach? (some data) path with
    | some (index, length) => (.error (.indexOutOfRange (text path) index length), data)
    | none =>
      let (outcome, after) := putInPlace new path data
      (outcome.mapError (.conflict (text path)), after)

end DataPath

end FormWizard
