import FormWizard.DataPath.Access

/-! Writing at a data path. Missing objects and arrays on the way are created, and an array is
padded with nulls up to the index that is written.
-/

namespace FormWizard.DataPath

/-- An index may lie fewer than this many items past the end of its array. -/
def maxGrowth : Nat := 10000

/-- Why nothing can be written at a path. -/
inductive WriteError where
  | empty
  | conflict (path : String) (segment : String)
  | indexOutOfRange (path : String) (index : Nat) (length : Nat)
deriving DecidableEq, Repr

/-- The wording of a write error. -/
def WriteError.message : WriteError → String
  | .empty => "cannot write to an empty path"
  | .conflict path segment =>
    "cannot write '" ++ path ++ "': segment '" ++ segment
      ++ "' passes through a non-container value"
  | .indexOutOfRange path index length =>
    "cannot write '" ++ path ++ "': index " ++ Text.integer index
      ++ " is too far past the end of an array of length " ++ Text.integer length

/-- The first index of a path that lies too far past the end of the array it points into,
together with the length of that array. A place that holds no array counts as an empty one.
-/
def overreach? (value : Option Json) : DataPath → Option (Nat × Nat)
  | [] => none
  | segment :: rest =>
    let next := overreach? (value.bind fun inner => child? inner segment) rest
    match segment with
    | .key _ => next
    | .index position =>
      let length := ((value.bind Json.array?).getD []).length
      if maxGrowth ≤ position - length then some (position, length) else next

/-- The items with the one at an index replaced by a function of it. Nulls fill up the array as
far as that index.
-/
def modifyItem (modify : Json → Except String Json)
    : (items : List Json) → (position : Nat) → Except String (List Json)
  | [], 0 => return [← modify .null]
  | [], position + 1 => return .null :: (← modifyItem modify [] position)
  | item :: rest, 0 => return (← modify item) :: rest
  | item :: rest, position + 1 => return item :: (← modifyItem modify rest position)

/-- Puts a value at a path. A failure names the segment that leads through a value which is
neither null nor the container that the segment needs.
-/
def put (new : Json) : DataPath → Json → Except String Json
  | [], _ => .ok new
  | .key name :: rest, value =>
    match value with
    | .null => return .object [(name, ← put new rest .null)]
    | .object members =>
      return .object <| Table.insert name
        (← put new rest ((Table.find? name members).getD .null)) members
    | _ => .error name
  | .index position :: rest, value =>
    match value with
    | .null => return .array (← modifyItem (put new rest) [] position)
    | .array items => return .array (← modifyItem (put new rest) items position)
    | _ => .error (Text.integer position)

/-- The data with a value written at a path. -/
def write (data : Json) (path : DataPath) (new : Json) : Except WriteError Json :=
  if path.isEmpty then .error .empty
  else
    match overreach? (some data) path with
    | some (index, length) => .error (.indexOutOfRange (text path) index length)
    | none => (put new path data).mapError (.conflict (text path))

end FormWizard.DataPath
