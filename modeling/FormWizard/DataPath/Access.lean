import FormWizard.DataPath.Segment
import FormWizard.Json.Basic

/-! Reading at a data path. -/

namespace FormWizard.DataPath

/-- The part of a value that one segment leads to. A key that spells an index also leads to an
item of an array.
-/
def child? (value : Json) (segment : Segment) : Option Json :=
  match segment, value with
  | .key name, .object members => Table.find? name members
  | .index position, .array items => items[position]?
  | .key name, .array items =>
    (Text.natural? name.toList).bind fun position => items[position]?
  | _, _ => none

@[simp] theorem child?_object_key (members : Table Json) (name : String)
    : child? (.object members) (.key name) = Table.find? name members :=
  rfl

@[simp] theorem child?_object_index (members : Table Json) (position : Nat)
    : child? (.object members) (.index position) = none :=
  rfl

@[simp] theorem child?_array_index (items : List Json) (position : Nat)
    : child? (.array items) (.index position) = items[position]? :=
  rfl

@[simp] theorem child?_array_key (items : List Json) (name : String)
    : child? (.array items) (.key name)
      = (Text.natural? name.toList).bind fun position => items[position]? :=
  rfl

/-- The part of a value at the end of a path, if every segment leads somewhere. -/
def get? (value : Json) : DataPath → Option Json
  | [] => some value
  | segment :: rest => (child? value segment).bind fun inner => get? inner rest

/-- The part of a value at the path that a text spells. -/
def lookUp? (value : Json) (path : String) : Option Json :=
  get? value (ofText path)

/-- A longer path is followed part by part. -/
theorem get?_append (value : Json) (front back : DataPath)
    : get? value (front ++ back) = (get? value front).bind fun inner => get? inner back := by
  induction front generalizing value with
  | nil => rfl
  | cons segment rest ih =>
    cases h : child? value segment with
    | none => simp [get?, h]
    | some inner => simp [get?, h, ih]

end FormWizard.DataPath
