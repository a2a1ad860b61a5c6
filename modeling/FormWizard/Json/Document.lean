import FormWizard.Json.Basic
import FormWizard.Json.Token

/-! JSON text as a tree that still shows how it was written: members in their order with
repetitions, and well-formed parts that stand for no value kept as such. What a reader of the
tree passes over may hold anything well-formed; what it takes must stand for a value.
-/

namespace FormWizard.Json

/-- The tree of a JSON text. An unreadable part is well-formed but stands for no value: a number
out of range, a string with a lone surrogate, or an array or object nested too deeply. A key that
stands for no text is `none`.
-/
inductive Document where
  | null
  | bool (value : Bool)
  | number (value : Number)
  | string (value : String)
  | array (items : List Document)
  | object (members : List (Option String × Document))
  | unreadable
deriving Inhabited

namespace Document

/-- Arrays and objects may be nested to this depth. -/
def maxDepth : Nat := 127

/-- An array or object in progress, last item or member first; in an object also the key whose
value comes next.
-/
inductive Frame where
  | array (items : List Document)
  | object (members : List (Option String × Document)) (key : Option String)

/-- What may come next. -/
inductive Awaiting where
  | value
  | firstItem
  | separator
  | firstKey
  | key
  | colon

/-- The containers in progress, innermost first, what may come next, and the finished tree. -/
structure Reading where
  stack : List Frame
  awaiting : Awaiting
  result : Option Document

/-- Takes a finished value into the innermost container. -/
def place (stack : List Frame) (value : Document) : Reading :=
  match stack with
  | [] => ⟨[], .separator, some value⟩
  | .array items :: rest => ⟨.array (value :: items) :: rest, .separator, none⟩
  | .object members key :: rest =>
    ⟨.object ((key, value) :: members) none :: rest, .separator, none⟩

/-- A finished container; the given ones are around it. -/
def close (stack : List Frame) (value : Document) : Reading :=
  place stack (if stack.length < maxDepth then value else .unreadable)

/-- The value of a token that is a value by itself. -/
def ofToken? : Token → Option Document
  | .word letters =>
    match String.ofList letters with
    | "null" => some .null
    | "true" => some (.bool true)
    | "false" => some (.bool false)
    | _ => none
  | .number chars => (Number.read? chars).map fun value? => value?.elim .unreadable .number
  | .string pieces =>
    some <| (characters? pieces).elim .unreadable fun chars => .string (String.ofList chars)
  | _ => none

/-- A token where a value is due. -/
def takeValue (stack : List Frame) : Token → Option Reading
  | .openArray => some ⟨.array [] :: stack, .firstItem, none⟩
  | .openObject => some ⟨.object [] none :: stack, .firstKey, none⟩
  | token => (ofToken? token).map (place stack)

/-- A token where a key is due. -/
def takeKey (stack : List Frame) : Token → Option Reading
  | .string pieces =>
    match stack with
    | .object members _ :: rest =>
      some ⟨.object members ((characters? pieces).map String.ofList) :: rest, .colon, none⟩
    | _ => none
  | _ => none

/-- One more token. -/
def step (reading : Reading) (token : Token) : Option Reading :=
  match reading.awaiting, token, reading.stack with
  | .firstItem, .closeArray, .array _ :: rest => some (close rest (.array []))
  | .firstKey, .closeObject, .object .. :: rest => some (close rest (.object []))
  | .separator, .comma, .array items :: rest => some ⟨.array items :: rest, .value, none⟩
  | .separator, .comma, .object members _ :: rest =>
    some ⟨.object members none :: rest, .key, none⟩
  | .separator, .closeArray, .array items :: rest =>
    some (close rest (.array items.reverse))
  | .separator, .closeObject, .object members _ :: rest =>
    some (close rest (.object members.reverse))
  | .colon, .colon, stack => some ⟨stack, .value, none⟩
  | .value, token, stack => takeValue stack token
  | .firstItem, token, stack => takeValue stack token
  | .firstKey, token, stack => takeKey stack token
  | .key, token, stack => takeKey stack token
  | _, _, _ => none

/-- The tree of a text that is well-formed JSON. -/
def read? (text : String) : Option Document := do
  let tokens ← Token.read? text.toList
  let reading ← tokens.foldlM step ⟨[], .value, none⟩
  reading.result

mutual

/-- The value of a tree all of whose parts stand for values. Of members under one key the last
one stays.
-/
def toJson? : Document → Option Json
  | .null => some .null
  | .bool value => some (.bool value)
  | .number value => some (.number value)
  | .string value => some (.string value)
  | .array items => (itemsToJson? items).map .array
  | .object members => (membersToJson? members).map Json.ofMembers
  | .unreadable => none

/-- The values of the items of an array. -/
def itemsToJson? : List Document → Option (List Json)
  | [] => some []
  | item :: rest => do
    let value ← toJson? item
    let values ← itemsToJson? rest
    return value :: values

/-- The values of the members of an object, in the order of the text. -/
def membersToJson? : List (Option String × Document) → Option (List (String × Json))
  | [] => some []
  | (key?, member) :: rest => do
    let key ← key?
    let value ← toJson? member
    let values ← membersToJson? rest
    return (key, value) :: values

end

mutual

/-- The tree of a value. -/
def ofJson : Json → Document
  | .null => .null
  | .bool value => .bool value
  | .number value => .number value
  | .string value => .string value
  | .array items => .array (ofItems items)
  | .object members => .object (ofMembers members)

/-- The trees of the items of an array. -/
def ofItems : List Json → List Document
  | [] => []
  | item :: rest => ofJson item :: ofItems rest

/-- The trees of the members of an object. -/
def ofMembers : List (String × Json) → List (Option String × Document)
  | [] => []
  | (key, value) :: rest => (some key, ofJson value) :: ofMembers rest

end

end Document

/-- Reads a value from JSON text. -/
def read? (text : String) : Option Json :=
  (Document.read? text).bind Document.toJson?

end FormWizard.Json
