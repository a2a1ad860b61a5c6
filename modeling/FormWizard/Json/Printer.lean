import FormWizard.Json.Basic

/-! JSON text: the compact form without any blanks, and the form with one item a line. -/

namespace FormWizard.Json

/-- A lower-case hexadecimal digit. -/
def hexDigit (n : Nat) : Char :=
  Nat.digitChar (n % 16)

/-- A character inside a quoted string. Only the quote, the backslash and the control characters
are escaped, five of these by a letter.
-/
def escaped (c : Char) : List Char :=
  match c with
  | '"' => ['\\', '"']
  | '\\' => ['\\', '\\']
  | '\n' => ['\\', 'n']
  | '\t' => ['\\', 't']
  | '\r' => ['\\', 'r']
  | '\x08' => ['\\', 'b']
  | '\x0c' => ['\\', 'f']
  | c =>
    if c.toNat < 0x20 then
      ['\\', 'u', '0', '0', hexDigit (c.toNat / 16), hexDigit c.toNat]
    else [c]

/-- A string in quotes. -/
def quoted (text : String) : String :=
  String.ofList ('"' :: text.toList.flatMap escaped ++ ['"'])

mutual

/-- The compact text of a value. -/
def text : Json → String
  | .null => "null"
  | .bool true => "true"
  | .bool false => "false"
  | .number value => value.text
  | .string value => quoted value
  | .array items => "[" ++ String.intercalate "," (itemTexts items) ++ "]"
  | .object members => "\x7b" ++ String.intercalate "," (memberTexts members) ++ "\x7d"

/-- The compact texts of the items of an array. -/
def itemTexts : List Json → List String
  | [] => []
  | item :: rest => text item :: itemTexts rest

/-- The compact texts of the members of an object. -/
def memberTexts : List (String × Json) → List String
  | [] => []
  | (key, value) :: rest => (quoted key ++ ":" ++ text value) :: memberTexts rest

end

/-- A line break and the given depth of indentation. -/
def lineStart (depth : Nat) : String :=
  String.ofList ('\n' :: List.replicate (2 * depth) ' ')

mutual

/-- The text of a value at the given depth, with each item and member on a line of its own. -/
def indented (depth : Nat) : Json → String
  | .array (item :: rest) =>
    "[" ++ String.intercalate "," (indentedItems (depth + 1) (item :: rest))
      ++ lineStart depth ++ "]"
  | .object (member :: rest) =>
    "\x7b" ++ String.intercalate "," (indentedMembers (depth + 1) (member :: rest))
      ++ lineStart depth ++ "\x7d"
  | .null => "null"
  | .bool true => "true"
  | .bool false => "false"
  | .number value => value.text
  | .string value => quoted value
  | .array [] => "[]"
  | .object [] => "\x7b\x7d"

/-- The items of an array, each on a line of its own. -/
def indentedItems (depth : Nat) : List Json → List String
  | [] => []
  | item :: rest => (lineStart depth ++ indented depth item) :: indentedItems depth rest

/-- The members of an object, each on a line of its own. -/
def indentedMembers (depth : Nat) : List (String × Json) → List String
  | [] => []
  | (key, value) :: rest =>
    (lineStart depth ++ quoted key ++ ": " ++ indented depth value)
      :: indentedMembers depth rest

end

/-- The text of a value with each item and member on a line of its own, two blanks a level. -/
def pretty (value : Json) : String :=
  indented 0 value

end FormWizard.Json
