import FormWizard.Json.Number

/-! The tokens of JSON text. The text is read character by character by an automaton that holds
the token in progress, so cutting a text into tokens is one fold over its characters.
-/

namespace FormWizard.Json

/-- A part of a quoted string: a character as it stands, or a 16-bit unit given by its code. -/
inductive Piece where
  | char (c : Char)
  | unit (code : Nat)

/-- A token of JSON text. Words and numbers are kept as written, strings as their parts. -/
inductive Token where
  | openArray
  | closeArray
  | openObject
  | closeObject
  | comma
  | colon
  | word (letters : List Char)
  | number (chars : List Char)
  | string (pieces : List Piece)

namespace Token

/-- What is being read: nothing, a word or a number with its last character first, or a string
with its last part first, possibly inside an escape.
-/
inductive Mode where
  | between
  | word (letters : List Char)
  | number (chars : List Char)
  | string (pieces : List Piece)
  | escape (pieces : List Piece)
  | code (pieces : List Piece) (count : Nat) (value : Nat)

/-- The finished tokens, last one first, and the one in progress. -/
structure Reading where
  tokens : List Token
  mode : Mode

/-- The value of a hexadecimal digit. -/
def hexValue? (c : Char) : Option Nat :=
  if c.isDigit then some (c.toNat - '0'.toNat)
  else if 'a' ≤ c ∧ c ≤ 'f' then some (c.toNat - 'a'.toNat + 10)
  else if 'A' ≤ c ∧ c ≤ 'F' then some (c.toNat - 'A'.toNat + 10)
  else none

/-- The character that a one-letter escape stands for. -/
def escapedChar? (c : Char) : Option Char :=
  match c with
  | '"' => some '"'
  | '\\' => some '\\'
  | '/' => some '/'
  | 'b' => some '\x08'
  | 'f' => some '\x0c'
  | 'n' => some '\n'
  | 'r' => some '\r'
  | 't' => some '\t'
  | _ => none

/-- The characters that numbers are made of. -/
def isNumeric (c : Char) : Bool :=
  c.isDigit || c == '-' || c == '+' || c == '.' || c == 'e' || c == 'E'

/-- A character that no token in progress takes. -/
def start (tokens : List Token) (c : Char) : Option Reading :=
  match c with
  | ' ' | '\n' | '\t' | '\r' => some ⟨tokens, .between⟩
  | '[' => some ⟨.openArray :: tokens, .between⟩
  | ']' => some ⟨.closeArray :: tokens, .between⟩
  | '\x7b' => some ⟨.openObject :: tokens, .between⟩
  | '\x7d' => some ⟨.closeObject :: tokens, .between⟩
  | ',' => some ⟨.comma :: tokens, .between⟩
  | ':' => some ⟨.colon :: tokens, .between⟩
  | '"' => some ⟨tokens, .string []⟩
  | c =>
    if c == '-' || c.isDigit then some ⟨tokens, .number [c]⟩
    else if c.isAlpha then some ⟨tokens, .word [c]⟩
    else none

/-- One more character. Only spaces, tabs and line breaks stand between tokens, and no control
character stands inside a string.
-/
def step (reading : Reading) (c : Char) : Option Reading :=
  match reading.mode with
  | .between => start reading.tokens c
  | .word letters =>
    if c.isAlpha then some ⟨reading.tokens, .word (c :: letters)⟩
    else start (.word letters.reverse :: reading.tokens) c
  | .number chars =>
    if isNumeric c then some ⟨reading.tokens, .number (c :: chars)⟩
    else start (.number chars.reverse :: reading.tokens) c
  | .string pieces =>
    if c == '"' then some ⟨.string pieces.reverse :: reading.tokens, .between⟩
    else if c == '\\' then some ⟨reading.tokens, .escape pieces⟩
    else if c.toNat < 0x20 then none
    else some ⟨reading.tokens, .string (.char c :: pieces)⟩
  | .escape pieces =>
    if c == 'u' then some ⟨reading.tokens, .code pieces 0 0⟩
    else (escapedChar? c).map fun e => ⟨reading.tokens, .string (.char e :: pieces)⟩
  | .code pieces count value =>
    (hexValue? c).map fun digit =>
      let value := 16 * value + digit
      if count == 3 then ⟨reading.tokens, .string (.unit value :: pieces)⟩
      else ⟨reading.tokens, .code pieces (count + 1) value⟩

/-- The end of the text, which no string may be open at. -/
def finish (reading : Reading) : Option (List Token) :=
  match reading.mode with
  | .between => some reading.tokens.reverse
  | .word letters => some (.word letters.reverse :: reading.tokens).reverse
  | .number chars => some (.number chars.reverse :: reading.tokens).reverse
  | .string _ | .escape _ | .code .. => none

/-- The tokens of a text. -/
def read? (chars : List Char) : Option (List Token) :=
  (chars.foldlM step ⟨[], .between⟩).bind finish

end Token

/-- The characters of a string. Two units that follow each other as a surrogate pair stand for
one character; a string with any other surrogate stands for no text.
-/
def characters? : List Piece → Option (List Char)
  | [] => some []
  | .char c :: rest => (characters? rest).map (c :: ·)
  | .unit high :: .unit low :: rest =>
    if 0xD800 ≤ high ∧ high < 0xDC00 then
      if 0xDC00 ≤ low ∧ low < 0xE000 then
        (characters? rest).map
          (Char.ofNat (0x10000 + (high - 0xD800) * 0x400 + (low - 0xDC00)) :: ·)
      else none
    else if 0xDC00 ≤ high ∧ high < 0xE000 then none
    else (characters? (.unit low :: rest)).map (Char.ofNat high :: ·)
  | .unit code :: rest =>
    if 0xD800 ≤ code ∧ code < 0xE000 then none
    else (characters? rest).map (Char.ofNat code :: ·)

end FormWizard.Json
