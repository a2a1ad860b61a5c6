import FormWizard.Decimal.Layout
import FormWizard.Unicode.Property

/-! The tokens of expressions and how messages name them. -/

namespace FormWizard.Expr

/-- The signs of the expression language. -/
inductive Symbol where
  | identical
  | notIdentical
  | equal
  | notEqual
  | lessEqual
  | greaterEqual
  | both
  | either
  | plus
  | minus
  | star
  | slash
  | percent
  | less
  | greater
  | bang
  | question
  | colon
  | openParen
  | closeParen
  | openBracket
  | closeBracket
  | comma
  | dot
deriving DecidableEq, Repr

namespace Symbol

/-- How a sign is written. -/
def spelling : Symbol → String
  | identical => "==="
  | notIdentical => "!=="
  | equal => "=="
  | notEqual => "!="
  | lessEqual => "<="
  | greaterEqual => ">="
  | both => "&&"
  | either => "||"
  | plus => "+"
  | minus => "-"
  | star => "*"
  | slash => "/"
  | percent => "%"
  | less => "<"
  | greater => ">"
  | bang => "!"
  | question => "?"
  | colon => ":"
  | openParen => "("
  | closeParen => ")"
  | openBracket => "["
  | closeBracket => "]"
  | comma => ","
  | dot => "."

/-- All signs, those of more characters first, so that the first one found in front of a text is
the longest.
-/
def table : List Symbol := [
  identical, notIdentical, equal, notEqual, lessEqual, greaterEqual, both, either, plus, minus,
  star, slash, percent, less, greater, bang, question, colon, openParen, closeParen,
  openBracket, closeBracket, comma, dot]

end Symbol

/-- A token. The end of the source counts as one. -/
inductive Token where
  | number (value : Float)
  | text (value : String)
  | ident (name : String)
  | symbol (sign : Symbol)
  | finish
deriving DecidableEq

/-- A token and the byte offset at which it starts. -/
structure Lexed where
  token : Token
  offset : Nat
deriving DecidableEq

namespace Token

/-- Numbers in messages are written positionally for exponents from -4 to 15; of two equally near
texts the greater is taken.
-/
def numberStyle : Decimal.Style where
  plainFrom := -4
  plainBelow := 16
  plusSign := false
  tie := .upward

/-- A number in a message. -/
def numberText (x : Float) : String :=
  if Binary64.isFinite x then Decimal.written numberStyle x else Decimal.nonFinite x

/-- The digits of a number in hexadecimal. -/
def hexDigits (n : Nat) : List Char :=
  Nat.toDigits 16 n

/-- A character of a text in a message. What has no shape of its own is given by its code. -/
def escaped (c : Char) : List Char :=
  match c with
  | '\x00' => ['\\', '0']
  | '\t' => ['\\', 't']
  | '\r' => ['\\', 'r']
  | '\n' => ['\\', 'n']
  | '"' => ['\\', '"']
  | '\\' => ['\\', '\\']
  | c =>
    if Unicode.graphemeExtenders.contains c.toNat || !Unicode.isPrintable c then
      ['\\', 'u', '\x7b'] ++ hexDigits c.toNat ++ ['\x7d']
    else [c]

/-- How a message names a token. -/
def shown : Token → String
  | number value => "Number(" ++ numberText value ++ ")"
  | text value => "Str(" ++ String.ofList ('"' :: value.toList.flatMap escaped ++ ['"']) ++ ")"
  | ident name => "Ident(\"" ++ name ++ "\")"
  | symbol sign => "Op(\"" ++ sign.spelling ++ "\")"
  | finish => "End"

end Token

end FormWizard.Expr
