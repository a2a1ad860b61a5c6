import FormWizard.Expr.Token

/-! Why a source is no expression. -/

namespace FormWizard.Expr

/-- What is wrong with a source. -/
inductive Fault where
  | invalidNumber (text : String)
  | unterminatedText
  | unexpectedCharacter (c : Char)
  | nestedTooDeeply
  | chainTooLong
  | trailing (token : Token)
  | expected (sign : Symbol) (found : Token)
  | expectedProperty (found : Token)
  | notCallable
  | notFinite (value : Float)
  | unexpectedEnd
  | unexpected (token : Token)
deriving DecidableEq

/-- The wording of a fault. -/
def Fault.message : Fault → String
  | .invalidNumber text => "invalid number '" ++ text ++ "'"
  | .unterminatedText => "unterminated string"
  | .unexpectedCharacter c => "unexpected character '" ++ String.ofList [c] ++ "'"
  | .nestedTooDeeply => "expression nested too deeply"
  | .chainTooLong => "expression chains too many operations"
  | .trailing token => "unexpected trailing token " ++ token.shown
  | .expected sign found => "expected '" ++ sign.spelling ++ "', got " ++ found.shown
  | .expectedProperty found => "expected property name, got " ++ found.shown
  | .notCallable => "only named functions can be called"
  | .notFinite value => "result " ++ Decimal.nonFinite value ++ " is not a finite number"
  | .unexpectedEnd => "unexpected end of expression"
  | .unexpected token => "unexpected token " ++ token.shown

/-- A fault and the byte offset that is reported for it. -/
structure ParseError where
  offset : Nat
  fault : Fault
deriving DecidableEq

/-- The wording of a parse error. -/
def ParseError.message (error : ParseError) : String :=
  "failed to parse expression at offset " ++ Text.integer error.offset ++ ": "
    ++ error.fault.message

end FormWizard.Expr
