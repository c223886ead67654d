import LiveBinding.Expr.Token
import LiveBinding.Text.Numeral

/-!
# Errors of reading

Why a text is no expression and no path, and where. Positions count characters.
-/

namespace LiveBinding

/-- Why a text cannot be read. A missing token stands for the end of the input. -/
inductive ParseError.Cause where
  | unterminatedString
  | unexpectedChar (char : Char)
  | emptyExpression
  | unexpectedEnd
  | expectedExpression (found : Token)
  | expectedKey (found : Option Token)
  | expectedIndex (found : Option Token)
  | expectedCloseBracket (found : Option Token)
  | integerOutOfRange (digits : String)
  | invalidIndex (digits : String)
  | nestedTooDeeply
  | emptyArgument (name : String)
  | unbalancedCall (name : String)
  | expectedSeparator (name : String) (found : Token)
  | trailingContent (found : Token)
  deriving DecidableEq, Repr

/-- A cause and the position where it shows. -/
structure ParseError where
  offset : Nat
  cause : ParseError.Cause
  deriving DecidableEq, Repr

namespace ParseError

/-- The wording of a cause. -/
def Cause.message : Cause → String
  | .unterminatedString => "unterminated string literal"
  | .unexpectedChar char => "unexpected character '" ++ String.singleton char ++ "'"
  | .emptyExpression => "empty expression"
  | .unexpectedEnd => "unexpected end of expression"
  | .expectedExpression found => "expected expression, got " ++ Token.describe (some found)
  | .expectedKey found => "expected path key, got " ++ Token.describe found
  | .expectedIndex found => "expected array index, got " ++ Token.describe found
  | .expectedCloseBracket found => "expected ']', got " ++ Token.describe found
  | .integerOutOfRange digits => "integer '" ++ digits ++ "' out of range"
  | .invalidIndex digits => "invalid array index '" ++ digits ++ "'"
  | .nestedTooDeeply => "expression nested too deeply"
  | .emptyArgument name => "empty argument in call to '" ++ name ++ "'"
  | .unbalancedCall name => "unbalanced parentheses in call to '" ++ name ++ "'"
  | .expectedSeparator name found =>
    "expected ',' or ')' in call to '" ++ name ++ "', got " ++ Token.describe (some found)
  | .trailingContent found => "unexpected trailing content: " ++ Token.describe (some found)

/-- The wording of an error, with its position. -/
def message (error : ParseError) : String :=
  error.cause.message ++ " (at offset " ++ Text.natText error.offset ++ ")"

end ParseError

end LiveBinding
