/-!
# Tokens

The words, literals and marks that an expression or a path is made of. A numeral keeps its
spelling, since the digits of an integer may turn out to be the name of a field.
-/

namespace LiveBinding

/-- Tokens. The text of a string is its content, with escapes resolved. -/
inductive Token where
  | word (text : String)
  | string (text : String)
  | integer (digits : String)
  | decimal (digits : String)
  | openParen
  | closeParen
  | openBracket
  | closeBracket
  | comma
  | dot
  | star
  deriving DecidableEq, Repr

/-- A token and the position of its first character. -/
structure Located where
  token : Token
  offset : Nat
  deriving DecidableEq, Repr

/-- The tokens of a text and its length in characters, the position of its end. -/
structure TokenStream where
  located : List Located
  length : Nat
  deriving DecidableEq, Repr

namespace TokenStream

/-- The tokens without their positions. -/
def tokens (stream : TokenStream) : List Token := stream.located.map (·.token)

/-- The position where so many tokens are left: that of the first of them, or of the end. -/
def offsetAt (stream : TokenStream) (remaining : Nat) : Nat :=
  match stream.located.drop (stream.located.length - remaining) with
  | [] => stream.length
  | next :: _ => next.offset

end TokenStream

/-- How a message names a token, or the end of the input. -/
def Token.describe : Option Token → String
  | none => "end of input"
  | some (.word text) => "'" ++ text ++ "'"
  | some (.string text) => "string '" ++ text ++ "'"
  | some (.integer digits) => "number " ++ digits
  | some (.decimal digits) => "number " ++ digits
  | some .openParen => "'('"
  | some .closeParen => "')'"
  | some .openBracket => "'['"
  | some .closeBracket => "']'"
  | some .comma => "','"
  | some .dot => "'.'"
  | some .star => "'*'"

end LiveBinding
