import LiveBinding.Expr.ParseError
import LiveBinding.Text.CharClass

/-!
# From characters to tokens

Tokens are the longest that fit, with blanks between them. Three rules look at the neighbourhood.
After a point digits are the name of a field, never a number. A minus sign belongs to the digits
right behind it. Digits that run into letters are a word.
-/

namespace LiveBinding.Token

/-- A token and the number of characters that spell it. -/
structure Lexeme where
  token : Token
  width : Nat
  deriving DecidableEq, Repr

/-- The content of a string and the number of characters up to and with its closing quote. A
backslash escapes a quote and a backslash and stands for itself before anything else. -/
def stringBody : List Char → Option (List Char × Nat)
  | [] => none
  | '\'' :: _ => some ([], 1)
  | '\\' :: '\'' :: rest => (stringBody rest).map fun body => ('\'' :: body.1, body.2 + 2)
  | '\\' :: '\\' :: rest => (stringBody rest).map fun body => ('\\' :: body.1, body.2 + 2)
  | char :: rest => (stringBody rest).map fun body => (char :: body.1, body.2 + 1)

/-- The token spelled by just these characters. -/
def spelled (make : String → Token) (chars : List Char) : Lexeme :=
  ⟨make (String.ofList chars), chars.length⟩

/-- A minus sign in front of a number, and what follows it. -/
def takeMinus : List Char → List Char × List Char
  | '-' :: rest => (['-'], rest)
  | chars => ([], chars)

/-- The digits behind a point that stands first, with no blank between. -/
def fractionDigits : List Char → List Char
  | '.' :: rest => rest.takeWhile Char.isDigit
  | _ => []

/-- The number, or the word with digits in front, that starts here. -/
def number? (chars : List Char) : Option Lexeme :=
  let (sign, body) := takeMinus chars
  let whole := body.takeWhile Char.isDigit
  let after := body.dropWhile Char.isDigit
  let fraction := fractionDigits after
  let letters := if sign = [] then after.takeWhile Text.isWordChar else []
  if whole = [] then none
  else if fraction ≠ [] then some (spelled .decimal (sign ++ whole ++ '.' :: fraction))
  else if letters ≠ [] then some (spelled .word (whole ++ letters))
  else some (spelled .integer (sign ++ whole))

/-- The mark that a character is. -/
def mark? : Char → Option Token
  | '(' => some .openParen
  | ')' => some .closeParen
  | '[' => some .openBracket
  | ']' => some .closeBracket
  | ',' => some .comma
  | '.' => some .dot
  | '*' => some .star
  | _ => none

/-- The mark or word that starts with a character. -/
def markOrWord (char : Char) (rest : List Char) : Except ParseError.Cause Lexeme :=
  match mark? char with
  | some token => .ok ⟨token, 1⟩
  | none =>
    if Text.isWordChar char then
      .ok (spelled .word (char :: rest.takeWhile Text.isWordChar))
    else .error (.unexpectedChar char)

/-- The token that starts with a character that is not blank. -/
def next (afterDot : Bool) (char : Char) (rest : List Char) :
    Except ParseError.Cause Lexeme :=
  if char = '\'' then
    match stringBody rest with
    | none => .error .unterminatedString
    | some (content, width) => .ok ⟨.string (String.ofList content), width + 1⟩
  else
    match if afterDot then none else number? (char :: rest) with
    | some lexeme => .ok lexeme
    | none => markOrWord char rest

/-- The tokens of the characters from a position on. -/
def lexFrom (offset : Nat) (afterDot : Bool) : List Char → Except ParseError (List Located)
  | [] => .ok []
  | char :: rest =>
    if Text.isBlank char then lexFrom (offset + 1) afterDot rest
    else
      match next afterDot char rest with
      | .error cause => .error ⟨offset, cause⟩
      | .ok lexeme =>
        (lexFrom (offset + lexeme.width) (lexeme.token = .dot)
          (rest.drop (lexeme.width - 1))).map (⟨lexeme.token, offset⟩ :: ·)
termination_by chars => chars.length
decreasing_by all_goals simp only [List.length_cons, List.length_drop]; omega

/-- The tokens of a text. -/
def lex (text : String) : Except ParseError TokenStream :=
  (lexFrom 0 false text.toList).map (⟨·, text.toList.length⟩)

end LiveBinding.Token
