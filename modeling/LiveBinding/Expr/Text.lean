import LiveBinding.Expr.Basic
import LiveBinding.Value.Text

/-!
# The text of an expression

An expression is written in the notation in which it is read. A string literal stands between
single quotes; invalid text is written as it was.
-/

namespace LiveBinding

/-- The characters of a string literal between its quotes. -/
def Value.literalChars (text : String) : List Char :=
  text.toList.flatMap fun char =>
    if char = '\'' ∨ char = '\\' then ['\\', char] else [char]

/-- The text of a literal. Lists and objects have no literal form and are written as values. -/
def Value.literalText : Value → String
  | .string text => "'" ++ String.ofList (literalChars text) ++ "'"
  | value => value.toText

namespace Expr

/-- The text of an expression. -/
def toText : Expr → String
  | .literal value => value.literalText
  | .binding path => path.toText
  | .call name arguments => name ++ "(" ++ Text.join ", " (argumentTexts arguments) ++ ")"
  | .invalid text _ => text
where
  argumentTexts : List Expr → List String
    | [] => []
    | argument :: rest => argument.toText :: argumentTexts rest

end Expr

end LiveBinding
