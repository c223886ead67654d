/-!
# Lines of a TOML document

A statement stands on a line of its own, with blanks and a comment behind it. Inside brackets
lines do not count. A carriage return stands only before a line feed.
-/

namespace LiveBinding.Toml

/-- The two blanks inside a line. -/
def isBlank (char : Char) : Bool := char == ' ' || char == '\t'

/-- The characters that stand for themselves in texts and comments: tabs and all that is not a
control character of the first 128. -/
def isPlain (char : Char) : Bool := char == '\t' || (' ' ≤ char && char != '\x7f')

/-- What follows the blanks. -/
def skipBlanks (chars : List Char) : List Char := chars.dropWhile isBlank

/-- What follows the end of a line that stands here. -/
def takeNewline? : List Char → Option (List Char)
  | '\n' :: rest => some rest
  | '\r' :: '\n' :: rest => some rest
  | _ => none

/-- What follows a comment, if one stands here. -/
def skipComment : List Char → List Char
  | '#' :: rest => rest.dropWhile isPlain
  | chars => chars

/-- What follows the rest of a line, which may hold blanks and a comment. -/
def takeLineEnd? (chars : List Char) : Option (List Char) :=
  match skipComment (skipBlanks chars) with
  | [] => some []
  | rest => takeNewline? rest

/-- What follows blanks and ends of lines. -/
def skipBlankLines : List Char → List Char
  | '\n' :: rest => skipBlankLines rest
  | '\r' :: '\n' :: rest => skipBlankLines rest
  | char :: rest => if isBlank char then skipBlankLines rest else char :: rest
  | [] => []

/-- What follows blanks, ends of lines and comments. -/
def skipSpace (inComment : Bool) : List Char → List Char
  | '\n' :: rest => skipSpace false rest
  | '\r' :: '\n' :: rest => skipSpace false rest
  | '#' :: rest => skipSpace true rest
  | char :: rest =>
    if if inComment then isPlain char else isBlank char then skipSpace inComment rest
    else char :: rest
  | [] => []

end LiveBinding.Toml
