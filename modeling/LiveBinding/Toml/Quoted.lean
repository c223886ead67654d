import LiveBinding.Text.Numeral
import LiveBinding.Toml.Line

/-!
# Texts in quotes

A text stands between single or double quotes on one line, or between three of them on any number
of lines. A backslash has a meaning only between double quotes. Readers answer what they read and
the characters left over, or nothing.
-/

namespace LiveBinding.Toml

open Text (hexValue?)

/-- The number that exactly so many hexadecimal digits denote. -/
def takeHex? (count : Nat) (chars : List Char) : Option (Nat × List Char) := do
  let values ← (chars.take count).mapM hexValue?
  if values.length = count then
    some (values.foldl (fun code value => 16 * code + value) 0, chars.drop count)
  else none

/-- The character with the number that so many hexadecimal digits denote, if there is one. -/
def takeCode? (count : Nat) (chars : List Char) : Option (Char × List Char) := do
  let (code, rest) ← takeHex? count chars
  if code.isValidChar then some (Char.ofNat code, rest) else none

/-- The character behind a backslash. -/
def takeEscape? : List Char → Option (Char × List Char)
  | '"' :: rest => some ('"', rest)
  | '\\' :: rest => some ('\\', rest)
  | 'b' :: rest => some ('\x08', rest)
  | 'f' :: rest => some ('\x0c', rest)
  | 'n' :: rest => some ('\n', rest)
  | 'r' :: rest => some ('\r', rest)
  | 't' :: rest => some ('\t', rest)
  | 'u' :: rest => takeCode? 4 rest
  | 'U' :: rest => takeCode? 8 rest
  | _ => none

/-- Put a character in front of a content. -/
def withChar (char : Char) (out : List Char × List Char) : List Char × List Char :=
  (char :: out.1, out.2)

/-- The content of a text on one line up to its closing quote, in at most `fuel` characters. -/
def takeLine? (mark : Char) : (fuel : Nat) → List Char → Option (List Char × List Char)
  | 0, _ => none
  | _, [] => none
  | fuel + 1, char :: rest =>
    if char = mark then some ([], rest)
    else if char = '\\' ∧ mark = '"' then do
      let (escaped, rest) ← takeEscape? rest
      (takeLine? mark fuel rest).map (withChar escaped)
    else if isPlain char then (takeLine? mark fuel rest).map (withChar char)
    else none

/-- What follows three quotes, if they stand here. -/
def takeThree? (mark : Char) (chars : List Char) : Option (List Char) :=
  if chars.take 3 = [mark, mark, mark] then some (chars.drop 3) else none

/-- The quotes, at most two, that stand behind three closing ones and belong to the content. -/
def trailingMarks (mark : Char) (chars : List Char) : List Char :=
  (chars.takeWhile (· == mark)).take 2

/-- What follows the break of a line that a backslash hides, with all the blanks and empty lines
behind it. -/
def takeHiddenBreak? (chars : List Char) : Option (List Char) :=
  (takeNewline? (skipBlanks chars)).map skipBlankLines

/-- The content of a text on many lines up to its three closing quotes, in at most `fuel`
characters. The end of a line counts as a line feed. -/
def takeBlock? (mark : Char) : (fuel : Nat) → List Char → Option (List Char × List Char)
  | 0, _ => none
  | _, [] => none
  | fuel + 1, char :: rest =>
    match takeThree? mark (char :: rest), takeNewline? (char :: rest) with
    | some after, _ =>
      let trailing := trailingMarks mark after
      some (trailing, after.drop trailing.length)
    | none, some after => (takeBlock? mark fuel after).map (withChar '\n')
    | none, none =>
      if char = '\\' ∧ mark = '"' then
        match takeHiddenBreak? rest with
        | some after => takeBlock? mark fuel after
        | none => do
          let (escaped, after) ← takeEscape? rest
          (takeBlock? mark fuel after).map (withChar escaped)
      else if isPlain char then (takeBlock? mark fuel rest).map (withChar char)
      else none

/-- The content of a text whose first quote has been taken. A line that ends right behind three
opening quotes does not count. -/
def takeQuoted? (mark : Char) (rest : List Char) : Option (String × List Char) :=
  let content? :=
    match takeThree? mark (mark :: rest) with
    | some body =>
      let body := (takeNewline? body).getD body
      takeBlock? mark body.length body
    | none => takeLine? mark rest.length rest
  content?.map fun out => (String.ofList out.1, out.2)

end LiveBinding.Toml
