import LiveBinding.Json.Number
import LiveBinding.Fields

/-!
# Reading JSON text

The reader accepts exactly one document with blanks around it. Lists and objects may be nested to
a fixed depth. Of fields with one name the last one counts. Readers answer what they read and the
characters left over, or nothing.
-/

namespace LiveBinding.Json

open Text (hexValue?)

/-- Lists and objects may be nested this deep. -/
def maxNesting : Nat := 127

/-- The four blanks of interchange text. -/
def isSpace (char : Char) : Bool :=
  char == ' ' || char == '\n' || char == '\t' || char == '\r'

/-- What follows the blanks. -/
def skipSpace (chars : List Char) : List Char := chars.dropWhile isSpace

/-- The number that four hexadecimal digits denote. -/
def takeHex? : List Char → Option (Nat × List Char)
  | first :: second :: third :: fourth :: rest => do
    let first ← hexValue? first
    let second ← hexValue? second
    let third ← hexValue? third
    let fourth ← hexValue? fourth
    some (((first * 16 + second) * 16 + third) * 16 + fourth, rest)
  | _ => none

/-- The first half of a pair that stands for one character beyond the basic plane. -/
def isHighHalf (code : Nat) : Bool := 0xd800 ≤ code && code < 0xdc00

/-- The second half of such a pair. -/
def isLowHalf (code : Nat) : Bool := 0xdc00 ≤ code && code < 0xe000

/-- The character of a numeric escape, of which a pair makes one. Half a pair is refused. -/
def takeEscapedCode? (chars : List Char) : Option (Char × List Char) := do
  let (code, rest) ← takeHex? chars
  if isHighHalf code then
    match rest with
    | '\\' :: 'u' :: rest =>
      let (low, rest) ← takeHex? rest
      if isLowHalf low then
        some (Char.ofNat (0x10000 + (code - 0xd800) * 0x400 + (low - 0xdc00)), rest)
      else none
    | _ => none
  else if isLowHalf code then none
  else some (Char.ofNat code, rest)

/-- The character behind a backslash. -/
def takeEscape? : List Char → Option (Char × List Char)
  | '"' :: rest => some ('"', rest)
  | '\\' :: rest => some ('\\', rest)
  | '/' :: rest => some ('/', rest)
  | 'b' :: rest => some ('\x08', rest)
  | 'f' :: rest => some ('\x0c', rest)
  | 'n' :: rest => some ('\n', rest)
  | 'r' :: rest => some ('\r', rest)
  | 't' :: rest => some ('\t', rest)
  | 'u' :: rest => takeEscapedCode? rest
  | _ => none

/-- The content of a string up to its closing quote, in at most `fuel` characters. -/
def takeString? : (fuel : Nat) → List Char → Option (List Char × List Char)
  | 0, _ => none
  | _, [] => none
  | _ + 1, '"' :: rest => some ([], rest)
  | fuel + 1, '\\' :: rest => do
    let (char, rest) ← takeEscape? rest
    let (content, rest) ← takeString? fuel rest
    some (char :: content, rest)
  | fuel + 1, char :: rest =>
    if char.toNat < 0x20 then none
    else do
      let (content, rest) ← takeString? fuel rest
      some (char :: content, rest)

/-- What follows a literal word, if it stands here. -/
def takeWord? (word : String) (chars : List Char) : Option (List Char) :=
  if word.toList.isPrefixOf chars then some (chars.drop word.length) else none

mutual

/-- The document that starts here, inside brackets that leave room for `depth` more levels. The
fuel bounds the number of steps; every second step takes a character. -/
def takeValue? : (fuel depth : Nat) → List Char → Option (Json × List Char)
  | 0, _, _ => none
  | fuel + 1, depth, chars =>
    match skipSpace chars with
    | [] => none
    | '"' :: rest =>
      (takeString? rest.length rest).map fun out => (.string (String.ofList out.1), out.2)
    | '[' :: rest =>
      match depth, skipSpace rest with
      | 0, _ => none
      | _ + 1, ']' :: rest => some (.array [], rest)
      | depth + 1, rest => (takeItems? fuel depth rest).map fun out => (.array out.1, out.2)
    | '\x7b' :: rest =>
      match depth, skipSpace rest with
      | 0, _ => none
      | _ + 1, '\x7d' :: rest => some (.object [], rest)
      | depth + 1, rest =>
        (takeFields? fuel depth [] rest).map fun out => (.object out.1, out.2)
    | 'n' :: rest => (takeWord? "ull" rest).map fun rest => (.null, rest)
    | 't' :: rest => (takeWord? "rue" rest).map fun rest => (.bool true, rest)
    | 'f' :: rest => (takeWord? "alse" rest).map fun rest => (.bool false, rest)
    | chars => (takeNumber? chars).map fun out => (.number out.1, out.2)

/-- The items of a list from the next one on, with the closing bracket. -/
def takeItems? : (fuel depth : Nat) → List Char → Option (List Json × List Char)
  | 0, _, _ => none
  | fuel + 1, depth, chars => do
    let (item, rest) ← takeValue? fuel depth chars
    match skipSpace rest with
    | ',' :: rest =>
      let (items, rest) ← takeItems? fuel depth rest
      some (item :: items, rest)
    | ']' :: rest => some ([item], rest)
    | _ => none

/-- The fields of an object from the next one on, with the closing brace, added to those
before. -/
def takeFields? : (fuel depth : Nat) → Fields Json → List Char →
    Option (Fields Json × List Char)
  | 0, _, _, _ => none
  | fuel + 1, depth, before, chars =>
    match skipSpace chars with
    | '"' :: rest => do
      let (name, rest) ← takeString? rest.length rest
      match skipSpace rest with
      | ':' :: rest =>
        let (item, rest) ← takeValue? fuel depth rest
        let fields := before.insert (String.ofList name) item
        match skipSpace rest with
        | ',' :: rest => takeFields? fuel depth fields rest
        | '\x7d' :: rest => some (fields, rest)
        | _ => none
      | _ => none
    | _ => none

end

/-- Read a document. -/
def read? (text : String) : Option Json := do
  let chars := text.toList
  let (document, rest) ← takeValue? (2 * chars.length + 1) maxNesting chars
  if skipSpace rest = [] then some document else none

end LiveBinding.Json
