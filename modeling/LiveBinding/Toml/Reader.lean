import LiveBinding.Toml.Moment
import LiveBinding.Toml.Numeral
import LiveBinding.Toml.Quoted

/-!
# Reading a TOML document

The text is read into statements, and these are put together into a document. Keys have a limited
number of names and brackets are nested to a limited depth. Readers answer what they read and the
characters left over, or nothing.
-/

namespace LiveBinding.Toml

/-- A key has at most this many names. -/
def maxNames : Nat := 79

/-- Arrays and tables in braces may be nested this deep. -/
def maxNesting : Nat := 79

/-- The characters of a name without quotes. -/
def isBare (char : Char) : Bool := char.isAlphanum || char == '_' || char == '-'

/-- A name of a key. -/
def takeName? : List Char → Option (String × List Char)
  | [] => none
  | char :: rest =>
    if char = '"' ∨ char = '\'' then
      (takeLine? char rest.length rest).map fun out => (String.ofList out.1, out.2)
    else
      let name := (char :: rest).takeWhile isBare
      if name = [] then none
      else some (String.ofList name, (char :: rest).dropWhile isBare)

/-- A key of at most so many names, with the blanks around them. -/
def takeKey? : (names : Nat) → List Char → Option (Key × List Char)
  | 0, _ => none
  | names + 1, chars => do
    let (name, rest) ← takeName? (skipBlanks chars)
    match skipBlanks rest with
    | '.' :: rest =>
      (takeKey? names rest).map fun out => (⟨name :: out.1.path, out.1.name⟩, out.2)
    | rest => some (⟨[], name⟩, rest)

/-- A moment, or else a number. -/
def takeQuantity? (chars : List Char) : Option (Toml × List Char) :=
  match takeMoment? chars with
  | some (text, rest) => some (.moment text, rest)
  | none => takeNumber? chars

mutual

/-- The item that starts here, inside brackets that leave room for `depth` more levels. The fuel
bounds the number of steps; every second step takes a character. -/
def takeItem? : (fuel depth : Nat) → List Char → Option (Toml × List Char)
  | 0, _, _ => none
  | fuel + 1, depth, chars =>
    match chars with
    | '"' :: rest => (takeQuoted? '"' rest).map fun out => (.string out.1, out.2)
    | '\'' :: rest => (takeQuoted? '\'' rest).map fun out => (.string out.1, out.2)
    | '[' :: rest =>
      match depth with
      | 0 => none
      | depth + 1 => (takeItems? fuel depth rest).map fun out => (.array out.1, out.2)
    | '\x7b' :: rest =>
      match depth with
      | 0 => none
      | depth + 1 =>
        match skipBlanks rest with
        | '\x7d' :: rest => some (.table .inline [], rest)
        | rest => do
          let (entries, rest) ← takeFields? fuel depth rest
          let table ← ofEntries? entries
          some (table, rest)
    | 't' :: 'r' :: 'u' :: 'e' :: rest => some (.bool true, rest)
    | 'f' :: 'a' :: 'l' :: 's' :: 'e' :: rest => some (.bool false, rest)
    | chars => takeQuantity? chars

/-- The items of an array from the next one on, with the closing bracket. A comma may stand
behind the last one. -/
def takeItems? : (fuel depth : Nat) → List Char → Option (List Toml × List Char)
  | 0, _, _ => none
  | fuel + 1, depth, chars =>
    match skipSpace false chars with
    | ']' :: rest => some ([], rest)
    | chars => do
      let (item, rest) ← takeItem? fuel depth chars
      match skipSpace false rest with
      | ',' :: rest => (takeItems? fuel depth rest).map fun out => (item :: out.1, out.2)
      | ']' :: rest => some ([item], rest)
      | _ => none

/-- A key with its item. -/
def takeField? : (fuel depth : Nat) → List Char → Option ((Key × Toml) × List Char)
  | 0, _, _ => none
  | fuel + 1, depth, chars => do
    let (key, rest) ← takeKey? maxNames chars
    match rest with
    | '=' :: rest =>
      (takeItem? fuel depth (skipBlanks rest)).map fun out => ((key, out.1), out.2)
    | _ => none

/-- The entries of a table in braces from the next one on, with the closing brace. -/
def takeFields? : (fuel depth : Nat) → List Char → Option (List (Key × Toml) × List Char)
  | 0, _, _ => none
  | fuel + 1, depth, chars => do
    let (entry, rest) ← takeField? fuel depth chars
    match skipBlanks rest with
    | ',' :: rest => (takeFields? fuel depth rest).map fun out => (entry :: out.1, out.2)
    | '\x7d' :: rest => some ([entry], rest)
    | _ => none

end

/-- The statement that starts here, without the end of its line. -/
def takeStatement? : List Char → Option (Statement × List Char)
  | '[' :: '[' :: rest => do
    let (key, rest) ← takeKey? maxNames rest
    match rest with
    | ']' :: ']' :: rest => some (.row key, rest)
    | _ => none
  | '[' :: rest => do
    let (key, rest) ← takeKey? maxNames rest
    match rest with
    | ']' :: rest => some (.header key, rest)
    | _ => none
  | chars =>
    (takeField? (2 * chars.length + 2) maxNesting chars).map fun out =>
      (.entry out.1.1 out.1.2, out.2)

/-- The statements of a text, at most `fuel` of them. -/
def takeStatements? : (fuel : Nat) → List Char → Option (List Statement)
  | 0, _ => none
  | fuel + 1, chars =>
    match skipSpace false chars with
    | [] => some []
    | chars => do
      let (statement, rest) ← takeStatement? chars
      let rest ← takeLineEnd? rest
      let statements ← takeStatements? fuel rest
      some (statement :: statements)

/-- What follows a byte order mark, if the text starts with one. -/
def skipByteOrderMark : List Char → List Char
  | '\ufeff' :: rest => rest
  | chars => chars

/-- Read a document. -/
def read? (text : String) : Option (Fields Toml) :=
  let chars := skipByteOrderMark text.toList
  (takeStatements? (chars.length + 1) chars).bind ofStatements?

end LiveBinding.Toml
