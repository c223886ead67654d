import LiveBinding.Text.CaseTable

/-!
# Upper and lower case

Full case conversion: a character may map to several, as the sharp s does in upper case. One rule
looks at the context: a capital sigma that ends a word becomes the final form of the small sigma.
-/

namespace LiveBinding.Text

/-- The case image of a character, from the sequences, then the runs, else itself. -/
def mapCase (sequences : List (Nat × List Nat)) (runs : List CaseRun) (char : Char) : List Char :=
  match sequences.lookup char.toNat with
  | some codes => codes.map Char.ofNat
  | none =>
    match runs.findSome? (·.map? char.toNat) with
    | some code => [Char.ofNat code]
    | none => [char]

/-- The upper case of one character. -/
def upperOf (char : Char) : List Char :=
  mapCase upperSequences upperRuns char

/-- The lower case of one character that stands alone. -/
def lowerOf (char : Char) : List Char :=
  mapCase lowerSequences lowerRuns char

/-- Whether the first character that is not ignored for case is a cased letter. -/
def meetsCased (chars : List Char) : Bool :=
  match chars.dropWhile (inRanges caseIgnorableRanges) with
  | [] => false
  | char :: _ => inRanges casedRanges char

/-- A sigma ends a word when a cased letter stands before it and none after it. `before` holds
the preceding characters, nearest first. -/
def endsWord (before after : List Char) : Bool :=
  meetsCased before && !meetsCased after

/-- Lower case of the characters that follow `before`, nearest first. -/
def lowerAfter (before : List Char) : List Char → List Char
  | [] => []
  | char :: rest =>
    let image :=
      if char = 'Σ' then [if endsWord before rest then 'ς' else 'σ'] else lowerOf char
    image ++ lowerAfter (char :: before) rest

/-- The text in lower case. -/
def toLower (text : String) : String :=
  String.ofList (lowerAfter [] text.toList)

/-- The text in upper case. -/
def toUpper (text : String) : String :=
  String.ofList (text.toList.flatMap upperOf)

/-- The text with its first character in upper case. -/
def capitalize (text : String) : String :=
  match text.toList with
  | [] => ""
  | char :: rest => String.ofList (upperOf char ++ rest)

end LiveBinding.Text
