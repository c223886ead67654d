/-!
# Cutting a text in two
-/

namespace LiveBinding.Text

/-- The characters before the first mark and those behind it, if there is one. -/
def cutChars? (mark : Char) (chars : List Char) : Option (List Char × List Char) :=
  match chars.dropWhile (· != mark) with
  | [] => none
  | _ :: rest => some (chars.takeWhile (· != mark), rest)

/-- The text before the first mark and the text behind it, if there is one. -/
def cut? (mark : Char) (text : String) : Option (String × String) :=
  (cutChars? mark text.toList).map fun parts => (String.ofList parts.1, String.ofList parts.2)

end LiveBinding.Text
