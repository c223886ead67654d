import LiveBinding.Text.WordTable

/-!
# Classes of characters

Blanks separate the tokens of an expression, word characters make up its names. Numbers are
written with ASCII digits only; a digit of another script is a word character like any letter.
-/

namespace LiveBinding.Text

/-- Characters with the property White_Space. -/
def blankRanges : List Range :=
  [⟨0x9, 0xd⟩, ⟨0x20, 0x20⟩, ⟨0x85, 0x85⟩, ⟨0xa0, 0xa0⟩, ⟨0x1680, 0x1680⟩, ⟨0x2000, 0x200a⟩,
    ⟨0x2028, 0x2029⟩, ⟨0x202f, 0x202f⟩, ⟨0x205f, 0x205f⟩, ⟨0x3000, 0x3000⟩]

/-- Whether a character is white space. -/
def isBlank (char : Char) : Bool :=
  inRanges blankRanges char

/-- Whether a character is a letter or a number of any script. -/
def isAlphanumeric (char : Char) : Bool :=
  char.isAlphanum || inRanges alphanumericRanges char

/-- Whether a character may stand in a name. -/
def isWordChar (char : Char) : Bool :=
  char == '_' || isAlphanumeric char

theorem isWordChar_of_isDigit {char : Char} (digit : char.isDigit = true) :
    isWordChar char = true := by
  simp [isWordChar, isAlphanumeric, Char.isAlphanum, digit]

/-- Whether a text is a name: not empty, and made of word characters. -/
def isName (text : String) : Bool :=
  !text.isEmpty && text.toList.all isWordChar

end LiveBinding.Text
