/-!
# Numerals

Integers are written in base ten without leading zeros and read with an optional sign. Reading
accepts leading zeros; a range is checked by whoever needs one.
-/

namespace LiveBinding.Text

/-- The digits of a natural number, without leading zeros. -/
def digitChars (value : Nat) : List Char := Nat.toDigits 10 value

/-- The numeral of a natural number. -/
def natText (value : Nat) : String := String.ofList (digitChars value)

/-- The sign that is written in front of a number. -/
def signText (negative : Bool) : String := if negative then "-" else ""

/-- The numeral of an integer. -/
def intText (value : Int) : String := signText (decide (value < 0)) ++ natText value.natAbs

/-- The value of a digit. -/
def digitValue (char : Char) : Nat := char.toNat - '0'.toNat

/-- The value of a hexadecimal digit. -/
def hexValue? (char : Char) : Option Nat :=
  if char.isDigit then some (digitValue char)
  else if 'a' ≤ char ∧ char ≤ 'f' then some (char.toNat - 'a'.toNat + 10)
  else if 'A' ≤ char ∧ char ≤ 'F' then some (char.toNat - 'A'.toNat + 10)
  else none

/-- The number that a list of digits denotes. -/
def readNat (chars : List Char) : Nat :=
  chars.foldl (fun value char => 10 * value + digitValue char) 0

/-- Whether the characters are digits, at least one. -/
def isNumeral (chars : List Char) : Bool :=
  !chars.isEmpty && chars.all Char.isDigit

/-- A sign, if there is one, and what follows it. -/
def takeSign : List Char → Bool × List Char
  | '-' :: rest => (true, rest)
  | '+' :: rest => (false, rest)
  | chars => (false, chars)

/-- The integer that a numeral with an optional sign denotes. -/
def readInt? (chars : List Char) : Option Int :=
  let (negative, digits) := takeSign chars
  if isNumeral digits then
    some (if negative then -(readNat digits : Int) else readNat digits)
  else none

/-- The integer of 64 bits that a text denotes, if it is one and in range. -/
def readInt64? (text : String) : Option Int64 :=
  (readInt? text.toList).bind fun value =>
    if Int64.minValue.toInt ≤ value ∧ value ≤ Int64.maxValue.toInt then
      some (Int64.ofInt value)
    else none

end LiveBinding.Text
