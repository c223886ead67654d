import LiveBinding.Decimal.Text
import LiveBinding.Toml.Basic

/-!
# Numbers of a TOML document

Integers have 64 bits. They are written in base ten with an optional sign, or in base sixteen,
eight or two with a prefix. A number with a point or an exponent is a decimal. One underscore may
stand between two digits, and base ten has no leading zeros.
-/

namespace LiveBinding.Toml

/-- Digits that follow a digit, and what stands behind them. -/
def moreDigits (isDigit : Char → Bool) : List Char → List Char × List Char
  | '_' :: char :: rest =>
    if isDigit char then
      let out := moreDigits isDigit rest
      (char :: out.1, out.2)
    else ([], '_' :: char :: rest)
  | char :: rest =>
    if isDigit char then
      let out := moreDigits isDigit rest
      (char :: out.1, out.2)
    else ([], char :: rest)
  | [] => ([], [])

/-- Digits, at least one, and what stands behind them. -/
def takeDigits? (isDigit : Char → Bool) : List Char → Option (List Char × List Char)
  | [] => none
  | char :: rest =>
    if isDigit char then
      let out := moreDigits isDigit rest
      some (char :: out.1, out.2)
    else none

/-- The digits in front of a point: a zero alone, or digits that start with another one. -/
def takeWhole? : List Char → Option (List Char × List Char)
  | '0' :: rest => some (['0'], rest)
  | chars => takeDigits? Char.isDigit chars

/-- A point with its digits, or nothing. -/
def takePoint? : List Char → Option (List Char × List Char)
  | '.' :: rest => (takeDigits? Char.isDigit rest).map fun out => ('.' :: out.1, out.2)
  | chars => some ([], chars)

/-- A sign as it is written, or nothing. -/
def takeSign : List Char → List Char × List Char
  | '-' :: rest => (['-'], rest)
  | '+' :: rest => (['+'], rest)
  | chars => ([], chars)

/-- An exponent as it is written, or nothing. Its digits may start with zeros. -/
def takePower? : List Char → Option (List Char × List Char)
  | [] => some ([], [])
  | char :: rest =>
    if char = 'e' ∨ char = 'E' then
      let (sign, digits) := takeSign rest
      (takeDigits? Char.isDigit digits).map fun out => ('e' :: sign ++ out.1, out.2)
    else some ([], char :: rest)

/-- Whether a character is a digit in a base of at most sixteen. -/
def isDigitIn (base : Nat) (char : Char) : Bool :=
  match Text.hexValue? char with
  | none => false
  | some value => value < base

/-- The number that digits in a base denote. -/
def readInBase (base : Nat) (digits : List Char) : Nat :=
  (digits.filterMap Text.hexValue?).foldl (fun value digit => base * value + digit) 0

/-- The integer whose digits in a base stand here. -/
def takeInBase? (base : Nat) (chars : List Char) : Option (Toml × List Char) := do
  let (digits, rest) ← takeDigits? (isDigitIn base) chars
  let value : Int := readInBase base digits
  if value ≤ Int64.maxValue.toInt then some (.integer (Int64.ofInt value), rest) else none

/-- The decimal that a numeral denotes. A positive one beyond the largest decimal is refused. -/
def readDecimal? (numeral : List Char) : Option Toml := do
  let value ← Decimal.ofText? (String.ofList numeral)
  if value = .infinite false then none else some (.decimal value)

/-- The number in base ten that stands here behind its sign. -/
def takeSigned? (sign chars : List Char) : Option (Toml × List Char) := do
  let (whole, rest) ← takeWhole? chars
  let (fraction, rest) ← takePoint? rest
  let (power, rest) ← takePower? rest
  let numeral := sign ++ whole ++ fraction ++ power
  if fraction = [] ∧ power = [] then
    let value ← Text.readInt64? (String.ofList numeral)
    some (.integer value, rest)
  else
    let item ← readDecimal? numeral
    some (item, rest)

/-- The number that stands here. -/
def takeNumber? : List Char → Option (Toml × List Char)
  | '0' :: 'x' :: rest => takeInBase? 16 rest
  | '0' :: 'o' :: rest => takeInBase? 8 rest
  | '0' :: 'b' :: rest => takeInBase? 2 rest
  | chars =>
    let (sign, body) := takeSign chars
    match body with
    | 'i' :: 'n' :: 'f' :: rest => some (.decimal (.infinite (sign = ['-'])), rest)
    | 'n' :: 'a' :: 'n' :: rest => some (.decimal .nan, rest)
    | body => takeSigned? sign body

end LiveBinding.Toml
