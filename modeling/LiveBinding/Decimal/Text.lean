import LiveBinding.Decimal.Digits

/-!
# The text of a decimal

Three texts are written or read here. The plain text never has an exponent: a whole number is
written with all its digits and `.0`, any other number with the fewest digits that read back. The
interchange text has an exponent outside a middle range. Reading takes a sign, digits with an
optional point and exponent, or the names of the infinities and of what is not a number.
-/

namespace LiveBinding.Decimal

open Text (digitChars natText signText readNat takeSign isNumeral)

/-- A number without an exponent; a point stands only before digits. -/
def Digits.positional (digits : Digits) : String :=
  let chars := digitChars digits.coefficient
  if 0 ≤ digits.exponent then
    String.ofList (chars ++ List.replicate digits.exponent.toNat '0')
  else
    let places := (-digits.exponent).toNat
    let padded := List.replicate (places + 1 - chars.length) '0' ++ chars
    let whole := padded.length - places
    String.ofList (padded.take whole ++ '.' :: padded.drop whole)

/-- The plain text of a decimal. A whole number keeps a `.0`, so that it reads back as a decimal
and not as an integer. -/
def toText : Decimal → String
  | .nan => "NaN"
  | .infinite negative => signText negative ++ "inf"
  | .finite negative steps _ =>
    if steps % unit = 0 then
      signText negative ++ natText (steps / unit) ++ ".0"
    else
      signText negative ++ (shortestDigits .up steps).positional

/-- The exponents of a leading digit between which interchange text has no exponent. -/
def plainRange (exponent : Int) : Bool := -5 ≤ exponent && exponent ≤ 15

/-- A number as one digit, more digits after a point if there are any, and a signed exponent. -/
def Digits.scientific (digits : Digits) : String :=
  let exponent := digits.magnitude - 1
  let exponentText :=
    if exponent < 0 then "e-" ++ natText exponent.natAbs else "e+" ++ natText exponent.natAbs
  match digitChars digits.coefficient with
  | [] => exponentText
  | [lead] => String.ofList [lead] ++ exponentText
  | lead :: rest => String.ofList (lead :: '.' :: rest) ++ exponentText

/-- The interchange text of a finite decimal; the others have none. -/
def toInterchange? : Decimal → Option String
  | .nan => none
  | .infinite _ => none
  | .finite negative steps _ =>
    if steps = 0 then
      some (signText negative ++ "0.0")
    else
      let digits := shortestDigits .toEven steps
      if plainRange (digits.magnitude - 1) then
        let fraction := if 0 ≤ digits.exponent then ".0" else ""
        some (signText negative ++ digits.positional ++ fraction)
      else
        some (signText negative ++ digits.scientific)

/-! ### Reading -/

/-- The exponent that ends a number: `e` or `E`, an optional sign and digits, or nothing. -/
def readExponent? : List Char → Option Int
  | [] => some 0
  | char :: rest =>
    if char = 'e' ∨ char = 'E' then
      let (negative, digits) := takeSign rest
      if isNumeral digits then
        some (if negative then -(readNat digits : Int) else readNat digits)
      else none
    else none

/-- The digits that stand after a point, and what follows them. -/
def takeFraction : List Char → List Char × List Char
  | '.' :: rest => (rest.takeWhile Char.isDigit, rest.dropWhile Char.isDigit)
  | chars => ([], chars)

/-- A number without its sign: digits, a point and digits, of which one side may be missing, and
an exponent. -/
def Digits.ofChars? (chars : List Char) : Option Digits :=
  let whole := chars.takeWhile Char.isDigit
  let (fraction, rest) := takeFraction (chars.dropWhile Char.isDigit)
  if whole = [] ∧ fraction = [] then none
  else
    (readExponent? rest).map fun exponent =>
      ⟨readNat (whole ++ fraction), exponent - fraction.length⟩

/-- The decimal that a text denotes, rounded to the nearest one. -/
def ofText? (text : String) : Option Decimal :=
  let (negative, chars) := takeSign text.toList
  let name := String.ofList (chars.map Char.toLower)
  if name = "inf" ∨ name = "infinity" then some (.infinite negative)
  else if name = "nan" then some .nan
  else (Digits.ofChars? chars).map (·.toDecimal negative)

end LiveBinding.Decimal
