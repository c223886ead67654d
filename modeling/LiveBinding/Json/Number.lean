import LiveBinding.Json.Basic
import LiveBinding.Decimal.Text

/-!
# Numbers in JSON text

An integer that fits in 64 bits, or in 64 bits without a sign, is kept as it is. Any other number
is read as a significand of at most 64 bits and a power of ten: digits that would not fit count
as zeros in front of the point and are dropped behind it. The significand is rounded to a decimal
and then multiplied or divided once by a power of ten, so the last digit of the result is not
always the nearest one. A number beyond the largest decimal is refused.
-/

namespace LiveBinding.Json

/-- The first significand that does not fit in 64 bits. -/
def significandLimit : Nat := Nat.pow 2 64

/-- The largest power of ten that is used in one step. -/
def largestPower : Nat := 308

/-- A power of ten as a decimal. -/
def powerOfTen (exponent : Nat) : Decimal := Decimal.Digits.toDecimal ⟨1, exponent⟩ false

/-- Divide by a power of ten, by the largest usable power as often as it takes. -/
def scaleDown (value : Decimal) (exponent : Nat) : Decimal :=
  if exponent ≤ largestPower then value.div (powerOfTen exponent)
  else if value = Decimal.zero false then value
  else scaleDown (value.div (powerOfTen largestPower)) (exponent - largestPower)
termination_by exponent
decreasing_by simp only [largestPower] at *; omega

/-- Multiply by a power of ten, if the result is finite. -/
def scaleUp? (value : Decimal) (exponent : Nat) : Option Decimal :=
  if exponent ≤ largestPower then
    let scaled := value.mul (powerOfTen exponent)
    if scaled.isFinite then some scaled else none
  else if value = Decimal.zero false then some value
  else none

/-- The decimal of a sign, a significand and a power of ten. -/
def scaled? (negative : Bool) (significand : Nat) (exponent : Int) : Option Decimal :=
  let value := Decimal.ofInt significand
  let magnitude? :=
    if 0 ≤ exponent then scaleUp? value exponent.toNat
    else some (scaleDown value (-exponent).toNat)
  magnitude?.map fun magnitude => if negative then magnitude.neg else magnitude

/-- Take digits into a significand as long as it fits, with the number of digits taken and the
digits that are left. -/
def takeDigits (significand count : Nat) : List Char → Nat × Nat × List Char
  | [] => (significand, count, [])
  | char :: rest =>
    let extended := 10 * significand + Text.digitValue char
    if extended < significandLimit then takeDigits extended (count + 1) rest
    else (significand, count, char :: rest)

/-- The exponent at the end of a number and what follows it. -/
def takeExponent? : List Char → Option (Int × List Char)
  | char :: rest =>
    if char = 'e' ∨ char = 'E' then
      let (negative, digits) := Text.takeSign rest
      let numeral := digits.takeWhile Char.isDigit
      if numeral = [] then none
      else
        let size := Text.readNat numeral
        some (if negative then -(size : Int) else size, digits.dropWhile Char.isDigit)
    else some (0, char :: rest)
  | [] => some (0, [])

/-- The fraction of a number and what follows it. A point needs digits behind it. -/
def takeFraction? : List Char → Option (List Char × List Char)
  | '.' :: rest =>
    let fraction := rest.takeWhile Char.isDigit
    if fraction = [] then none else some (fraction, rest.dropWhile Char.isDigit)
  | chars => some ([], chars)

/-- The number without its sign that starts here and what follows it. A zero is not followed by
more digits. -/
def takeMagnitude? (negative : Bool) (chars : List Char) : Option (Number × List Char) :=
  let whole := chars.takeWhile Char.isDigit
  let rest := chars.dropWhile Char.isDigit
  if whole = [] ∨ (whole.head? = some '0' ∧ whole ≠ ['0']) then none
  else do
    let (fraction, afterFraction) ← takeFraction? rest
    let (exponent, after) ← takeExponent? afterFraction
    let (leading, _, dropped) := takeDigits 0 0 whole
    if fraction = [] ∧ after.length = rest.length ∧ dropped = [] then
      let value : Int := if negative then -(leading : Int) else leading
      if negative ∧ (leading = 0 ∨ value < Int64.minValue.toInt) then
        some (.decimal (Decimal.ofInt leading).neg, after)
      else some (.integer value, after)
    else
      let (significand, places, _) := takeDigits leading 0 fraction
      let value ← scaled? negative significand (exponent + dropped.length - places)
      some (.decimal value, after)

/-- The number that starts here and what follows it. -/
def takeNumber? : List Char → Option (Number × List Char)
  | '-' :: rest => takeMagnitude? true rest
  | chars => takeMagnitude? false chars

end LiveBinding.Json
