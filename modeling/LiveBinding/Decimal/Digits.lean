import LiveBinding.Decimal.Basic
import LiveBinding.Text.Numeral

/-!
# Decimal digits

Reading `coefficient * 10 ^ exponent` as a decimal, and finding the fewest digits that read back
as a given decimal. The search tests, for one digit, two digits and so on, the two neighbours of
the value on that grid of powers of ten; the first grid with a neighbour that reads back wins.
-/

namespace LiveBinding.Decimal

open Text (digitChars)

/-- The number `coefficient * 10 ^ exponent`. -/
structure Digits where
  coefficient : Nat
  exponent : Int
  deriving DecidableEq, Repr

namespace Digits

/-- The number of integer digits: the least power of ten above the value, for a coefficient that
is not zero. -/
def magnitude (digits : Digits) : Int :=
  digits.exponent + (digitChars digits.coefficient).length

/-- The value in steps, as a ratio. -/
def ratio (digits : Digits) : Nat × Nat :=
  if 0 ≤ digits.exponent then
    (digits.coefficient * Nat.pow 10 digits.exponent.toNat * unit, 1)
  else
    (digits.coefficient * unit, Nat.pow 10 (-digits.exponent).toNat)

/-- The nearest decimal. Values above `10 ^ 400` are infinite and values below `10 ^ (-400)` are
zero without their powers of ten being computed. -/
def toDecimal (digits : Digits) (negative : Bool) : Decimal :=
  if digits.coefficient = 0 then zero negative
  else if 400 < digits.magnitude then .infinite negative
  else if digits.magnitude < -400 then zero negative
  else ofRatio negative digits.ratio.1 digits.ratio.2

end Digits

/-- How to choose between two numbers of equally many digits that are equally near. -/
inductive TieRule where
  | up
  | toEven
  deriving DecidableEq, Repr

/-- The power of ten just above `numerator / denominator`, both positive: the `k` with
`10 ^ (k - 1) ≤ numerator / denominator < 10 ^ k`. -/
def magnitudeOfRatio (numerator denominator : Nat) : Int :=
  let guess : Int := (digitChars numerator).length - (digitChars denominator).length
  let reached :=
    if 0 ≤ guess then denominator * Nat.pow 10 guess.toNat ≤ numerator
    else denominator ≤ numerator * Nat.pow 10 (-guess).toNat
  if reached then guess + 1 else guess

/-- Whether a number reads back as the positive decimal of so many steps. -/
def readsBack (steps : Nat) (digits : Digits) : Bool :=
  match digits.toDecimal false with
  | .finite false found _ => found == steps
  | _ => false

/-- The neighbours of a magnitude among the multiples of a power of ten, the nearer first. -/
def neighbours (ties : TieRule) (steps : Nat) (exponent : Int) : List Digits :=
  let scaled := if 0 ≤ exponent then steps else steps * Nat.pow 10 (-exponent).toNat
  let divisor := if 0 ≤ exponent then unit * Nat.pow 10 exponent.toNat else unit
  let below := scaled / divisor
  let rest := 2 * (scaled % divisor)
  let nearerBelow :=
    rest < divisor ∨ (rest = divisor ∧ ties = .toEven ∧ below % 2 = 0)
  if nearerBelow then [⟨below, exponent⟩, ⟨below + 1, exponent⟩]
  else [⟨below + 1, exponent⟩, ⟨below, exponent⟩]

/-- A power of ten is written with the one digit it needs. -/
def dropCarry (count : Nat) (digits : Digits) : Digits :=
  if digits.coefficient = Nat.pow 10 count then ⟨1, digits.exponent + count⟩ else digits

/-- The first of `count` grids, from the coarsest on, with a neighbour that reads back. -/
def searchDigits (ties : TieRule) (steps : Nat) (magnitude : Int) : Nat → Nat → Option Digits
  | _, 0 => none
  | count, left + 1 =>
    let found := (neighbours ties steps (magnitude - count)).map (dropCarry count)
    match found.find? (readsBack steps) with
    | some digits => some digits
    | none => searchDigits ties steps magnitude (count + 1) left

/-- All digits of a magnitude: a step is `5 ^ 1074` in the last of 1074 decimal places. -/
def exactDigits (steps : Nat) : Digits :=
  ⟨steps * Nat.pow 5 1074, -1074⟩

/-- The fewest digits that read back as the positive decimal of so many steps, and of those the
nearest. Seventeen digits are enough for every decimal. -/
def shortestDigits (ties : TieRule) (steps : Nat) : Digits :=
  (searchDigits ties steps (magnitudeOfRatio steps unit) 1 17).getD (exactDigits steps)

end LiveBinding.Decimal
