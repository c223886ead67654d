import LiveBinding.Decimal.Basic

/-!
# Arithmetic and order of decimals

Each operation takes the exact result and rounds it once. Comparison is partial: nothing compares
with an undefined decimal, and the two zeros are equal.
-/

namespace LiveBinding.Decimal

/-- The decimal of opposite sign. -/
def neg : Decimal → Decimal
  | .finite negative steps onGrid => .finite (!negative) steps onGrid
  | .infinite negative => .infinite (!negative)
  | .nan => .nan

/-- The sum. Opposite numbers add to positive zero. -/
def add : Decimal → Decimal → Decimal
  | .nan, _ => .nan
  | _, .nan => .nan
  | .infinite left, .infinite right => if left = right then .infinite left else .nan
  | .infinite left, .finite .. => .infinite left
  | .finite .., .infinite right => .infinite right
  | .finite left leftSteps _, .finite right rightSteps _ =>
    let sum := signedSteps left leftSteps + signedSteps right rightSteps
    if sum = 0 then zero (left && right) else ofRatio (decide (sum < 0)) sum.natAbs 1

/-- The difference, which is the sum with the opposite number. -/
def sub (left right : Decimal) : Decimal := left.add right.neg

/-- The product, negative when just one factor is. -/
def mul : Decimal → Decimal → Decimal
  | .nan, _ => .nan
  | _, .nan => .nan
  | .infinite left, .infinite right => .infinite (left != right)
  | .infinite left, .finite right steps _ =>
    if steps = 0 then .nan else .infinite (left != right)
  | .finite left steps _, .infinite right =>
    if steps = 0 then .nan else .infinite (left != right)
  | .finite left leftSteps _, .finite right rightSteps _ =>
    ofRatio (left != right) (leftSteps * rightSteps) unit

/-- The quotient, negative when just one operand is. -/
def div : Decimal → Decimal → Decimal
  | .nan, _ => .nan
  | _, .nan => .nan
  | .infinite _, .infinite _ => .nan
  | .infinite left, .finite right _ _ => .infinite (left != right)
  | .finite left _ _, .infinite right => zero (left != right)
  | .finite left leftSteps _, .finite right rightSteps _ =>
    if rightSteps = 0 then
      if leftSteps = 0 then .nan else .infinite (left != right)
    else
      ofRatio (left != right) (leftSteps * unit) rightSteps

/-- The order of two decimals, if they have one. -/
def compare? : Decimal → Decimal → Option Ordering
  | .nan, _ => none
  | _, .nan => none
  | .infinite left, .infinite right => some (compare right.toNat left.toNat)
  | .infinite negative, .finite .. => some (if negative then .lt else .gt)
  | .finite .., .infinite negative => some (if negative then .gt else .lt)
  | .finite left leftSteps _, .finite right rightSteps _ =>
    some (compare (signedSteps left leftSteps) (signedSteps right rightSteps))

/-- Equality of the numbers denoted: the two zeros are equal, and what is not a number equals
nothing. -/
def denotesSame (left right : Decimal) : Bool :=
  left.compare? right == some .eq

/-- The integer part, toward zero, clamped to the signed 64-bit range; zero for what is not a
number. -/
def truncate : Decimal → Int64
  | .nan => 0
  | .infinite negative => if negative then Int64.minValue else Int64.maxValue
  | .finite negative steps _ =>
    let whole := signedSteps negative (steps / unit)
    if whole < Int64.minValue.toInt then Int64.minValue
    else if Int64.maxValue.toInt < whole then Int64.maxValue
    else Int64.ofInt whole

end LiveBinding.Decimal
