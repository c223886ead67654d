import LiveBinding.Value.Text

/-!
# Numeric readings and arithmetic

Numbers and texts that read as numbers take part in arithmetic; nothing else does. Integers stay
integers as long as the exact result fits in 64 bits. A decimal operand, or a result that does not
fit, makes the operation one on decimals. There is no result where a divisor is zero or a decimal
result is not finite.
-/

namespace LiveBinding

/-- The finite decimal that a text denotes. -/
def Decimal.finiteOfText? (text : String) : Option Decimal :=
  (Decimal.ofText? text).filter Decimal.isFinite

/-- The number that a text denotes: an integer if it is one in range, else a finite decimal. -/
def Number.ofText? (text : String) : Option Number :=
  match Text.readInt64? text with
  | some value => some (.int value)
  | none => (Decimal.finiteOfText? text).map .decimal

/-- The number that a value is or denotes. -/
def Value.numeric? : Value → Option Number
  | .number value => some value
  | .string text => Number.ofText? text
  | _ => none

/-- The four operations of arithmetic. -/
inductive Arithmetic where
  | add
  | sub
  | mul
  | div
  deriving DecidableEq, Repr

namespace Arithmetic

/-- The operation on integers of any size; a quotient is cut toward zero. -/
def onInt : Arithmetic → Int → Int → Int
  | .add, left, right => left + right
  | .sub, left, right => left - right
  | .mul, left, right => left * right
  | .div, left, right => left.tdiv right

/-- The operation on decimals. -/
def onDecimal : Arithmetic → Decimal → Decimal → Decimal
  | .add => Decimal.add
  | .sub => Decimal.sub
  | .mul => Decimal.mul
  | .div => Decimal.div

/-- Whether the right operand leaves the operation without a result. -/
def dividesByZero (operation : Arithmetic) (right : Decimal) : Bool :=
  operation == .div && right.denotesSame (.zero false)

/-- The operation on decimals, where it has a finite result. -/
def combineDecimals? (operation : Arithmetic) (left right : Decimal) : Option Number :=
  if operation.dividesByZero right then none
  else
    let result := operation.onDecimal left right
    if result.isFinite then some (.decimal result) else none

/-- The operation on integers: the exact result if it fits, else the decimal one. -/
def combineInts? (operation : Arithmetic) (left right : Int64) : Option Number :=
  if operation = .div ∧ right = 0 then none
  else
    let exact := operation.onInt left.toInt right.toInt
    if Int64.minValue.toInt ≤ exact ∧ exact ≤ Int64.maxValue.toInt then
      some (.int (Int64.ofInt exact))
    else
      operation.combineDecimals? (Decimal.ofInt left.toInt) (Decimal.ofInt right.toInt)

/-- The operation on numbers. Two integers give an integer if they can. -/
def combine? (operation : Arithmetic) : Number → Number → Option Number
  | .int left, .int right => operation.combineInts? left right
  | left, right => operation.combineDecimals? left.toDecimal right.toDecimal

/-- The operation on values, by their numeric readings. -/
def onValues (operation : Arithmetic) (left right : Value) : Value :=
  match left.numeric?, right.numeric? with
  | some left, some right => ((operation.combine? left right).map Value.number).getD .null
  | _, _ => .null

/-- Take more operands in, from the left on. -/
def foldFrom (operation : Arithmetic) (total : Number) : List Value → Option Number
  | [] => some total
  | operand :: rest =>
    match operand.numeric? with
    | none => none
    | some number =>
      match operation.combine? total number with
      | none => none
      | some total => operation.foldFrom total rest

/-- The operation over all operands, from the left. The first one counts as its numeric reading;
without operands there is no result. -/
def fold (operation : Arithmetic) : List Value → Value
  | [] => .null
  | first :: rest =>
    match first.numeric? with
    | none => .null
    | some start => ((operation.foldFrom start rest).map Value.number).getD .null

end Arithmetic

/-! ### Conversions -/

namespace Value

/-- The integer part of a numeric value. -/
def toInt (value : Value) : Value :=
  match value.numeric? with
  | some (.int value) => .int value
  | some (.decimal value) => .int value.truncate
  | none => .null

/-- A numeric value as a decimal. -/
def toDecimal (value : Value) : Value :=
  match value.numeric? with
  | some reading => .decimal reading.toDecimal
  | none => .null

/-- A numeric value as text. Text that denotes a number stays as it is. -/
def toNumericText : Value → Value
  | .number value => .string value.toText
  | .string text => if (Number.ofText? text).isSome then .string text else .null
  | _ => .null

end Value

end LiveBinding
