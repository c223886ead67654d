import LiveBinding.Operation.Numeric

/-!
# Comparison

A number and a number, or a number and a text, compare by numeric reading. Against an integer a
decimal counts by its integer part: it equals an integer only if it has no fractional part, and
its order is that of the integer part. Two texts and two lists compare by the generic rule:
lists by their items' texts with commas between, texts as decimals if both are finite ones, else
character by character.
-/

namespace LiveBinding

namespace Number

/-- Whether two numbers are equal. -/
def equal : Number → Number → Bool
  | .int left, .int right => left == right
  | .int left, .decimal right => right.isIntegral && right.truncate == left
  | .decimal left, .int right => left.isIntegral && left.truncate == right
  | .decimal left, .decimal right => left.denotesSame right

/-- The order of two numbers. -/
def order? : Number → Number → Option Ordering
  | .int left, .int right => some (compare left right)
  | .int left, .decimal right => some (compare left right.truncate)
  | .decimal left, .int right => some (compare left.truncate right)
  | .decimal left, .decimal right => left.compare? right

end Number

namespace Value

/-- The text by which a value takes part in the generic comparison. -/
def scalarText? : Value → Option String
  | .string text => some text
  | .number value => some value.toText
  | .bool value => some (if value then "true" else "false")
  | _ => none

/-- Compare two texts as decimals if both denote finite ones, else character by character. -/
def compareTexts (left right : String) : Option Ordering :=
  match Decimal.finiteOfText? left, Decimal.finiteOfText? right with
  | some left, some right => left.compare? right
  | _, _ => some (compare left right)

/-- The generic comparison. Nothing and objects compare with nothing, and a list only with a
list. -/
def genericOrder? (left right : Value) : Option Ordering :=
  match left, right with
  | .array left, .array right =>
    some (compare (Text.join "," (left.map toText)) (Text.join "," (right.map toText)))
  | left, right =>
    match left.scalarText?, right.scalarText? with
    | some left, some right => compareTexts left right
    | _, _ => none

/-- How a pair of values is compared. -/
inductive Pairing where
  | numeric (left right : Option Number)
  | generic
  | other

/-- Numbers compare with numbers and texts by their readings, texts with texts and lists with
lists by the generic rule. -/
def pairing : Value → Value → Pairing
  | .number left, .number right => .numeric (some left) (some right)
  | .number left, .string right => .numeric (some left) (Number.ofText? right)
  | .string left, .number right => .numeric (Number.ofText? left) (some right)
  | .string _, .string _ => .generic
  | .array _, .array _ => .generic
  | _, _ => .other

/-- Equality of values. A number equals no text that denotes none. -/
def equal (left right : Value) : Bool :=
  match pairing left right with
  | .numeric (some left) (some right) => left.equal right
  | .numeric _ _ => false
  | .generic => genericOrder? left right == some .eq
  | .other =>
    match left, right with
    | .null, .null => true
    | .bool left, .bool right => left == right
    | .object _, .object _ => left.agrees right
    | _, _ => false

/-- The order of values, if they have one. -/
def order? (left right : Value) : Option Ordering :=
  match pairing left right with
  | .numeric (some left) (some right) => left.order? right
  | .numeric _ _ => none
  | .generic => genericOrder? left right
  | .other => none

end Value

/-- The relations that can be asked of two values. -/
inductive Relation where
  | eq
  | gt
  | gte
  | lt
  | lte
  deriving DecidableEq, Repr

namespace Relation

/-- Whether two values stand in a relation. Values without an order stand only in equality. -/
def holds (relation : Relation) (left right : Value) : Bool :=
  match relation with
  | .eq => left.equal right
  | .gt => left.order? right == some .gt
  | .gte => left.order? right == some .gt || left.order? right == some .eq
  | .lt => left.order? right == some .lt
  | .lte => left.order? right == some .lt || left.order? right == some .eq

/-- The relation of the first two parameters; null if one of them is missing or null. -/
def apply (relation : Relation) : List Value → Value
  | left :: right :: _ =>
    if left.isNull || right.isNull then .null else .bool (relation.holds left right)
  | _ => .null

end Relation

/-- An order as a number. -/
def orderValue : Option Ordering → Value
  | some .lt => .int (-1)
  | some .eq => .int 0
  | some .gt => .int 1
  | none => .null

end LiveBinding
