import LiveBinding.Operation.Comparison
import LiveBinding.Text.Case

/-!
# Built-in operations

The operations that every registry has. An operation takes any number of parameters and never
fails: where a parameter is missing or of the wrong kind, the result is null or false. Positions
and lengths of texts count characters.
-/

namespace LiveBinding

/-- The names of the built-in operations. -/
inductive Builtin where
  | sum
  | subtract
  | multiply
  | divide
  | eq
  | gt
  | gte
  | lt
  | lte
  | comparison
  | not
  | and
  | or
  | condition
  | concat
  | capitalize
  | lowercase
  | uppercase
  | substr
  | contains
  | insert
  | remove
  | removeIndex
  | union
  | int
  | isEmpty
  | isNull
  | length
  deriving DecidableEq, Repr

namespace Builtin

/-- All built-in operations. -/
def all : List Builtin :=
  [.sum, .subtract, .multiply, .divide, .eq, .gt, .gte, .lt, .lte, .comparison, .not, .and, .or,
    .condition, .concat, .capitalize, .lowercase, .uppercase, .substr, .contains, .insert,
    .remove, .removeIndex, .union, .int, .isEmpty, .isNull, .length]

/-- The name under which an expression calls an operation. -/
def name : Builtin → String
  | .sum => "sum"
  | .subtract => "subtract"
  | .multiply => "multiply"
  | .divide => "divide"
  | .eq => "eq"
  | .gt => "gt"
  | .gte => "gte"
  | .lt => "lt"
  | .lte => "lte"
  | .comparison => "comparison"
  | .not => "not"
  | .and => "and"
  | .or => "or"
  | .condition => "condition"
  | .concat => "concat"
  | .capitalize => "capitalize"
  | .lowercase => "lowercase"
  | .uppercase => "uppercase"
  | .substr => "substr"
  | .contains => "contains"
  | .insert => "insert"
  | .remove => "remove"
  | .removeIndex => "removeIndex"
  | .union => "union"
  | .int => "int"
  | .isEmpty => "isEmpty"
  | .isNull => "isNull"
  | .length => "length"

/-- The operation of a name. -/
def ofName? (name : String) : Option Builtin := all.find? (·.name == name)

/-! ### Truth values -/

/-- All parameters as truth values. -/
def bools? : List Value → Option (List Bool)
  | [] => some []
  | .bool value :: rest => (bools? rest).map (value :: ·)
  | _ :: _ => none

/-- A truth value found from truth values. -/
def fromBools (combine : List Bool → Bool) (parameters : List Value) : Value :=
  match bools? parameters with
  | some values => .bool (combine values)
  | none => .null

/-- The opposite of the first parameter. -/
def negation : List Value → Value
  | .bool value :: _ => .bool (!value)
  | _ => .null

/-- The second parameter where the first is true, the third where it is false. -/
def choice : List Value → Value
  | .bool true :: chosen :: _ => chosen
  | .bool false :: _ :: chosen :: _ => chosen
  | _ => .null

/-! ### Texts -/

/-- The text that a parameter adds to a concatenation. -/
def concatText? : Value → Option String
  | .string text => some text
  | .number value => some value.toText
  | .bool value => some (if value then "true" else "false")
  | _ => none

/-- All parameters as one text. -/
def concatAll : List Value → Option String
  | [] => some ""
  | parameter :: rest => do
    let text ← concatText? parameter
    let others ← concatAll rest
    some (text ++ others)

/-- A text made from the first parameter, if it is one. -/
def mapText (change : String → String) : List Value → Value
  | .string text :: _ => .string (change text)
  | _ => .null

/-- A count of characters: an integer, where a negative one counts as zero. -/
def count? (value : Value) : Option Nat :=
  match value.numeric? with
  | some (.int value) => some value.toInt.toNat
  | _ => none

/-- A part of a text, from a position on, cut to a length if one is given. -/
def part : List Value → Value
  | .string text :: start :: rest =>
    match count? start, rest.head?.map count? with
    | some start, none => .string (String.ofList (text.toList.drop start))
    | some start, some (some limit) =>
      .string (String.ofList ((text.toList.drop start).take limit))
    | _, _ => .null
  | _ => .null

/-! ### Lists -/

/-- A position: an integer that is not negative. -/
def position? (value : Value) : Option Nat :=
  match value.numeric? with
  | some (.int value) => if 0 ≤ value then some value.toInt.toNat else none
  | _ => none

/-- Whether the second parameter is an item of the first. -/
def membership : List Value → Value
  | .array items :: item :: _ => .bool (items.any (·.agrees item))
  | _ => .null

/-- The first parameter with the second at its end, or before a position. -/
def insertion : List Value → Value
  | [.array items, item] => .array (items ++ [item])
  | .array items :: item :: place :: _ =>
    match position? place with
    | some position =>
      if position ≤ items.length then
        .array (items.take position ++ item :: items.drop position)
      else .null
    | none => .null
  | _ => .null

/-- The first parameter without the items that agree with the second. -/
def removal : List Value → Value
  | .array items :: item :: _ => .array (items.filter (!·.agrees item))
  | _ => .null

/-- The first parameter without the item at a position. -/
def removalAt : List Value → Value
  | .array items :: place :: _ =>
    match position? place with
    | some position => if position < items.length then .array (items.eraseIdx position) else .null
    | none => .null
  | _ => .null

/-- The items of all parameters. -/
def concatLists? : List Value → Option (List Value)
  | [] => some []
  | .array items :: rest => (concatLists? rest).map (items ++ ·)
  | _ :: _ => none

/-- All parameters as one list. -/
def concatLists (parameters : List Value) : Value :=
  match concatLists? parameters with
  | some items => .array items
  | none => .null

/-! ### Sizes -/

/-- The number of characters, items or fields of the first parameter. -/
def size? : List Value → Option Nat
  | .string text :: _ => some text.length
  | .array items :: _ => some items.length
  | .object fields :: _ => some fields.length
  | _ => none

/-- Apply an operation to its parameters. -/
def apply : Builtin → List Value → Value
  | .sum => Arithmetic.add.fold
  | .subtract => Arithmetic.sub.fold
  | .multiply => Arithmetic.mul.fold
  | .divide => Arithmetic.div.fold
  | .eq => Relation.eq.apply
  | .gt => Relation.gt.apply
  | .gte => Relation.gte.apply
  | .lt => Relation.lt.apply
  | .lte => Relation.lte.apply
  | .comparison => fun
    | left :: right :: _ => orderValue (left.genericOrder? right)
    | _ => .null
  | .not => negation
  | .and => fromBools (·.all id)
  | .or => fromBools (·.any id)
  | .condition => choice
  | .concat => fun parameters => ((concatAll parameters).map Value.string).getD .null
  | .capitalize => mapText Text.capitalize
  | .lowercase => mapText Text.toLower
  | .uppercase => mapText Text.toUpper
  | .substr => part
  | .contains => membership
  | .insert => insertion
  | .remove => removal
  | .removeIndex => removalAt
  | .union => concatLists
  | .int => fun parameters => (parameters.head?.map Value.toInt).getD .null
  | .isEmpty => fun parameters => .bool ((size? parameters).getD 0 == 0)
  | .isNull => fun parameters => .bool ((parameters.head?.map Value.isNull).getD true)
  | .length => fun parameters =>
    ((size? parameters).map fun size => Value.int (Int64.ofNat size)).getD .null

end Builtin

end LiveBinding
