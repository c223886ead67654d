import LiveBinding.Decimal.Arithmetic
import LiveBinding.Fields

/-!
# Values

A value is what a context holds and an expression denotes: nothing, a truth value, a number, a
text, a list of values, or an object with named fields. Integers and decimals are different
numbers even when they are equal in size, because operations treat them differently.

Two equalities are kept apart. Identity is equality of terms. `Value.agrees` compares decimals as
numbers: the two zeros agree, and what is not a number agrees with nothing, not even itself.
-/

namespace LiveBinding

/-- A number, kept as an integer of 64 bits or as a decimal. -/
inductive Number where
  | int (value : Int64)
  | decimal (value : Decimal)
  deriving DecidableEq

namespace Number

/-- The number as a decimal, rounded when the integer has more than 53 binary digits. -/
def toDecimal : Number → Decimal
  | .int value => Decimal.ofInt value.toInt
  | .decimal value => value

/-- Whether the number is kept as an integer. -/
def isInt : Number → Bool
  | .int _ => true
  | .decimal _ => false

/-- Equality of numbers of one kind; an integer agrees with no decimal. -/
def agrees : Number → Number → Bool
  | .int left, .int right => left == right
  | .decimal left, .decimal right => left.denotesSame right
  | _, _ => false

end Number

/-- Values. The fields of an object are in ascending order of their names. -/
inductive Value where
  | null
  | bool (value : Bool)
  | number (value : Number)
  | string (text : String)
  | array (items : List Value)
  | object (fields : List (String × Value))
  deriving Inhabited

namespace Value

/-- An integer as a value. -/
abbrev int (value : Int64) : Value := .number (.int value)

/-- A decimal as a value. -/
abbrev decimal (value : Decimal) : Value := .number (.decimal value)

/-- The name of a value's kind. -/
def typeName : Value → String
  | .null => "Null"
  | .bool _ => "Bool"
  | .number (.int _) => "Int"
  | .number (.decimal _) => "Decimal"
  | .string _ => "String"
  | .array _ => "Array"
  | .object _ => "Object"

/-- Whether the value is nothing. -/
def isNull : Value → Bool
  | .null => true
  | _ => false

/-- The truth value, of a value that is one. -/
def bool? : Value → Option Bool
  | .bool value => some value
  | _ => none

/-- The text, of a value that is one. -/
def string? : Value → Option String
  | .string text => some text
  | _ => none

/-- The items, of a list. -/
def array? : Value → Option (List Value)
  | .array items => some items
  | _ => none

/-- The fields, of an object. -/
def object? : Value → Option (Fields Value)
  | .object fields => some fields
  | _ => none

/-! ### Equality -/

/-- Compare two values with a given comparison of numbers. -/
def compareWith (numbers : Number → Number → Bool) : Value → Value → Bool
  | .null, .null => true
  | .bool left, .bool right => left == right
  | .number left, .number right => numbers left right
  | .string left, .string right => left == right
  | .array left, .array right => compareItems left right
  | .object left, .object right => compareFields left right
  | _, _ => false
where
  compareItems : List Value → List Value → Bool
    | [], [] => true
    | left :: lefts, right :: rights =>
      left.compareWith numbers right && compareItems lefts rights
    | _, _ => false
  compareFields : List (String × Value) → List (String × Value) → Bool
    | [], [] => true
    | (leftName, left) :: lefts, (rightName, right) :: rights =>
      leftName == rightName && left.compareWith numbers right && compareFields lefts rights
    | _, _ => false

/-- Equality in which decimals are compared as numbers. -/
def agrees : Value → Value → Bool := compareWith Number.agrees

/-- Identity as a test. -/
def identical : Value → Value → Bool := compareWith (· == ·)

mutual

theorem eq_of_identical : (left right : Value) → identical left right = true → left = right
  | .null, right, same => by cases right <;> simp_all [identical, compareWith]
  | .bool _, right, same => by cases right <;> simp_all [identical, compareWith]
  | .number _, right, same => by cases right <;> simp_all [identical, compareWith]
  | .string _, right, same => by cases right <;> simp_all [identical, compareWith]
  | .array items, right, same => by
    cases right with
    | array others => exact congrArg Value.array (eq_of_identical_items items others same)
    | _ => simp [identical, compareWith] at same
  | .object fields, right, same => by
    cases right with
    | object others => exact congrArg Value.object (eq_of_identical_fields fields others same)
    | _ => simp [identical, compareWith] at same

theorem eq_of_identical_items : (left right : List Value) →
    compareWith.compareItems (· == ·) left right = true → left = right
  | [], right, same => by cases right <;> simp_all [compareWith.compareItems]
  | item :: items, right, same => by
    cases right with
    | nil => simp [compareWith.compareItems] at same
    | cons other others =>
      rw [compareWith.compareItems, Bool.and_eq_true] at same
      rw [eq_of_identical item other same.1, eq_of_identical_items items others same.2]

theorem eq_of_identical_fields : (left right : List (String × Value)) →
    compareWith.compareFields (· == ·) left right = true → left = right
  | [], right, same => by cases right <;> simp_all [compareWith.compareFields]
  | (name, item) :: items, right, same => by
    cases right with
    | nil => simp [compareWith.compareFields] at same
    | cons head others =>
      obtain ⟨otherName, other⟩ := head
      rw [compareWith.compareFields, Bool.and_eq_true, Bool.and_eq_true, beq_iff_eq] at same
      rw [same.1.1, eq_of_identical item other same.1.2,
        eq_of_identical_fields items others same.2]

end

mutual

theorem identical_self : (value : Value) → identical value value = true
  | .null => rfl
  | .bool _ => by simp [identical, compareWith]
  | .number _ => by simp [identical, compareWith]
  | .string _ => by simp [identical, compareWith]
  | .array items => identical_self_items items
  | .object fields => identical_self_fields fields

theorem identical_self_items : (items : List Value) →
    compareWith.compareItems (· == ·) items items = true
  | [] => rfl
  | item :: items => by
    rw [compareWith.compareItems, Bool.and_eq_true]
    exact ⟨identical_self item, identical_self_items items⟩

theorem identical_self_fields : (fields : List (String × Value)) →
    compareWith.compareFields (· == ·) fields fields = true
  | [] => rfl
  | (name, item) :: fields => by
    rw [compareWith.compareFields, Bool.and_eq_true, Bool.and_eq_true]
    exact ⟨⟨beq_self_eq_true name, identical_self item⟩, identical_self_fields fields⟩

end

@[simp] theorem identical_eq_true {left right : Value} :
    identical left right = true ↔ left = right :=
  ⟨eq_of_identical left right, fun same => same ▸ identical_self left⟩

instance : DecidableEq Value := fun _ _ => decidable_of_iff _ identical_eq_true

end Value

end LiveBinding
