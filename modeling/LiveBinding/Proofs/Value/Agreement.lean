import LiveBinding.Proofs.Operation.Finiteness

/-!
# Agreement of values

What holds of a value if it holds of all its items, or of what its fields hold, holds of every
value.  In this way agreement is seen to be symmetric, and to hold of a value and itself unless
there is something in it that is not a number.
-/

namespace LiveBinding

/-- To turn an order round leaves equality as it is. -/
theorem map_swap_beq_eq (order : Option Ordering) :
    (order.map Ordering.swap == some .eq) = (order == some .eq) := by
  obtain _ | _ | _ | _ := order <;> rfl

namespace Decimal

/-- The order of two decimals is turned round with its sides. -/
theorem compare?_swap (left right : Decimal) :
    right.compare? left = (left.compare? right).map Ordering.swap := by
  cases left with
  | nan => cases right <;> rfl
  | infinite leftNegative =>
      cases right with
      | nan => rfl
      | infinite rightNegative => cases leftNegative <;> cases rightNegative <;> rfl
      | finite => cases leftNegative <;> rfl
  | finite leftNegative leftSteps leftOnGrid =>
      cases right with
      | nan => rfl
      | infinite rightNegative => cases rightNegative <;> rfl
      | finite => exact congrArg some Std.OrientedOrd.eq_swap

theorem compare?_self {value : Decimal} (isNumber : value ≠ .nan) :
    value.compare? value = some .eq := by
  cases value with
  | nan => contradiction
  | infinite negative => exact congrArg some Std.ReflCmp.compare_self
  | finite negative steps onGrid => exact congrArg some Std.ReflCmp.compare_self

theorem denotesSame_comm (left right : Decimal) :
    left.denotesSame right = right.denotesSame left := by
  rw [denotesSame, denotesSame, compare?_swap left right, map_swap_beq_eq]

end Decimal

theorem Number.agrees_comm (left right : Number) : left.agrees right = right.agrees left := by
  cases left with
  | int =>
      cases right with
      | int => exact Bool.beq_comm
      | decimal => rfl
  | decimal =>
      cases right with
      | int => rfl
      | decimal => exact Decimal.denotesSame_comm _ _

namespace Value

/-! ### Induction over the parts of a value -/

/-- What holds of a value if it holds of its parts holds of every value. -/
@[elab_as_elim]
theorem induction {motive : Value → Prop} (null : motive .null)
    (bool : ∀ value, motive (.bool value)) (number : ∀ value, motive (.number value))
    (string : ∀ text, motive (.string text))
    (array : ∀ items, (∀ item ∈ items, motive item) → motive (.array items))
    (object : ∀ fields, (∀ field ∈ fields, motive field.2) → motive (.object fields))
    (value : Value) : motive value := by
  cases value with
  | null => exact null
  | bool value => exact bool value
  | number value => exact number value
  | string text => exact string text
  | array items =>
      refine array items fun item member => ?_
      have := List.sizeOf_lt_of_mem member
      exact induction null bool number string array object item
  | object fields =>
      refine object fields fun field member => ?_
      have := List.sizeOf_lt_of_mem member
      exact induction null bool number string array object field.2
termination_by sizeOf value
decreasing_by
  · rw [Value.array.sizeOf_spec]
    omega
  · obtain ⟨name, item⟩ := field
    rw [Prod.mk.sizeOf_spec] at this
    rw [Value.object.sizeOf_spec]
    change sizeOf item < _
    omega

/-! ### Agreement -/

variable {numbers : Number → Number → Bool}

theorem compareItems_comm {items : List Value}
    (each : ∀ item ∈ items, ∀ other,
      item.compareWith numbers other = other.compareWith numbers item) (others : List Value) :
    compareWith.compareItems numbers items others =
      compareWith.compareItems numbers others items := by
  induction items generalizing others with
  | nil => cases others <;> rfl
  | cons item items ih =>
      obtain ⟨first, later⟩ := List.forall_mem_cons.mp each
      cases others with
      | nil => rfl
      | cons other others =>
          rw [compareWith.compareItems, compareWith.compareItems, first other, ih later others]

theorem compareFields_comm {fields : List (String × Value)}
    (each : ∀ field ∈ fields, ∀ other,
      field.2.compareWith numbers other = other.compareWith numbers field.2)
    (others : List (String × Value)) :
    compareWith.compareFields numbers fields others =
      compareWith.compareFields numbers others fields := by
  induction fields generalizing others with
  | nil => cases others <;> rfl
  | cons field fields ih =>
      obtain ⟨first, later⟩ := List.forall_mem_cons.mp each
      cases others with
      | nil => rfl
      | cons other others =>
          rw [compareWith.compareFields, compareWith.compareFields, first other.2, ih later others,
            Bool.beq_comm]

/-- A comparison of values is symmetric if that of numbers is. -/
theorem compareWith_comm (symmetric : ∀ left right, numbers left right = numbers right left)
    (left right : Value) : left.compareWith numbers right = right.compareWith numbers left := by
  induction left using induction generalizing right with
  | null => cases right <;> rfl
  | bool value =>
      cases right with
      | bool => exact Bool.beq_comm
      | _ => rfl
  | number value =>
      cases right with
      | number => exact symmetric _ _
      | _ => rfl
  | string text =>
      cases right with
      | string => exact Bool.beq_comm
      | _ => rfl
  | array items ih =>
      cases right with
      | array others => exact compareItems_comm ih others
      | _ => rfl
  | object fields ih =>
      cases right with
      | object others => exact compareFields_comm ih others
      | _ => rfl

theorem agrees_comm (left right : Value) : left.agrees right = right.agrees left :=
  compareWith_comm Number.agrees_comm left right

theorem compareItems_self {items : List Value}
    (each : ∀ item ∈ items, item.compareWith numbers item = true) :
    compareWith.compareItems numbers items items = true := by
  induction items with
  | nil => rfl
  | cons item items ih =>
      obtain ⟨first, later⟩ := List.forall_mem_cons.mp each
      rw [compareWith.compareItems, first, ih later, Bool.and_self]

theorem compareFields_self {fields : List (String × Value)}
    (each : ∀ field ∈ fields, field.2.compareWith numbers field.2 = true) :
    compareWith.compareFields numbers fields fields = true := by
  induction fields with
  | nil => rfl
  | cons field fields ih =>
      obtain ⟨first, later⟩ := List.forall_mem_cons.mp each
      rw [compareWith.compareFields, first, ih later, beq_self_eq_true, Bool.and_self,
        Bool.and_self]

/-- A value agrees with itself if every decimal in it is a number. -/
theorem agrees_self {value : Value} (areNumbers : value.CarriesOnly (· ≠ .nan)) :
    value.agrees value = true := by
  induction value using induction with
  | null => rfl
  | bool value => exact beq_self_eq_true value
  | number value =>
      cases value with
      | int value => exact beq_self_eq_true value
      | decimal value =>
          have isNumber := (carriesOnly_decimal value).mp areNumbers
          exact beq_iff_eq.mpr (Decimal.compare?_self isNumber)
  | string text => exact beq_self_eq_true text
  | array items ih =>
      have each := (carriesOnly_array items).mp areNumbers
      exact compareItems_self fun item member => ih item member (each item member)
  | object fields ih =>
      have each := (carriesOnly_object fields).mp areNumbers
      exact compareFields_self fun field member => ih field member (each field member)

end Value

end LiveBinding
