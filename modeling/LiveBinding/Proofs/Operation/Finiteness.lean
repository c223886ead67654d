import LiveBinding.Operation.Registry

/-!
# Decimals in the results of operations

An operation either makes the decimals of its result or takes them over from its parameters.
Those that it makes are finite: arithmetic has no result where a decimal one is not finite, and no
text denotes an infinite decimal.  So whatever is true of all finite decimals, and of those in the
parameters, is true of those in the result.
-/

namespace LiveBinding

/-! ### Decimals in values -/

/-- The decimals in a value, at any depth. -/
def Value.decimals : Value → List Decimal
  | .number (.decimal value) => [value]
  | .array items => inItems items
  | .object fields => inFields fields
  | _ => []
where
  inItems : List Value → List Decimal
    | [] => []
    | item :: rest => item.decimals ++ inItems rest
  inFields : List (String × Value) → List Decimal
    | [] => []
    | (_, item) :: rest => item.decimals ++ inFields rest

/-- A value has only some decimals in it. -/
def Value.CarriesOnly (allowed : Decimal → Prop) (value : Value) : Prop :=
  ∀ decimal ∈ value.decimals, allowed decimal

namespace Value

variable {allowed : Decimal → Prop}

@[simp] theorem carriesOnly_null : null.CarriesOnly allowed := by simp [CarriesOnly, decimals]

@[simp] theorem carriesOnly_bool (value : Bool) : (bool value).CarriesOnly allowed := by
  simp [CarriesOnly, decimals]

@[simp] theorem carriesOnly_string (text : String) : (string text).CarriesOnly allowed := by
  simp [CarriesOnly, decimals]

@[simp] theorem carriesOnly_int (value : Int64) : (int value).CarriesOnly allowed := by
  simp [CarriesOnly, decimals]

@[simp] theorem carriesOnly_decimal (value : Decimal) :
    (decimal value).CarriesOnly allowed ↔ allowed value := by
  simp [CarriesOnly, decimals]

@[simp] theorem carriesOnly_array (items : List Value) :
    (array items).CarriesOnly allowed ↔ ∀ item ∈ items, item.CarriesOnly allowed := by
  simp only [CarriesOnly, decimals]
  induction items with
  | nil => simp [decimals.inItems]
  | cons item rest ih => simp [decimals.inItems, or_imp, forall_and, ih]

@[simp] theorem carriesOnly_object (fields : List (String × Value)) :
    (object fields).CarriesOnly allowed ↔ ∀ field ∈ fields, field.2.CarriesOnly allowed := by
  simp only [CarriesOnly, decimals]
  induction fields with
  | nil => simp [decimals.inFields]
  | cons field rest ih => simp [decimals.inFields, or_imp, forall_and, ih]

end Value

/-! ### Arithmetic -/

section

variable {allowed : Decimal → Prop} (finite : ∀ decimal, decimal.isFinite = true → allowed decimal)
include finite

/-- No text denotes an infinite decimal. -/
theorem Number.carriesOnly_of_ofText? {text : String} {number : Number}
    (denotes : Number.ofText? text = some number) :
    (Value.number number).CarriesOnly allowed := by
  rw [ofText?] at denotes
  split at denotes
  · cases denotes
    exact Value.carriesOnly_int _
  · rw [Decimal.finiteOfText?, Option.map_eq_some_iff] at denotes
    obtain ⟨decimal, kept, rfl⟩ := denotes
    rw [Option.filter_eq_some_iff] at kept
    exact (Value.carriesOnly_decimal decimal).mpr (finite decimal kept.2)

/-- A numeric reading is the number itself or denoted by a text. -/
theorem Value.carriesOnly_of_numeric? {value : Value} {number : Number}
    (carries : value.CarriesOnly allowed) (reading : value.numeric? = some number) :
    (Value.number number).CarriesOnly allowed := by
  cases value with
  | number value =>
      cases reading
      exact carries
  | string text => exact Number.carriesOnly_of_ofText? finite reading
  | _ => contradiction

namespace Arithmetic

theorem carriesOnly_of_combineDecimals? {operation : Arithmetic} {left right : Decimal}
    {number : Number} (result : operation.combineDecimals? left right = some number) :
    (Value.number number).CarriesOnly allowed := by
  simp only [combineDecimals?] at result
  split at result
  · contradiction
  · split at result
    · next isFinite =>
        cases result
        exact (Value.carriesOnly_decimal _).mpr (finite _ isFinite)
    · contradiction

/-- Whatever the operands are, a result is an integer or finite. -/
theorem carriesOnly_of_combine? {operation : Arithmetic} {left right number : Number}
    (result : operation.combine? left right = some number) :
    (Value.number number).CarriesOnly allowed := by
  unfold combine? at result
  split at result
  · simp only [combineInts?] at result
    split at result
    · contradiction
    · split at result
      · cases result
        exact Value.carriesOnly_int _
      · exact carriesOnly_of_combineDecimals? finite result
  · exact carriesOnly_of_combineDecimals? finite result

theorem carriesOnly_of_foldFrom {operation : Arithmetic} {total number : Number}
    {operands : List Value} (carries : (Value.number total).CarriesOnly allowed)
    (result : operation.foldFrom total operands = some number) :
    (Value.number number).CarriesOnly allowed := by
  induction operands generalizing total with
  | nil =>
      cases result
      exact carries
  | cons operand rest ih =>
      rw [foldFrom] at result
      split at result
      · contradiction
      · split at result
        · contradiction
        · next combined => exact ih (carriesOnly_of_combine? finite combined) result

/-- A single operand is its own result, so its decimal is that of a parameter. -/
theorem carriesOnly_fold (operation : Arithmetic) {operands : List Value}
    (carries : ∀ operand ∈ operands, operand.CarriesOnly allowed) :
    (operation.fold operands).CarriesOnly allowed := by
  cases operands with
  | nil => exact Value.carriesOnly_null
  | cons first rest =>
      rw [fold]
      split
      · exact Value.carriesOnly_null
      · next start reading =>
          have started :=
            Value.carriesOnly_of_numeric? finite (carries first List.mem_cons_self) reading
          cases result : operation.foldFrom start rest with
          | none => exact Value.carriesOnly_null
          | some number => exact carriesOnly_of_foldFrom finite started result

end Arithmetic

end

/-! ### Results without decimals -/

namespace Builtin

variable {allowed : Decimal → Prop} {parameters : List Value}

theorem carriesOnly_relation (relation : Relation) :
    (relation.apply parameters).CarriesOnly allowed := by
  unfold Relation.apply
  split
  · split <;> simp
  · simp

theorem carriesOnly_orderValue (order : Option Ordering) :
    (orderValue order).CarriesOnly allowed := by
  unfold orderValue
  split <;> simp

theorem carriesOnly_fromBools (combine : List Bool → Bool) :
    (fromBools combine parameters).CarriesOnly allowed := by
  unfold fromBools
  split <;> simp

theorem carriesOnly_negation : (negation parameters).CarriesOnly allowed := by
  unfold negation
  split <;> simp

theorem carriesOnly_mapText (change : String → String) :
    (mapText change parameters).CarriesOnly allowed := by
  unfold mapText
  split <;> simp

theorem carriesOnly_part : (part parameters).CarriesOnly allowed := by
  unfold part
  split
  · split <;> simp
  · simp

theorem carriesOnly_membership : (membership parameters).CarriesOnly allowed := by
  unfold membership
  split <;> simp

theorem carriesOnly_toInt (value : Value) : value.toInt.CarriesOnly allowed := by
  unfold Value.toInt
  split <;> simp

/-- A result that is made from something that may be missing. -/
theorem carriesOnly_getD {α : Type} {make : α → Value}
    (made : ∀ source, (make source).CarriesOnly allowed) (found : Option α) :
    ((found.map make).getD .null).CarriesOnly allowed := by
  cases found with
  | none => exact Value.carriesOnly_null
  | some source => exact made source

/-! ### Results that are parts of parameters -/

variable (carries : ∀ parameter ∈ parameters, parameter.CarriesOnly allowed)
include carries

theorem carriesOnly_choice : (choice parameters).CarriesOnly allowed := by
  unfold choice
  split
  · exact carries _ (by simp)
  · exact carries _ (by simp)
  · exact Value.carriesOnly_null

omit carries in
/-- What holds of a list in front of the parameters, and of them. -/
theorem carriesOnly_items {items rest : List Value}
    (carries : ∀ parameter ∈ .array items :: rest, parameter.CarriesOnly allowed) :
    (∀ item ∈ items, item.CarriesOnly allowed) ∧
      ∀ parameter ∈ rest, parameter.CarriesOnly allowed := by
  simpa using carries

theorem carriesOnly_insertion : (insertion parameters).CarriesOnly allowed := by
  unfold insertion
  split
  · obtain ⟨old, new⟩ := carriesOnly_items carries
    rw [Value.carriesOnly_array, List.forall_mem_append]
    exact ⟨old, new⟩
  · obtain ⟨old, new⟩ := carriesOnly_items carries
    split
    · split
      · rw [Value.carriesOnly_array, List.forall_mem_append, List.forall_mem_cons]
        exact ⟨fun item member => old item (List.mem_of_mem_take member),
          new _ List.mem_cons_self, fun item member => old item (List.mem_of_mem_drop member)⟩
      · exact Value.carriesOnly_null
    · exact Value.carriesOnly_null
  · exact Value.carriesOnly_null

theorem carriesOnly_removal : (removal parameters).CarriesOnly allowed := by
  unfold removal
  split
  · rw [Value.carriesOnly_array]
    exact fun item member => (carriesOnly_items carries).1 item (List.mem_filter.mp member).1
  · exact Value.carriesOnly_null

theorem carriesOnly_removalAt : (removalAt parameters).CarriesOnly allowed := by
  unfold removalAt
  split
  · split
    · split
      · rw [Value.carriesOnly_array]
        exact fun item member =>
          (carriesOnly_items carries).1 item (List.mem_of_mem_eraseIdx member)
      · exact Value.carriesOnly_null
    · exact Value.carriesOnly_null
  · exact Value.carriesOnly_null

theorem carriesOnly_of_concatLists? {items : List Value}
    (found : concatLists? parameters = some items) : ∀ item ∈ items, item.CarriesOnly allowed := by
  induction parameters generalizing items with
  | nil =>
      cases found
      nofun
  | cons first rest ih =>
      cases first with
      | array own =>
          obtain ⟨here, behind⟩ := carriesOnly_items carries
          rw [concatLists?, Option.map_eq_some_iff] at found
          obtain ⟨others, later, rfl⟩ := found
          rw [List.forall_mem_append]
          exact ⟨here, ih behind later⟩
      | _ => contradiction

theorem carriesOnly_concatLists : (concatLists parameters).CarriesOnly allowed := by
  unfold concatLists
  split
  · next items found =>
      rw [Value.carriesOnly_array]
      exact carriesOnly_of_concatLists? carries found
  · exact Value.carriesOnly_null

/-! ### All operations -/

/-- What holds of all finite decimals and of those in the parameters holds of those in the result
of an operation. -/
theorem carriesOnly_apply (finite : ∀ decimal, decimal.isFinite = true → allowed decimal)
    (builtin : Builtin) : (builtin.apply parameters).CarriesOnly allowed := by
  cases builtin with
  | sum | subtract | multiply | divide => exact Arithmetic.carriesOnly_fold finite _ carries
  | eq | gt | gte | lt | lte => exact carriesOnly_relation _
  | comparison =>
      simp only [apply]
      split
      · exact carriesOnly_orderValue _
      · exact Value.carriesOnly_null
  | not => exact carriesOnly_negation
  | and | or => exact carriesOnly_fromBools _
  | condition => exact carriesOnly_choice carries
  | concat => exact carriesOnly_getD Value.carriesOnly_string _
  | capitalize | lowercase | uppercase => exact carriesOnly_mapText _
  | substr => exact carriesOnly_part
  | contains => exact carriesOnly_membership
  | insert => exact carriesOnly_insertion carries
  | remove => exact carriesOnly_removal carries
  | removeIndex => exact carriesOnly_removalAt carries
  | union => exact carriesOnly_concatLists carries
  | int => exact carriesOnly_getD carriesOnly_toInt _
  | isEmpty | isNull => exact Value.carriesOnly_bool _
  | length => exact carriesOnly_getD (fun size => Value.carriesOnly_int _) _

end Builtin

/-- Without operations of its own, a registry calls the built-in ones or gives null. -/
theorem Registry.carriesOnly_call_empty {allowed : Decimal → Prop} {parameters : List Value}
    (finite : ∀ decimal, decimal.isFinite = true → allowed decimal)
    (carries : ∀ parameter ∈ parameters, parameter.CarriesOnly allowed) (name : String) :
    (empty.call name parameters).CarriesOnly allowed := by
  unfold call
  split
  · next builtin _ => exact Builtin.carriesOnly_apply carries finite builtin
  · exact Value.carriesOnly_null

end LiveBinding
