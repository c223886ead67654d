import LiveBinding.Proofs.Decimal.Nearest
import LiveBinding.Proofs.Json
import LiveBinding.Proofs.Operation.Folding
import LiveBinding.Proofs.Value.Agreement

/-!
# Values as documents and back

A value that goes out as a document and comes back has lost only the decimals that are not finite,
which became null.  A document that is taken as a value and goes out again has lost only the
integers that need more than 64 bits with a sign, which became the nearest decimals.  Both hold at
any depth, and integers and decimals are never exchanged otherwise.
-/

namespace LiveBinding

/-! ### What is lost -/

/-- A value with each decimal in it that is not finite replaced by null. -/
def Value.finitized : Value → Value
  | .number (.decimal value) => if value.isFinite then .decimal value else .null
  | .array items => .array (inItems items)
  | .object fields => .object (inFields fields)
  | value => value
where
  inItems : List Value → List Value
    | [] => []
    | item :: rest => item.finitized :: inItems rest
  inFields : List (String × Value) → List (String × Value)
    | [] => []
    | (name, item) :: rest => (name, item.finitized) :: inFields rest

/-- The numbers in a document, at any depth. -/
def Json.numbers : Json → List Json.Number
  | .number value => [value]
  | .array items => inItems items
  | .object fields => inFields fields
  | _ => []
where
  inItems : List Json → List Json.Number
    | [] => []
    | item :: rest => item.numbers ++ inItems rest
  inFields : List (String × Json) → List Json.Number
    | [] => []
    | (_, item) :: rest => item.numbers ++ inFields rest

/-- A number can be held: an integer in 64 bits with or without a sign, or a finite decimal. -/
def Json.Number.IsHeld : Json.Number → Prop
  | .integer value => Int64.minValue.toInt ≤ value ∧ value < UInt64.size
  | .decimal value => value.isFinite = true

instance : (number : Json.Number) → Decidable number.IsHeld
  | .integer _ => inferInstanceAs (Decidable (_ ∧ _))
  | .decimal _ => inferInstanceAs (Decidable (_ = _))

/-- All numbers in a document can be held. -/
def Json.IsHeld (document : Json) : Prop := ∀ number ∈ document.numbers, number.IsHeld

instance (document : Json) : Decidable document.IsHeld :=
  inferInstanceAs (Decidable (∀ number ∈ document.numbers, number.IsHeld))

/-- A number with an integer that needs more than 64 bits with a sign replaced by its decimal. -/
def Json.Number.rounded : Json.Number → Json.Number
  | .integer value => if FitsInt64 value then .integer value else .decimal (Decimal.ofInt value)
  | .decimal value => .decimal value

/-- A document with all numbers in it rounded. -/
def Json.rounded : Json → Json
  | .number value => .number value.rounded
  | .array items => .array (inItems items)
  | .object fields => .object (inFields fields)
  | document => document
where
  inItems : List Json → List Json
    | [] => []
    | item :: rest => item.rounded :: inItems rest
  inFields : List (String × Json) → List (String × Json)
    | [] => []
    | (name, item) :: rest => (name, item.rounded) :: inFields rest

namespace Value

@[simp] theorem finitized_array (items : List Value) :
    (array items).finitized = array (items.map finitized) := by
  rw [finitized, array.injEq]
  induction items with
  | nil => rfl
  | cons item rest ih => rw [finitized.inItems, ih, List.map_cons]

@[simp] theorem finitized_object (fields : List (String × Value)) :
    (object fields).finitized =
      object (fields.map fun field => (field.1, field.2.finitized)) := by
  rw [finitized, object.injEq]
  induction fields with
  | nil => rfl
  | cons field rest ih => rw [finitized.inFields, ih, List.map_cons]

theorem toJsonFields_eq_map (fields : List (String × Value)) :
    toJson.toJsonFields fields = fields.map fun field => (field.1, field.2.toJson) := by
  induction fields with
  | nil => rfl
  | cons field fields ih => rw [toJson.toJsonFields, ih, List.map_cons]

end Value

namespace Json

@[simp] theorem rounded_array (items : List Json) :
    (array items).rounded = array (items.map rounded) := by
  rw [rounded, array.injEq]
  induction items with
  | nil => rfl
  | cons item rest ih => rw [rounded.inItems, ih, List.map_cons]

@[simp] theorem rounded_object (fields : List (String × Json)) :
    (object fields).rounded = object (fields.map fun field => (field.1, field.2.rounded)) := by
  rw [rounded, object.injEq]
  induction fields with
  | nil => rfl
  | cons field rest ih => rw [rounded.inFields, ih, List.map_cons]

@[simp] theorem isHeld_number (value : Json.Number) : (number value).IsHeld ↔ value.IsHeld := by
  simp [IsHeld, numbers]

@[simp] theorem isHeld_array (items : List Json) :
    (array items).IsHeld ↔ ∀ item ∈ items, item.IsHeld := by
  simp only [IsHeld, numbers]
  induction items with
  | nil => simp [numbers.inItems]
  | cons item rest ih => simp [numbers.inItems, or_imp, forall_and, ih]

@[simp] theorem isHeld_object (fields : List (String × Json)) :
    (object fields).IsHeld ↔ ∀ field ∈ fields, field.2.IsHeld := by
  simp only [IsHeld, numbers]
  induction fields with
  | nil => simp [numbers.inFields]
  | cons field rest ih => simp [numbers.inFields, or_imp, forall_and, ih]

/-- What holds of a document if it holds of its parts holds of every document. -/
@[elab_as_elim]
theorem induction {motive : Json → Prop} (null : motive .null)
    (bool : ∀ value, motive (.bool value)) (number : ∀ value, motive (.number value))
    (string : ∀ text, motive (.string text))
    (array : ∀ items, (∀ item ∈ items, motive item) → motive (.array items))
    (object : ∀ fields, (∀ field ∈ fields, motive field.2) → motive (.object fields))
    (document : Json) : motive document := by
  cases document with
  | null => exact null
  | bool value => exact bool value
  | number value => exact number value
  | string text => exact string text
  | array items =>
      refine array items fun item member => ?_
      have := List.sizeOf_lt_of_mem member
      exact induction null bool number string array object item
  | object fields =>
      refine object fields fun field member => ?_
      have := List.sizeOf_lt_of_mem member
      exact induction null bool number string array object field.2
termination_by sizeOf document
decreasing_by
  · rw [Json.array.sizeOf_spec]
    omega
  · obtain ⟨name, item⟩ := field
    rw [Prod.mk.sizeOf_spec] at this
    rw [Json.object.sizeOf_spec]
    change sizeOf item < _
    omega

end Json

/-- An integer is kept if it fits, and otherwise it becomes a decimal. -/
theorem Json.Number.toNumber_integer (value : Int) : (Json.Number.integer value).toNumber =
    if FitsInt64 value then .int (Int64.ofInt value) else .decimal (Decimal.ofInt value) := rfl

/-! ### Values as documents -/

theorem map_eq_self_iff {α : Type} {items : List α} {change : α → α} :
    items.map change = items ↔ ∀ item ∈ items, change item = item :=
  calc items.map change = items ↔ items.map change = items.map id := by rw [List.map_id]
    _ ↔ ∀ item ∈ items, change item = item := List.map_inj_left

namespace Value

/-- A value comes back from its document without the decimals that are not finite. -/
theorem ofJson_toJson (value : Value) : ofJson value.toJson = value.finitized := by
  induction value using Value.induction with
  | null | bool | string => rfl
  | number number =>
      cases number with
      | int value =>
          have same : (Json.Number.integer value.toInt).toNumber = .int value := by
            rw [Json.Number.toNumber_integer, if_pos (fitsInt64_toInt value), Int64.ofInt_toInt]
          exact congrArg Value.number same
      | decimal value =>
          rw [toJson, Number.toJson, finitized]
          split
          · rfl
          · rfl
  | array items each =>
      rw [toJson, toJsonItems_eq_map, ofJson, ofJsonItems_eq_map, List.map_map, finitized_array]
      exact congrArg array (List.map_congr_left each)
  | object fields each =>
      rw [toJson, toJsonFields_eq_map, ofJson, ofJsonFields_eq_map, List.map_map, finitized_object]
      exact congrArg object
        (List.map_congr_left fun field member => Prod.ext rfl (each field member))

/-- A value has nothing to lose exactly if all decimals in it are finite. -/
theorem finitized_eq_self_iff (value : Value) :
    value.finitized = value ↔ value.CarriesOnly (·.isFinite = true) := by
  induction value using Value.induction with
  | null | bool | string => simp [finitized]
  | number number =>
      cases number with
      | int => simp [finitized]
      | decimal value =>
          rw [finitized, carriesOnly_decimal]
          split
          · next finite => exact iff_of_true rfl finite
          · next infinite => exact iff_of_false nofun infinite
  | array items each =>
      rw [finitized_array, carriesOnly_array, array.injEq]
      exact map_eq_self_iff.trans (forall₂_congr each)
  | object fields each =>
      rw [finitized_object, carriesOnly_object, object.injEq]
      refine map_eq_self_iff.trans (forall₂_congr fun field member => ?_)
      rw [← each field member, Prod.ext_iff]
      exact and_iff_right rfl

/-- The numbers in the document of a value can be held. -/
theorem isHeld_toJson (value : Value) : value.toJson.IsHeld := by
  induction value using Value.induction with
  | null | bool | string => exact List.forall_mem_nil _
  | number number =>
      cases number with
      | int value =>
          have upper := value.toInt_le
          have most : Int64.maxValue.toInt < UInt64.size := by decide
          rw [toJson, Number.toJson, Json.isHeld_number]
          exact ⟨value.minValue_le_toInt, by omega⟩
      | decimal value =>
          rw [toJson, Number.toJson]
          split
          · next finite => exact (Json.isHeld_number _).mpr finite
          · exact List.forall_mem_nil _
  | array items each =>
      rw [toJson, toJsonItems_eq_map, Json.isHeld_array, List.forall_mem_map]
      exact each
  | object fields each =>
      rw [toJson, toJsonFields_eq_map, Json.isHeld_object, List.forall_mem_map]
      exact each

end Value

/-! ### Documents as values -/

/-- An integer that can be held but does not fit in 64 bits with a sign is not out of range. -/
theorem Json.Number.IsHeld.isNearest {value : Int} (held : (Json.Number.integer value).IsHeld) :
    (Decimal.ofInt value).IsNearest value := by
  have most : UInt64.size < Decimal.leastInfinite := by decide +kernel
  have least : Int64.minValue.toInt.natAbs < UInt64.size := by decide
  obtain ⟨lower, upper⟩ := held
  exact Decimal.isNearest_ofInt (by omega)

/-- A number that is taken into a value and goes out again is rounded. -/
theorem Json.Number.IsHeld.toJson_toNumber {value : Json.Number} (held : value.IsHeld) :
    value.toNumber.toJson = .number value.rounded := by
  cases value with
  | integer value =>
      rw [toNumber_integer, rounded]
      split
      · next fits =>
          have same : value = (Int64.ofInt value).toInt := fits.ofInt_eq_iff.mp rfl
          rw [Number.toJson, ← same]
      · rw [Number.toJson, if_pos held.isNearest.isFinite]
  | decimal value => exact if_pos held

/-- A document that is taken as a value and goes out again is rounded. -/
theorem Value.toJson_ofJson {document : Json} (held : document.IsHeld) :
    (ofJson document).toJson = document.rounded := by
  induction document using Json.induction with
  | null | bool | string => rfl
  | number number => exact (Json.isHeld_number number |>.mp held).toJson_toNumber
  | array items each =>
      rw [Json.isHeld_array] at held
      rw [ofJson, ofJsonItems_eq_map, toJson, toJsonItems_eq_map, List.map_map, Json.rounded_array]
      exact congrArg Json.array
        (List.map_congr_left fun item member => each item member (held item member))
  | object fields each =>
      rw [Json.isHeld_object] at held
      rw [ofJson, ofJsonFields_eq_map, toJson, toJsonFields_eq_map, List.map_map,
        Json.rounded_object]
      exact congrArg Json.object (List.map_congr_left fun field member =>
        Prod.ext rfl (each field member (held field member)))

/-- A value that goes out as a document and comes back has null in place of each decimal that is not
finite, so it comes back as it was exactly if all its decimals are finite.  A document that is taken
as a value and goes out again has the nearest decimal in place of each integer that does not fit in
64 bits with a sign. -/
theorem Json.lost_in_conversion :
    (∀ value : Value, value.toJson.IsHeld ∧ Value.ofJson value.toJson = value.finitized) ∧
    (∀ value : Value, Value.ofJson value.toJson = value ↔
      value.CarriesOnly (·.isFinite = true)) ∧
    (∀ document : Json, document.IsHeld → (Value.ofJson document).toJson = document.rounded) ∧
    ∀ value : Int, (Json.Number.integer value).IsHeld → (Decimal.ofInt value).IsNearest value := by
  refine ⟨fun value => ⟨value.isHeld_toJson, value.ofJson_toJson⟩, fun value => ?_,
    fun _ => Value.toJson_ofJson, fun _ => Json.Number.IsHeld.isNearest⟩
  rw [value.ofJson_toJson]
  exact value.finitized_eq_self_iff

/-- Decimals that are not finite in a list and in an object; the greatest integer that fits, and the
two ends of those that do not. -/
theorem Json.lost_in_conversion_mixed :
    let value : Value := .object [("a", .array [.decimal .nan, .decimal (Decimal.ofInt 1), .int 1]),
      ("b", .object [("c", .decimal (.infinite true))])]
    let document : Json := .array [.number (.integer 9223372036854775807),
      .object [("n", .number (.integer 9223372036854775808))],
      .number (.integer 18446744073709551615), .number (.decimal (Decimal.ofInt 1))]
    Value.ofJson value.toJson =
        .object [("a", .array [.null, .decimal (Decimal.ofInt 1), .int 1]),
          ("b", .object [("c", .null)])] ∧
      document.IsHeld ∧ (Value.ofJson document).toJson =
        .array [.number (.integer 9223372036854775807),
          .object [("n", .number (.decimal (Decimal.ofInt 9223372036854775808)))],
          .number (.decimal (Decimal.ofInt 18446744073709551615)),
          .number (.decimal (Decimal.ofInt 1))] ∧
      (Decimal.ofInt 18446744073709551615).IsNearest 18446744073709551615 := by
  intro value document
  obtain ⟨goesOut, -, comesIn, nearest⟩ := lost_in_conversion
  have held : document.IsHeld := by decide +kernel
  exact ⟨(goesOut value).2.trans (by decide +kernel), held, (comesIn document held).trans rfl,
    nearest _ ⟨by decide, by decide⟩⟩

end LiveBinding
