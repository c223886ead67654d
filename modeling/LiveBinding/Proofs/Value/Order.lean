import LiveBinding.Proofs.Value.Putting

/-!
# Values in order

The fields of every object in a value, at any depth, are in ascending order of their names, so each
name occurs once.  The parts of a value in order are in order, and a part in order that is put into
such a value, at whatever path, leaves it in order.
-/

namespace LiveBinding.Value

variable {step : Segment} {path : Path} {target child part new : Value}

/-- A value all of whose objects have their fields in ascending order. -/
def IsOrdered : Value → Prop
  | .array items => inItems items
  | .object fields => Fields.Ascending fields ∧ inFields fields
  | _ => True
where
  inItems : List Value → Prop
    | [] => True
    | item :: rest => item.IsOrdered ∧ inItems rest
  inFields : List (String × Value) → Prop
    | [] => True
    | (_, item) :: rest => item.IsOrdered ∧ inFields rest

@[simp] theorem isOrdered_null : null.IsOrdered := by simp [IsOrdered]

@[simp] theorem isOrdered_bool (value : Bool) : (bool value).IsOrdered := by simp [IsOrdered]

@[simp] theorem isOrdered_number (value : Number) : (number value).IsOrdered := by
  simp [IsOrdered]

@[simp] theorem isOrdered_string (text : String) : (string text).IsOrdered := by
  simp [IsOrdered]

@[simp] theorem isOrdered_array (items : List Value) :
    (array items).IsOrdered ↔ ∀ item ∈ items, item.IsOrdered := by
  rw [IsOrdered]
  induction items with
  | nil => simp [IsOrdered.inItems]
  | cons item rest ih => simp [IsOrdered.inItems, ih]

@[simp] theorem isOrdered_object (fields : List (String × Value)) :
    (object fields).IsOrdered ↔
      Fields.Ascending fields ∧ ∀ field ∈ fields, field.2.IsOrdered := by
  have each : IsOrdered.inFields fields ↔ ∀ field ∈ fields, field.2.IsOrdered := by
    induction fields with
    | nil => simp [IsOrdered.inFields]
    | cons field rest ih => rw [IsOrdered.inFields, ih, List.forall_mem_cons]
  rw [IsOrdered, each]

/-! ### Parts -/

namespace IsOrdered

theorem ascending (ordered : target.IsOrdered) : (fieldsOf target).Ascending := by
  cases target with
  | object fields => exact ((isOrdered_object fields).mp ordered).1
  | null | bool | number | string | array => exact List.Pairwise.nil

theorem of_mem_fieldsOf (ordered : target.IsOrdered) {field : String × Value}
    (member : field ∈ fieldsOf target) : field.2.IsOrdered := by
  cases target with
  | object fields => exact ((isOrdered_object fields).mp ordered).2 field member
  | null | bool | number | string | array => exact absurd member List.not_mem_nil

theorem of_mem_itemsOf (ordered : target.IsOrdered) {item : Value}
    (member : item ∈ itemsOf target) : item.IsOrdered := by
  cases target with
  | array items => exact (isOrdered_array items).mp ordered item member
  | null | bool | number | string | object => exact absurd member List.not_mem_nil

theorem child? (ordered : target.IsOrdered) (found : target.child? step = some child) :
    child.IsOrdered := by
  cases step with
  | key name =>
      cases target with
      | object fields => exact ordered.of_mem_fieldsOf (Fields.mem_of_get? found)
      | null | bool | number | string | array => contradiction
  | index position =>
      cases target with
      | array items => exact ordered.of_mem_itemsOf (List.mem_of_getElem? found)
      | null | bool | number | string | object => contradiction

theorem slot (ordered : target.IsOrdered) (step : Segment) : (slot step target).IsOrdered := by
  cases part : target.child? step with
  | none =>
      rw [Value.slot, part, Option.getD_none]
      exact isOrdered_null
  | some child =>
      rw [slot_of_child? part]
      exact ordered.child? part

/-! ### Writes -/

theorem put (ordered : target.IsOrdered) (orderedChild : child.IsOrdered) (step : Segment) :
    (put step child target).IsOrdered := by
  cases step with
  | key name =>
      refine (isOrdered_object _).mpr ⟨ordered.ascending.insert name child, fun field member => ?_⟩
      obtain rfl | kept := Fields.mem_insert member
      · exact orderedChild
      · exact ordered.of_mem_fieldsOf kept
  | index position =>
      refine (isOrdered_array _).mpr fun item member => ?_
      rw [putItem_eq_set] at member
      obtain filled | rfl := List.mem_or_eq_of_mem_set member
      · obtain kept | padding := List.mem_append.mp filled
        · exact ordered.of_mem_itemsOf kept
        · rw [List.eq_of_mem_replicate padding]
          exact isOrdered_null
      · exact orderedChild

theorem putAt (ordered : target.IsOrdered) (orderedNew : new.IsOrdered) (path : Path) :
    (putAt new path target).IsOrdered := by
  induction path generalizing target with
  | nil => exact orderedNew
  | cons step rest ih => exact ordered.put (ih (ordered.slot step)) step

end IsOrdered

/-- To put back what is found at the end of a path changes nothing in a value in order. -/
theorem putAt_of_lookup? (ordered : target.IsOrdered) (found : lookup? path target = some part) :
    putAt part path target = target := by
  induction path generalizing target with
  | nil => exact (Option.some.inj found).symm
  | cons step rest ih =>
      obtain ⟨child, here, below⟩ := Option.bind_eq_some_iff.mp found
      rw [putAt_cons, slot_of_child? here, ih (ordered.child? here) below,
        put_of_child? ordered.ascending here]

end LiveBinding.Value
