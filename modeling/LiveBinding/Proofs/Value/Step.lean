import LiveBinding.Proofs.Fields
import LiveBinding.Proofs.Value.InPlace

/-!
# One step of a write

A step of a write goes into the part that is there, or into null where nothing is, and puts the
changed part back.  A part that was put is found.  A second one at the same place takes the place of
the first, and the other parts are those of the container that the step went into.  Parts at
different places of one kind may be put in either order.  The policies differ in what a step may go
into, and in nothing else.
-/

namespace LiveBinding

/-- Two steps that are both names or both positions, so that they lead into values of one kind. -/
inductive Segment.SameKind : Segment → Segment → Prop
  | key (name other : String) : SameKind (.key name) (.key other)
  | index (position other : Nat) : SameKind (.index position) (.index other)

theorem Segment.SameKind.symm {step other : Segment} (alike : step.SameKind other) :
    other.SameKind step := by
  cases alike with
  | key => exact .key _ _
  | index => exact .index _ _

namespace Value

variable {policy : WritePolicy} {step other : Segment} {target child : Value}

/-! ### Items -/

/-- A list that is filled up with null until it has an item at a position. -/
def filledTo (position : Nat) (items : List Value) : List Value :=
  items ++ List.replicate (position + 1 - items.length) .null

theorem putItem_eq_set (items : List Value) (position : Nat) (item : Value) :
    putItem items position item = (filledTo position items).set position item := by
  by_cases inside : position < items.length
  · have full : position + 1 - items.length = 0 := Nat.sub_eq_zero_of_le inside
    rw [putItem, if_pos inside, filledTo, full, List.replicate_zero, List.append_nil]
  · exact (set_fill items (Nat.not_lt.mp inside) item).symm

theorem lt_length_filledTo (position : Nat) (items : List Value) :
    position < (filledTo position items).length := by
  rw [filledTo, List.length_append, List.length_replicate]
  omega

/-- A list that is filled up has its own items, and null behind them. -/
theorem getElem?_filledTo (position : Nat) (items : List Value) (asked : Nat) :
    (filledTo position items)[asked]? =
      if asked ≤ position then some (items[asked]?.getD .null) else items[asked]? := by
  rw [filledTo, List.getElem?_append]
  split
  · next inside =>
      rw [List.getElem?_eq_getElem inside]
      exact (ite_self _).symm
  · next outside =>
      rw [List.getElem?_replicate, List.getElem?_eq_none (Nat.not_lt.mp outside)]
      by_cases near : asked ≤ position
      · rw [if_pos near, if_pos (by omega), Option.getD_none]
      · rw [if_neg near, if_neg (by omega)]

theorem getElem?_putItem (items : List Value) (position : Nat) (item : Value) (asked : Nat) :
    (putItem items position item)[asked]? =
      if asked = position then some item else (filledTo position items)[asked]? := by
  rw [putItem_eq_set, List.getElem?_set]
  split
  · next same => rw [if_pos (lt_length_filledTo _ _), if_pos same.symm]
  · next different => rw [if_neg (Ne.symm different)]

/-- The second of two items at one position stays. -/
theorem putItem_putItem (items : List Value) (position : Nat) (first second : Value) :
    putItem (putItem items position first) position second = putItem items position second := by
  apply List.ext_getElem?
  intro asked
  rw [getElem?_putItem, getElem?_putItem, getElem?_filledTo, getElem?_putItem]
  split
  · rfl
  · rw [getElem?_filledTo]
    split <;> rfl

/-- Items at different positions may be put in either order, though each of them may fill up the
list for the other. -/
theorem putItem_comm {position otherPosition : Nat} (different : position ≠ otherPosition)
    (items : List Value) (item otherItem : Value) :
    putItem (putItem items otherPosition otherItem) position item =
      putItem (putItem items position item) otherPosition otherItem := by
  apply List.ext_getElem?
  intro asked
  simp only [getElem?_putItem, getElem?_filledTo]
  grind

/-! ### Parts and containers -/

/-- A name leads to a field of an object, and a position to an item of a list. -/
theorem child?_eq_some_iff :
    target.child? step = some child ↔
      (∃ name fields, step = .key name ∧ target = .object fields ∧
        Fields.get? name fields = some child) ∨
      ∃ position items, step = .index position ∧ target = .array items ∧
        items[position]? = some child := by
  cases step with
  | key name => cases target <;> simp [child?]
  | index position => cases target <;> simp [child?]

/-- Whether a step leads into values of a value's kind. -/
def leadsInto : Segment → Value → Bool
  | .key _, .object _ => true
  | .index _, .array _ => true
  | _, _ => false

theorem leadsInto_iff :
    leadsInto step target = true ↔
      (∃ name fields, step = .key name ∧ target = .object fields) ∨
      ∃ position items, step = .index position ∧ target = .array items := by
  cases step with
  | key name => cases target <;> simp [leadsInto]
  | index position => cases target <;> simp [leadsInto]

/-- A list with an item at the position that a step leads to, null where it had none. -/
def filledFor : Segment → Value → Value
  | .index position, .array items => .array (filledTo position items)
  | _, target => target

/-- The container that a step of a write goes into: what is there, if the step leads into values of
its kind, or else an empty one, filled up for the step. -/
def containerFor (step : Segment) (found : Option Value) : Value :=
  filledFor step ((found.filter (leadsInto step)).getD (emptyFor step))

theorem containerFor_key (name : String) (target : Value) :
    containerFor (.key name) (some target) = .object (fieldsOf target) := by
  cases target <;> rfl

theorem containerFor_index (position : Nat) (target : Value) :
    containerFor (.index position) (some target) =
      .array (filledTo position (itemsOf target)) := by
  cases target <;> rfl

/-- Where nothing is, a write goes into what it goes into where there is null. -/
theorem containerFor_getD (step : Segment) (found : Option Value) :
    containerFor step (some (found.getD .null)) = containerFor step found := by
  cases found with
  | none => cases step <;> rfl
  | some target => rfl

/-! ### Putting a part -/

/-- What one step leads to, or null where nothing is. -/
def slot (step : Segment) (target : Value) : Value := (target.child? step).getD .null

theorem slot_of_child? (found : target.child? step = some child) : slot step target = child := by
  rw [slot, found, Option.getD_some]

/-- A part that was put where a step leads is found there. -/
theorem child?_put (step : Segment) (child target : Value) :
    (put step child target).child? step = some child := by
  cases step with
  | key name => exact Fields.get?_insert_self name child (fieldsOf target)
  | index position =>
      exact (getElem?_putItem (itemsOf target) position child position).trans (if_pos rfl)

@[simp] theorem slot_put (step : Segment) (child target : Value) :
    slot step (put step child target) = child := slot_of_child? (child?_put step child target)

/-- The other parts are those of the container that the step went into. -/
theorem child?_put_of_ne (different : other ≠ step) (child target : Value) :
    (put step child target).child? other = (containerFor step (some target)).child? other := by
  cases step with
  | key name =>
      rw [containerFor_key]
      cases other with
      | key otherName =>
          have apart : name ≠ otherName := fun same => different (same ▸ rfl)
          exact Fields.get?_insert_of_ne apart child (fieldsOf target)
      | index otherPosition => rfl
  | index position =>
      rw [containerFor_index]
      cases other with
      | key otherName => rfl
      | index otherPosition =>
          have apart : otherPosition ≠ position := fun same => different (same ▸ rfl)
          exact (getElem?_putItem (itemsOf target) position child otherPosition).trans
            (if_neg apart)

/-- To a step of the same kind the container that a step went into shows what was there before it,
if only null where there was nothing. -/
theorem slot_containerFor (alike : step.SameKind other) (target : Value) :
    slot step (containerFor other (some target)) = slot step target := by
  cases alike with
  | key name otherName =>
      rw [containerFor_key]
      cases target <;> rfl
  | index position otherPosition =>
      have filled := getElem?_filledTo otherPosition (itemsOf target) position
      have before : slot (.index position) target = (itemsOf target)[position]?.getD .null := by
        cases target <;> rfl
      rw [containerFor_index, before, slot, child?, filled]
      split <;> rfl

/-- A part that is put elsewhere in a value of the same kind is not seen. -/
theorem slot_put_of_ne (different : step ≠ other) (alike : step.SameKind other)
    (child target : Value) : slot step (put other child target) = slot step target := by
  rw [← slot_containerFor alike target, slot, slot, child?_put_of_ne different]

/-- The second of two parts at one place stays. -/
theorem put_put (step : Segment) (first second target : Value) :
    put step second (put step first target) = put step second target := by
  cases step with
  | key name => exact congrArg Value.object (Fields.insert_insert name first second _)
  | index position => exact congrArg Value.array (putItem_putItem _ position first second)

/-- Parts at different places of one kind may be put in either order. -/
theorem put_comm (different : step ≠ other) (alike : step.SameKind other)
    (child otherChild target : Value) :
    put step child (put other otherChild target) =
      put other otherChild (put step child target) := by
  cases alike with
  | key name otherName =>
      have apart : name ≠ otherName := fun same => different (same ▸ rfl)
      exact congrArg Value.object (Fields.insert_comm apart child otherChild _)
  | index position otherPosition =>
      have apart : position ≠ otherPosition := fun same => different (same ▸ rfl)
      exact congrArg Value.array (putItem_comm apart _ child otherChild)

/-- To put back what is there changes nothing in a value that is in order. -/
theorem put_of_child? (ascending : (fieldsOf target).Ascending)
    (found : target.child? step = some child) : put step child target = target := by
  rw [← replaceChild_eq_put ascending found, replaceChild_of_child? found]

/-! ### Policies -/

theorem slot?_create (isLast : Bool) (step : Segment) (target : Value) :
    slot? .create isLast step target = some (slot step target) := by
  cases part : target.child? step with
  | none => rw [slot?_create_missing isLast part, slot, part, Option.getD_none]
  | some child => rw [slot?_of_child? isLast part, slot_of_child? part]

/-- Whether one more part may be put into a value as it is: a field into any object, and an item
into a list where one is or at its end. -/
def hasRoom : Segment → Value → Bool
  | .key _, .object _ => true
  | .index position, .array items => decide (position ≤ items.length)
  | _, _ => false

theorem hasRoom_iff :
    hasRoom step target = true ↔
      (∃ fields name, target = .object fields ∧ step = .key name) ∨
      ∃ items position, target = .array items ∧ step = .index position ∧
        position ≤ items.length := by
  cases step with
  | key name => cases target <;> simp [hasRoom]
  | index position => cases target <;> simp [hasRoom]

theorem hasRoom_of_child? (found : target.child? step = some child) :
    hasRoom step target = true := by
  obtain ⟨name, fields, rfl, rfl, -⟩ | ⟨position, items, rfl, rfl, here⟩ :=
    child?_eq_some_iff.mp found
  · rfl
  · obtain ⟨inside, -⟩ := List.getElem?_eq_some_iff.mp here
    exact decide_eq_true (Nat.le_of_lt inside)

/-- A write that may create nothing goes into parts that are there, and with its last step into
room. -/
theorem slot?_existing (isLast : Bool) (step : Segment) (target : Value) :
    slot? .existing isLast step target =
      if isLast && hasRoom step target then some (slot step target) else target.child? step := by
  cases part : target.child? step with
  | some child =>
      rw [slot?_of_child? isLast part, slot_of_child? part]
      exact (ite_self _).symm
  | none =>
      rw [slot, part, Option.getD_none]
      cases step with
      | key name =>
          cases target with
          | object fields =>
              rw [slot?, show Fields.get? name fields = none from part]
              cases isLast <;> rfl
          | null | bool | number | string | array => cases isLast <;> rfl
      | index position =>
          cases target with
          | array items =>
              have outside : items.length ≤ position := List.getElem?_eq_none_iff.mp part
              simp [slot?, hasRoom, Nat.le_antisymm_iff, outside]
          | null | bool | number | string | object => cases isLast <;> rfl

/-- A step of a write goes into what is there, or into null. -/
theorem eq_slot_of_slot? {isLast : Bool} (met : slot? policy isLast step target = some child) :
    child = slot step target := by
  cases policy with
  | create =>
      rw [slot?_create] at met
      exact (Option.some.inj met).symm
  | existing =>
      rw [slot?_existing] at met
      split at met
      · exact (Option.some.inj met).symm
      · exact (slot_of_child? met).symm

end Value

end LiveBinding
