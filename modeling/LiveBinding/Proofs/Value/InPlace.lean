import LiveBinding.Value.Write

/-!
# Writing in place

`Value.write?` builds the value after a write and leaves the old one alone.  Here the same write is
done in place: each step changes what stands there, before it is known whether the steps after it
will be allowed.  Lists are filled up, missing parts are made and values of the wrong kind are
overwritten on the way down.  A write in place that is refused still leaves everything as it was,
because the growth of lists is checked before anything is changed, and nothing else can refuse a
write that may create what is missing.  A write that is done leaves what `Value.write?` builds.
-/

namespace LiveBinding

namespace Fields

variable {α : Type} {name : String} {entry : α} {fields : Fields α}

/-- Change the entry of a name where it stands, if there is one. -/
def replace (name : String) (entry : α) : Fields α → Fields α
  | [] => []
  | (other, old) :: rest =>
    if other = name then (other, entry) :: rest else (other, old) :: replace name entry rest

/-- To put back what was there changes nothing. -/
theorem replace_of_get? (found : get? name fields = some entry) :
    replace name entry fields = fields := by
  induction fields with
  | nil => rfl
  | cons head rest ih =>
      obtain ⟨other, old⟩ := head
      rw [get?_cons] at found
      rw [replace]
      split at found
      · next same =>
          cases found
          rw [if_pos same]
      · next different => rw [if_neg different, ih found]

theorem replace_insert (name : String) (entry new : α) (fields : Fields α) :
    replace name new (insert name entry fields) = insert name new fields := by
  induction fields with
  | nil => simp [insert, replace]
  | cons head rest ih =>
      obtain ⟨other, old⟩ := head
      rw [insert, insert]
      split
      · simp [replace]
      · next different =>
          split
          · simp [replace]
          · rw [replace, if_neg different, ih]

theorem mem_of_get? (found : get? name fields = some entry) : (name, entry) ∈ fields := by
  induction fields with
  | nil => contradiction
  | cons head rest ih =>
      obtain ⟨other, old⟩ := head
      rw [get?_cons] at found
      split at found
      · next same =>
          cases same
          cases found
          exact List.mem_cons_self
      · exact List.mem_cons_of_mem _ (ih found)

/-- In fields that ascend, an entry that is there is replaced by an insertion. -/
theorem replace_eq_insert (ascending : fields.Ascending) (found : get? name fields = some entry)
    (new : α) : replace name new fields = insert name new fields := by
  induction fields with
  | nil => contradiction
  | cons head rest ih =>
      obtain ⟨other, old⟩ := head
      rw [get?_cons] at found
      rw [replace, insert]
      obtain ⟨first, ascendingRest⟩ := List.pairwise_cons.mp ascending
      split at found
      · next same => rw [if_pos same, if_pos same, same]
      · next different =>
          have after : other < name := first _ (mem_of_get? found)
          rw [if_neg different, if_neg different, if_neg (String.lt_asymm after),
            ih ascendingRest found]

end Fields

namespace Value

variable {policy : WritePolicy} {new target : Value} {path : Path}

/-! ### Steps in place -/

/-- A new value of the kind that a step leads into. -/
def emptyFor : Segment → Value
  | .key _ => .object []
  | .index _ => .array []

/-- The fields that a write goes into: those of an object, or none where an object may be put in
place of what stands there. -/
def fieldsFor? (policy : WritePolicy) : Value → Option (Fields Value)
  | .object fields => some fields
  | _ => if policy = .create then some [] else none

/-- The items that a write goes into: those of a list, or none where a list may be put in place of
what stands there. -/
def itemsFor? (policy : WritePolicy) : Value → Option (List Value)
  | .array items => some items
  | _ => if policy = .create then some [] else none

/-- Fields among which there is an entry for a write to go into. -/
def withField? (policy : WritePolicy) (name : String) (next : Segment) (fields : Fields Value) :
    Option (Fields Value) :=
  if (Fields.get? name fields).isSome then some fields
  else if policy = .create then some (Fields.insert name (emptyFor next) fields)
  else none

/-- Items among which there is one at a position for a write to go into.  The number of items must
be one that a position can have. -/
def withItem? (policy : WritePolicy) (position : Nat) (items : List Value) :
    Option (List Value) :=
  if position < items.length then some items
  else if policy = .create ∧ position + 1 < Segment.indexLimit then
    some (items ++ List.replicate (position + 1 - items.length) .null)
  else none

/-- Write at the end of a path in place: whether the write is done, and what stands at the target
afterwards, be it done or not. -/
def overwriteAt (policy : WritePolicy) (new : Value) : Path → Value → Bool × Value
  | [], _ => (true, new)
  | .key name :: rest, target =>
    match fieldsFor? policy target with
    | none => (false, target)
    | some fields =>
      match rest with
      | [] => (true, .object (Fields.insert name new fields))
      | next :: _ =>
        match withField? policy name next fields with
        | none => (false, .object fields)
        | some entered =>
          match Fields.get? name entered with
          | none => (false, .object entered)
          | some child =>
            let (done, changed) := overwriteAt policy new rest child
            (done, .object (Fields.replace name changed entered))
  | .index position :: rest, target =>
    match itemsFor? policy target with
    | none => (false, target)
    | some items =>
      if policy = .existing ∧ rest = [] ∧ position = items.length then
        (true, .array (items ++ [new]))
      else
        match withItem? policy position items with
        | none => (false, .array items)
        | some filled =>
          match filled[position]? with
          | none => (false, .array filled)
          | some child =>
            let (done, changed) := overwriteAt policy new rest child
            (done, .array (filled.set position changed))

/-- Write at the end of a path in place, unless an index reaches too far. -/
def overwrite (policy : WritePolicy) (path : Path) (new target : Value) : Bool × Value :=
  if withinGrowth path (some target) then overwriteAt policy new path target else (false, target)

/-! ### Steps to parts that are there -/

theorem fieldsFor?_create (target : Value) :
    fieldsFor? .create target = some (fieldsOf target) := by
  cases target <;> rfl

theorem itemsFor?_create (target : Value) : itemsFor? .create target = some (itemsOf target) := by
  cases target <;> rfl

/-- A value whose part at a step was changed where it stands. -/
def replaceChild : Segment → Value → Value → Value
  | .key name, child, .object fields => .object (Fields.replace name child fields)
  | .index position, child, .array items => .array (items.set position child)
  | _, _, target => target

variable {step : Segment} {rest : Path} {child : Value}

/-- To put back the part that was there changes nothing. -/
theorem replaceChild_of_child? (found : target.child? step = some child) :
    replaceChild step child target = target := by
  cases step with
  | key name =>
      cases target with
      | object fields => exact congrArg Value.object (Fields.replace_of_get? found)
      | null | bool | number | string | array => rfl
  | index position =>
      cases target with
      | array items =>
          obtain ⟨inside, here⟩ := List.getElem?_eq_some_iff.mp found
          refine congrArg Value.array ?_
          rw [← here, List.set_getElem_self]
      | null | bool | number | string | object => rfl

theorem slot?_of_child? (isLast : Bool) (found : target.child? step = some child) :
    slot? policy isLast step target = some child := by
  cases step with
  | key name =>
      cases target with
      | object fields => rw [slot?, show Fields.get? name fields = some child from found]
      | null | bool | number | string | array => contradiction
  | index position =>
      cases target with
      | array items => rw [slot?, show items[position]? = some child from found]
      | null | bool | number | string | object => contradiction

/-- A last step writes what `put` builds. -/
theorem overwriteAt_last (found : target.child? step = some child) :
    overwriteAt policy new [step] target = (true, put step new target) := by
  cases step with
  | key name =>
      cases target with
      | object fields => rfl
      | null | bool | number | string | array => contradiction
  | index position =>
      cases target with
      | array items =>
          have here : items[position]? = some child := found
          obtain ⟨inside, -⟩ := List.getElem?_eq_some_iff.mp here
          have notEnd : position ≠ items.length := Nat.ne_of_lt inside
          simp only [overwriteAt, itemsFor?, notEnd, and_false, if_false, withItem?, inside,
            if_true, here, put, putItem, itemsOf]
      | null | bool | number | string | object => contradiction

/-- A step before the last goes on in the part that is there, and puts it back. -/
theorem overwriteAt_step (found : target.child? step = some child) (more : rest ≠ []) :
    overwriteAt policy new (step :: rest) target =
      ((overwriteAt policy new rest child).1,
        replaceChild step (overwriteAt policy new rest child).2 target) := by
  cases step with
  | key name =>
      cases target with
      | object fields =>
          have here : Fields.get? name fields = some child := found
          obtain ⟨next, rest, rfl⟩ := List.exists_cons_of_ne_nil more
          rw [overwriteAt]
          simp only [fieldsFor?, withField?, here, Option.isSome_some, if_true, replaceChild]
      | null | bool | number | string | array => contradiction
  | index position =>
      cases target with
      | array items =>
          have here : items[position]? = some child := found
          obtain ⟨inside, -⟩ := List.getElem?_eq_some_iff.mp here
          have notEnd : ¬(policy = .existing ∧ rest = [] ∧ position = items.length) :=
            fun atEnd => more atEnd.2.1
          rw [overwriteAt]
          simp only [itemsFor?, if_neg notEnd, withItem?, if_pos inside, here, replaceChild]
      | null | bool | number | string | object => contradiction

/-! ### Steps to parts that are missing -/

theorem set_fill (items : List Value) {position : Nat} (outside : items.length ≤ position)
    (item : Value) :
    (items ++ List.replicate (position + 1 - items.length) Value.null).set position item =
      putItem items position item := by
  rw [putItem, if_neg (Nat.not_lt.mpr outside), List.set_append_right _ _ outside,
    Nat.succ_sub outside, List.replicate_succ', List.set_append_right _ _ (by simp),
    List.length_replicate, Nat.sub_self, List.append_assoc]
  rfl

theorem get?_fieldsOf {name : String} (missing : target.child? (.key name) = none) :
    Fields.get? name (fieldsOf target) = none := by
  cases target with
  | object fields => exact missing
  | null | bool | number | string | array => rfl

theorem length_itemsOf_le {position : Nat} (missing : target.child? (.index position) = none) :
    (itemsOf target).length ≤ position := by
  cases target with
  | array items => exact List.getElem?_eq_none_iff.mp missing
  | null | bool | number | string | object => exact Nat.zero_le _

theorem slot?_create_missing (isLast : Bool) (missing : target.child? step = none) :
    slot? .create isLast step target = some .null := by
  cases step with
  | key name =>
      cases target with
      | object fields =>
          rw [slot?, show Fields.get? name fields = none from missing]
          rfl
      | null | bool | number | string | array => rfl
  | index position =>
      cases target with
      | array items =>
          rw [slot?, show items[position]? = none from missing]
          rfl
      | null | bool | number | string | object => rfl

/-- What is no object with fields and no list with items has no parts. -/
def IsBare (target : Value) : Prop := fieldsOf target = [] ∧ itemsOf target = []

theorem isBare_emptyFor (step : Segment) : (emptyFor step).IsBare := by
  cases step <;> exact ⟨rfl, rfl⟩

theorem IsBare.child? (bare : target.IsBare) (step : Segment) : target.child? step = none := by
  obtain ⟨noFields, noItems⟩ := bare
  cases step with
  | key name =>
      cases target with
      | object fields =>
          cases noFields
          rfl
      | null | bool | number | string | array => rfl
  | index position =>
      cases target with
      | array items =>
          cases noItems
          rfl
      | null | bool | number | string | object => rfl

theorem IsBare.put (bare : target.IsBare) (step : Segment) (child : Value) :
    put step child target = put step child .null := by
  obtain ⟨noFields, noItems⟩ := bare
  cases step with
  | key name =>
      rw [Value.put, Value.put, noFields]
      rfl
  | index position =>
      rw [Value.put, Value.put, noItems]
      rfl

/-- A write is done wherever nothing is, in place and by building a new value. -/
structure DoneOnBare (new : Value) (path : Path) (written : Value) : Prop where
  built : writeAt? .create new path .null = some written
  done : ∀ target : Value, target.IsBare → overwriteAt .create new path target = (true, written)

variable {written : Value}

theorem writeAt?_create_missing (missing : target.child? step = none)
    (below : DoneOnBare new rest written) :
    writeAt? .create new (step :: rest) target = some (put step written target) := by
  rw [writeAt?, slot?_create_missing _ missing, Option.bind_some, below.built, Option.map_some]

/-- A missing field is made for the rest of the write. -/
theorem overwriteAt_create_key {name : String} (missing : target.child? (.key name) = none)
    (below : DoneOnBare new rest written) :
    overwriteAt .create new (.key name :: rest) target =
      (true, put (.key name) written target) := by
  rw [overwriteAt, fieldsFor?_create]
  cases rest with
  | nil =>
      cases below.built
      rfl
  | cons next rest =>
      have absent := get?_fieldsOf missing
      simp only [withField?, absent, Option.isSome_none, Bool.false_eq_true, if_false, if_true,
        Fields.get?_insert_self, Fields.replace_insert, put, below.done _ (isBare_emptyFor next)]

/-- A list is filled up for the rest of the write. -/
theorem overwriteAt_create_index {position : Nat} (missing : target.child? (.index position) = none)
    (addressable : position + 1 < Segment.indexLimit) (below : DoneOnBare new rest written) :
    overwriteAt .create new (.index position :: rest) target =
      (true, put (.index position) written target) := by
  have outside := length_itemsOf_le missing
  have last : (itemsOf target ++
      List.replicate (position + 1 - (itemsOf target).length) .null)[position]? = some .null := by
    rw [List.getElem?_append_right outside, List.getElem?_replicate, if_pos (by omega)]
  rw [overwriteAt, itemsFor?_create]
  simp only [reduceCtorEq, false_and, if_false, withItem?, if_neg (Nat.not_lt.mpr outside),
    addressable, and_self, if_true, last, set_fill _ outside, put, below.done .null ⟨rfl, rfl⟩]

/-- Where nothing is, a write that may create what is missing is done if no index is too large. -/
theorem exists_doneOnBare (new : Value) (within : withinGrowth path none = true) :
    ∃ written, DoneOnBare new path written := by
  induction path with
  | nil => exact ⟨new, rfl, fun _ _ => rfl⟩
  | cons step rest ih =>
      have nothing : Value.null.child? step = none := by cases step <;> rfl
      cases step with
      | key name =>
          obtain ⟨written, below⟩ := ih within
          refine ⟨put (.key name) written .null, writeAt?_create_missing nothing below, ?_⟩
          intro target bare
          rw [overwriteAt_create_key (bare.child? _) below, bare.put]
      | index position =>
          obtain ⟨near, withinRest⟩ := (Bool.and_eq_true _ _).mp within
          have small : position ≤ maxGrowth := by simpa using of_decide_eq_true near
          have addressable : position + 1 < Segment.indexLimit := by
            have : maxGrowth + 1 < Segment.indexLimit := by decide
            omega
          obtain ⟨written, below⟩ := ih withinRest
          refine ⟨put (.index position) written .null, writeAt?_create_missing nothing below, ?_⟩
          intro target bare
          rw [overwriteAt_create_index (bare.child? _) addressable below, bare.put]

theorem withinGrowth_missing (missing : target.child? step = none)
    (within : withinGrowth (step :: rest) (some target) = true) :
    withinGrowth rest none = true := by
  cases step with
  | key name =>
      rw [withinGrowth, Option.bind_some, missing] at within
      exact within
  | index position =>
      rw [withinGrowth, Option.bind_some, missing] at within
      exact ((Bool.and_eq_true _ _).mp within).2

/-- An index behind which there is no position is near the end of a very long list only, and is
refused before anything is changed. -/
theorem overwriteAt_create_beyond {position : Nat}
    (missing : target.child? (.index position) = none)
    (within : withinGrowth (.index position :: rest) (some target) = true)
    (beyond : ¬position + 1 < Segment.indexLimit) :
    overwriteAt .create new (.index position :: rest) target = (false, target) ∧
      Segment.indexLimit ≤ (itemsOf target).length + maxGrowth + 1 := by
  have near := of_decide_eq_true ((Bool.and_eq_true _ _).mp within).1
  simp only [Option.elim_some] at near
  have long : Segment.indexLimit ≤ (itemsOf target).length + maxGrowth + 1 := by omega
  refine ⟨?_, long⟩
  cases target with
  | array items =>
      have outside : ¬position < items.length := Nat.not_lt.mpr (length_itemsOf_le missing)
      simp only [overwriteAt, itemsFor?, reduceCtorEq, false_and, if_false, withItem?, outside,
        beyond, and_false]
  | null | bool | number | string | object =>
      have : maxGrowth + 1 < Segment.indexLimit := by decide
      simp only [itemsOf, List.length_nil] at long
      omega

/-- A write that may create what is missing is done where a part is missing, unless the list there
is so long that no position comes after it. -/
theorem overwriteAt_create_missing (new : Value) (missing : target.child? step = none)
    (within : withinGrowth (step :: rest) (some target) = true) :
    (∃ written, writeAt? .create new (step :: rest) target = some written ∧
        overwriteAt .create new (step :: rest) target = (true, written)) ∨
      (overwriteAt .create new (step :: rest) target = (false, target) ∧
        Segment.indexLimit ≤ (itemsOf target).length + maxGrowth + 1) := by
  obtain ⟨written, below⟩ := exists_doneOnBare new (withinGrowth_missing missing within)
  have built := writeAt?_create_missing missing below
  cases step with
  | key name => exact .inl ⟨_, built, overwriteAt_create_key missing below⟩
  | index position =>
      by_cases addressable : position + 1 < Segment.indexLimit
      · exact .inl ⟨_, built, overwriteAt_create_index missing addressable below⟩
      · exact .inr (overwriteAt_create_beyond missing within addressable)

/-- A write that may create nothing is done where a part is missing only if the part is at its end
and comes to an object or at the end of a list. -/
theorem overwriteAt_existing_missing (new : Value) (rest : Path)
    (missing : target.child? step = none) :
    (∃ written, writeAt? .existing new (step :: rest) target = some written ∧
        overwriteAt .existing new (step :: rest) target = (true, written)) ∨
      (writeAt? .existing new (step :: rest) target = none ∧
        overwriteAt .existing new (step :: rest) target = (false, target)) := by
  cases step with
  | key name =>
      cases target with
      | object fields =>
          have absent : Fields.get? name fields = none := missing
          cases rest with
          | nil =>
              refine .inl ⟨_, ?_, rfl⟩
              simp [writeAt?, slot?, absent, put, fieldsOf]
          | cons next rest =>
              refine .inr ⟨?_, ?_⟩
              · simp [writeAt?, slot?, absent]
              · simp [overwriteAt, fieldsFor?, withField?, absent]
      | null | bool | number | string | array => exact .inr ⟨rfl, rfl⟩
  | index position =>
      cases target with
      | array items =>
          have absent : items[position]? = none := missing
          have beyond : ¬position < items.length :=
            Nat.not_lt.mpr (List.getElem?_eq_none_iff.mp absent)
          by_cases atEnd : rest = [] ∧ position = items.length
          · obtain ⟨rfl, rfl⟩ := atEnd
            refine .inl ⟨.array (items ++ [new]), ?_, ?_⟩
            · simp [writeAt?, slot?, put, putItem, itemsOf]
            · simp [overwriteAt, itemsFor?]
          · refine .inr ⟨?_, ?_⟩
            · simp [writeAt?, slot?, absent, atEnd]
            · simp [overwriteAt, itemsFor?, withItem?, atEnd, beyond]
      | null | bool | number | string | object => exact .inr ⟨rfl, rfl⟩

/-- What a write does where a part is missing: it is done and leaves what `writeAt?` builds, or it
is refused and leaves what was there. -/
theorem overwriteAt_missing (policy : WritePolicy) (new : Value)
    (missing : target.child? step = none)
    (within : withinGrowth (step :: rest) (some target) = true) :
    (∃ written, writeAt? policy new (step :: rest) target = some written ∧
        overwriteAt policy new (step :: rest) target = (true, written)) ∨
      (overwriteAt policy new (step :: rest) target = (false, target) ∧
        (writeAt? policy new (step :: rest) target = none ∨
          Segment.indexLimit ≤ (itemsOf target).length + maxGrowth + 1)) := by
  cases policy with
  | create =>
      obtain done | ⟨refused, long⟩ := overwriteAt_create_missing new missing within
      · exact .inl done
      · exact .inr ⟨refused, .inr long⟩
  | existing =>
      obtain done | ⟨none, refused⟩ := overwriteAt_existing_missing new rest missing
      · exact .inl done
      · exact .inr ⟨refused, .inl none⟩

theorem withinGrowth_child (found : target.child? step = some child)
    (within : withinGrowth (step :: rest) (some target) = true) :
    withinGrowth rest (some child) = true := by
  cases step with
  | key name =>
      rw [withinGrowth, Option.bind_some, found] at within
      exact within
  | index position =>
      rw [withinGrowth, Option.bind_some, found] at within
      exact ((Bool.and_eq_true _ _).mp within).2

/-- A write builds its value around the part that is there. -/
theorem writeAt?_of_child? (found : target.child? step = some child) :
    writeAt? policy new (step :: rest) target =
      (writeAt? policy new rest child).map fun written => put step written target := by
  rw [writeAt?, slot?_of_child? _ found, Option.bind_some]

/-! ### Refused writes -/

/-- A write in place that is refused leaves everything as it was, though it changes what stands on
its way before it knows. -/
theorem overwriteAt_refused (within : withinGrowth path (some target) = true)
    (refused : (overwriteAt policy new path target).1 = false) :
    (overwriteAt policy new path target).2 = target := by
  induction path generalizing target with
  | nil => contradiction
  | cons step rest ih =>
      cases part : target.child? step with
      | none =>
          obtain ⟨_, -, done⟩ | ⟨unchanged, -⟩ := overwriteAt_missing policy new part within
          · rw [done] at refused
            contradiction
          · rw [unchanged]
      | some child =>
          by_cases last : rest = []
          · subst last
            rw [overwriteAt_last part] at refused
            contradiction
          · rw [overwriteAt_step part last] at refused ⊢
            rw [ih (withinGrowth_child part within) refused, replaceChild_of_child? part]

-- the check of growth is needed: without it a refused write leaves a list that was not there
example :
    overwriteAt .create .null [.key "a", .index (Segment.indexLimit - 1)] (.object []) =
      (false, .object [("a", .array [])]) := by rfl

theorem overwrite_refused (refused : (overwrite policy path new target).1 = false) :
    (overwrite policy path new target).2 = target := by
  unfold overwrite at refused ⊢
  split
  · next within =>
      rw [if_pos within] at refused
      exact overwriteAt_refused within refused
  · rfl

/-- A write in place is done only where one that builds a new value is. -/
theorem writeAt?_isSome_of_overwriteAt (within : withinGrowth path (some target) = true)
    (done : (overwriteAt policy new path target).1 = true) :
    (writeAt? policy new path target).isSome = true := by
  induction path generalizing target with
  | nil => rfl
  | cons step rest ih =>
      cases part : target.child? step with
      | none =>
          obtain ⟨_, built, -⟩ | ⟨refused, -⟩ := overwriteAt_missing policy new part within
          · rw [built]
            rfl
          · rw [refused] at done
            contradiction
      | some child =>
          rw [writeAt?_of_child? part, Option.isSome_map]
          by_cases last : rest = []
          · subst last
            rfl
          · rw [overwriteAt_step part last] at done
            exact ih (withinGrowth_child part within) done

/-- Where no new value can be built, a write in place changes nothing. -/
theorem overwrite_of_write?_eq_none (impossible : write? policy path new target = none) :
    overwrite policy path new target = (false, target) := by
  cases done : (overwrite policy path new target).1 with
  | false => exact Prod.ext done (overwrite_refused done)
  | true =>
      unfold overwrite at done
      unfold write? at impossible
      split at done
      · next within =>
          rw [if_pos within] at impossible
          have built := writeAt?_isSome_of_overwriteAt within done
          rw [impossible] at built
          contradiction
      · contradiction

/-! ### The same write -/

/-- What holds of a value in memory on the way of a path: objects are in order, and lists end well
before the last position. -/
def StoredAlong : Path → Value → Prop
  | [], _ => True
  | step :: rest, value =>
    (fieldsOf value).Ascending ∧ (itemsOf value).length + maxGrowth + 1 < Segment.indexLimit ∧
      ∀ child, value.child? step = some child → StoredAlong rest child

/-- In a value that is in order, to change a part where it stands is to put a new one there. -/
theorem replaceChild_eq_put (ascending : (fieldsOf target).Ascending)
    (found : target.child? step = some child) (changed : Value) :
    replaceChild step changed target = put step changed target := by
  cases step with
  | key name =>
      cases target with
      | object fields =>
          exact congrArg Value.object (Fields.replace_eq_insert ascending found changed)
      | null | bool | number | string | array => contradiction
  | index position =>
      cases target with
      | array items =>
          obtain ⟨inside, -⟩ := List.getElem?_eq_some_iff.mp found
          rw [replaceChild, put, itemsOf, putItem, if_pos inside]
      | null | bool | number | string | object => contradiction

theorem overwriteAt_eq_writeAt? (stored : StoredAlong path target)
    (within : withinGrowth path (some target) = true) :
    overwriteAt policy new path target =
      ((writeAt? policy new path target).isSome,
        (writeAt? policy new path target).getD target) := by
  induction path generalizing target with
  | nil => rfl
  | cons step rest ih =>
      obtain ⟨ascending, short, storedRest⟩ := stored
      cases part : target.child? step with
      | none =>
          obtain ⟨_, built, done⟩ | ⟨refused, none | long⟩ :=
            overwriteAt_missing policy new part within
          · rw [built, done]
            rfl
          · rw [refused, none]
            rfl
          · omega
      | some child =>
          rw [writeAt?_of_child? part]
          by_cases last : rest = []
          · subst last
            rw [overwriteAt_last part]
            rfl
          · have below := ih (storedRest child part) (withinGrowth_child part within)
            rw [overwriteAt_step part last, below]
            cases writeAt? policy new rest child with
            | none => exact Prod.ext rfl (replaceChild_of_child? part)
            | some changed => exact Prod.ext rfl (replaceChild_eq_put ascending part changed)

/-- On values in memory, the write in place and the write that builds a new value are the same. -/
theorem overwrite_eq_write (policy : WritePolicy) (new : Value)
    (stored : StoredAlong path target) :
    overwrite policy path new target =
      ((write? policy path new target).isSome, write policy path new target) := by
  unfold overwrite write write?
  split
  · next within => exact overwriteAt_eq_writeAt? stored within
  · rfl

end Value

end LiveBinding
