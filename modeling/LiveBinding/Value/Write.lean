import LiveBinding.Path
import LiveBinding.Value.Basic

/-!
# Reading and writing parts of a value

A path leads into a value through objects and lists. Writing at a path replaces the part there. A
policy says whether what is missing on the way is created, and no policy lets an index reach far
beyond the end of a list.
-/

namespace LiveBinding

/-- Whether a write may create what is missing on its way. -/
inductive WritePolicy where
  /-- Missing objects and lists are created, lists are filled up with null, and whatever stands
  in the way is overwritten. -/
  | create
  /-- A write goes through what is there. Only its last step may add a field to an object or an
  item at the end of a list. -/
  | existing
  deriving DecidableEq, Repr

namespace Value

/-- The part of a value that one step leads to. -/
def child? : Segment → Value → Option Value
  | .key name, .object fields => Fields.get? name fields
  | .index position, .array items => items[position]?
  | _, _ => none

/-- The part of a value that a path leads to. -/
def lookup? : Path → Value → Option Value
  | [], value => some value
  | step :: rest, value => (value.child? step).bind (lookup? rest)

@[simp] theorem lookup?_nil (value : Value) : lookup? [] value = some value := rfl

theorem lookup?_cons (step : Segment) (rest : Path) (value : Value) :
    lookup? (step :: rest) value = (value.child? step).bind (lookup? rest) := rfl

/-- A path leads on from where its first part leads. -/
theorem lookup?_append (first rest : Path) (value : Value) :
    lookup? (first ++ rest) value = (lookup? first value).bind (lookup? rest) := by
  induction first generalizing value with
  | nil => rfl
  | cons step first ih =>
    rw [List.cons_append, lookup?_cons, lookup?_cons, Option.bind_assoc]
    congr 1
    funext child
    exact ih child

/-! ### Writing -/

/-- How far beyond the end of a list an index may reach. -/
def maxGrowth : Nat := 4096

/-- The fields of an object; other values have none. -/
def fieldsOf : Value → Fields Value
  | .object fields => fields
  | _ => []

/-- The items of a list; other values have none. -/
def itemsOf : Value → List Value
  | .array items => items
  | _ => []

/-- Whether no index of a path reaches too far beyond the end of the list it meets. Where the path
meets no list, the list is empty. -/
def withinGrowth : Path → Option Value → Bool
  | [], _ => true
  | .key name :: rest, target => withinGrowth rest (target.bind (child? (.key name)))
  | .index position :: rest, target =>
    decide (position ≤ (target.elim [] itemsOf).length + maxGrowth) &&
      withinGrowth rest (target.bind (child? (.index position)))

/-- What a step of a write meets: the part that is there, or null where one may be added. -/
def slot? (policy : WritePolicy) (isLast : Bool) : Segment → Value → Option Value
  | .key name, .object fields =>
    match Fields.get? name fields with
    | some child => some child
    | none => if policy = .create ∨ isLast then some .null else none
  | .index position, .array items =>
    match items[position]? with
    | some child => some child
    | none =>
      if policy = .create ∨ (isLast ∧ position = items.length) then some .null else none
  | _, _ => if policy = .create then some .null else none

/-- A list with an item at a position, filled up with null before it. -/
def putItem (items : List Value) (position : Nat) (item : Value) : List Value :=
  if position < items.length then items.set position item
  else items ++ List.replicate (position - items.length) .null ++ [item]

/-- A value with a part where one step leads. What is no object or list of the kind needed gives
way to a new one. -/
def put : Segment → Value → Value → Value
  | .key name, child, target => .object (Fields.insert name child (fieldsOf target))
  | .index position, child, target => .array (putItem (itemsOf target) position child)

/-- A value with a new part at the end of a path, if the policy allows the way. -/
def writeAt? (policy : WritePolicy) (new : Value) : Path → Value → Option Value
  | [], _ => some new
  | step :: rest, target =>
    (slot? policy rest.isEmpty step target).bind fun child =>
      (writeAt? policy new rest child).map fun written => put step written target

/-- A value with a new part at the end of a path, if the policy allows the way and no index
reaches too far. -/
def write? (policy : WritePolicy) (path : Path) (new target : Value) : Option Value :=
  if withinGrowth path (some target) then writeAt? policy new path target else none

/-- A value after a write. A refused write changes nothing. -/
def write (policy : WritePolicy) (path : Path) (new target : Value) : Value :=
  (write? policy path new target).getD target

end Value

end LiveBinding
