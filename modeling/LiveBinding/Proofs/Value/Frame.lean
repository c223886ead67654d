import LiveBinding.Proofs.Value.Putting

/-!
# What a write leaves beside its path

A write changes a value along its path.  What stands beside the path is read afterwards as it was
before, with two exceptions where the path meets a value that it cannot go through as it is: a list
that is too short is filled up with null, and a value of the wrong kind gives way to an empty
container.  The second is not confined to values without parts.  A list that meets a name, or an
object that meets a position, gives way with all that it had.
-/

namespace LiveBinding.Value

variable {policy : WritePolicy} {path : Path} {step other : Segment}
  {new target child old written : Value}

/-- After a write, a path that goes on behind the path of the write reads in the new value.  A path
that parts from it reads in the container that the write went into there: what was there before, if
the step of the write leads into values of its kind, or else an empty one, in both cases filled up
with null for that step. -/
theorem lookup?_written (done : write? policy path new target = some written) :
    (∀ behind, lookup? (path ++ behind) written = lookup? behind new) ∧
    ∀ shared step rest other otherRest, path = shared ++ step :: rest → other ≠ step →
      lookup? (shared ++ other :: otherRest) written =
        lookup? (other :: otherRest) (containerFor step (lookup? shared target)) := by
  cases eq_putAt_of_write? done
  constructor
  · intro behind
    rw [lookup?_append, lookup?_putAt, Option.bind_some]
  · rintro shared step rest other otherRest rfl different
    exact lookup?_putAt_of_ne different new shared rest otherRest target

/-- A write into a list that is too short for it. -/
theorem lookup?_written_filled :
    let target : Value := .object [("a", .array [.int 1]), ("b", .bool true)]
    let path : Path := [.key "a", .index 3, .key "x"]
    let new : Value := .object [("y", .string "deep")]
    let written : Value :=
      .object [("a", .array [.int 1, .null, .null, .object [("x", new)]]), ("b", .bool true)]
    write? .create path new target = some written ∧
      lookup? [.key "a", .index 3, .key "x", .key "y"] written = some (.string "deep") ∧
      lookup? [.key "a", .index 2] written = some .null ∧
      lookup? [.key "a", .index 0] written = some (.int 1) ∧
      lookup? [.key "a", .index 3, .key "z"] written = none ∧
      lookup? [.key "b"] written = some (.bool true) := by
  intro target path new written
  have done : write? .create path new target = some written := by decide
  obtain ⟨behind, beside⟩ := lookup?_written done
  exact ⟨done, behind [.key "y"],
    beside [.key "a"] (.index 3) [.key "x"] (.index 2) [] rfl (by decide),
    beside [.key "a"] (.index 3) [.key "x"] (.index 0) [] rfl (by decide),
    beside [.key "a", .index 3] (.key "x") [] (.key "z") [] rfl (by decide),
    beside [] (.key "a") [.index 3, .key "x"] (.key "b") [] rfl (by decide)⟩

/-! ### Containers that are kept -/

/-- Lists and objects. -/
def IsContainer (value : Value) : Prop := value.array?.isSome ∨ value.object?.isSome

/-- A container that is still of its kind and has all of its parts, but for the one where a step
leads. -/
structure KeepsAllBut (step : Segment) (old now : Value) : Prop where
  typeName : now.typeName = old.typeName
  child? : ∀ other, other ≠ step → ∀ part, old.child? other = some part →
    now.child? other = some part

/-- Filling up takes nothing away. -/
theorem child?_containerFor (leads : leadsInto step old = true)
    (found : old.child? other = some child) :
    (containerFor step (some old)).child? other = some child := by
  obtain ⟨name, fields, rfl, rfl⟩ | ⟨position, items, rfl, rfl⟩ := leadsInto_iff.mp leads
  · exact found
  · cases other with
    | key name => exact found
    | index otherPosition =>
        have here : items[otherPosition]? = some child := found
        have filled := getElem?_filledTo position items otherPosition
        rw [here, Option.getD_some, ite_self] at filled
        exact filled

theorem keepsAllBut_put (leads : leadsInto step old = true) (child : Value) :
    KeepsAllBut step old (put step child old) where
  typeName := by
    obtain ⟨name, fields, rfl, rfl⟩ | ⟨position, items, rfl, rfl⟩ := leadsInto_iff.mp leads
    · rfl
    · rfl
  child? := fun other different part found =>
    (child?_put_of_ne different child old).trans (child?_containerFor leads found)

/-- Nothing is left of a value that a step cannot lead into. -/
theorem put_of_not_leadsInto (strays : leadsInto step old = false) (child : Value) :
    put step child old = put step child .null := by
  cases step with
  | key name =>
      cases old with
      | object fields => contradiction
      | null | bool | number | string | array => rfl
  | index position =>
      cases old with
      | array items => contradiction
      | null | bool | number | string | object => rfl

/-- A list that meets a name becomes an object, and an object that meets a position a list. -/
theorem not_keepsAllBut_put (container : old.IsContainer) (strays : leadsInto step old = false)
    (child : Value) : ¬KeepsAllBut step old (put step child old) := by
  intro keeps
  have sameKind := keeps.typeName
  cases old with
  | array items =>
      cases step with
      | key name => exact absurd (show "Object" = "Array" from sameKind) (by decide)
      | index position => contradiction
  | object fields =>
      cases step with
      | key name => contradiction
      | index position => exact absurd (show "Array" = "Object" from sameKind) (by decide)
  | null | bool | number | string => simp [IsContainer, array?, object?] at container

/-- A list or an object on the way of a write is kept, with all its parts but the one where the path
goes through, exactly if the next step of the path leads into values of its kind.  Otherwise nothing
of it is left: a container with one part takes its place, with null before the part if it is a
list. -/
theorem keepsAllBut_iff_leadsInto (done : write? policy path new target = some written) :
    ∀ before step rest old, path = before ++ step :: rest → lookup? before target = some old →
      old.IsContainer →
      ∃ now, lookup? before written = some now ∧
        (KeepsAllBut step old now ↔ leadsInto step old = true) ∧
        (leadsInto step old = false → ∃ part, now = put step part .null) := by
  rintro before step rest old rfl found container
  cases eq_putAt_of_write? done
  have entered : slotAt before target = old := by rw [slotAt, found, Option.getD_some]
  have changed := lookup?_putAt_append new before (step :: rest) target
  rw [entered, putAt_cons] at changed
  refine ⟨_, changed, ⟨fun keeps => ?_, fun leads => keepsAllBut_put leads _⟩,
    fun strays => ⟨_, put_of_not_leadsInto strays _⟩⟩
  cases leads : leadsInto step old with
  | true => rfl
  | false => exact absurd keeps (not_keepsAllBut_put container leads _)

/-- A list that meets a name is lost, while the object around it is kept. -/
theorem keepsAllBut_iff_leadsInto_list :
    let list : Value := .array [.int 1, .int 2]
    let target : Value := .object [("list", list), ("x", .null)]
    let now : Value := .object [("a", .int 3)]
    let written : Value := .object [("list", now), ("x", .null)]
    write? .create [.key "list", .key "a"] (.int 3) target = some written ∧
      KeepsAllBut (.key "list") target written ∧
      lookup? [.key "list"] target = some list ∧ lookup? [.key "list"] written = some now ∧
      ¬KeepsAllBut (.key "a") list now := by
  intro list target now written
  have done : write? .create [.key "list", .key "a"] (.int 3) target = some written := by decide
  have containers := keepsAllBut_iff_leadsInto done
  obtain ⟨root, isRoot, kept, -⟩ := containers [] (.key "list") [.key "a"] target rfl rfl (.inr rfl)
  obtain ⟨lost, isLost, notKept, -⟩ :=
    containers [.key "list"] (.key "a") [] list rfl rfl (.inl rfl)
  cases isRoot
  cases isLost
  exact ⟨done, kept.mpr rfl, rfl, rfl, fun keeps => absurd (notKept.mp keeps) (by decide)⟩

end LiveBinding.Value
