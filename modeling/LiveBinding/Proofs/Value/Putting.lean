import LiveBinding.Proofs.Value.Step

/-!
# Writes along paths

`Value.putAt` is a write that nothing stops: at each step it goes into what is there, or into null
where nothing is, and puts the changed part back.  Every write that is done builds the value that
`putAt` builds, under either policy, so what a write leaves is a matter of `putAt` alone, and the
policies only decide whether a write is done.  The laws of a path follow step by step from those of
one step.
-/

namespace LiveBinding.Value

variable {policy : WritePolicy} {path : Path} {step other : Segment} {new target written : Value}

/-- What a path leads to, or null where nothing is. -/
def slotAt (path : Path) (target : Value) : Value := (lookup? path target).getD .null

theorem slotAt_null (path : Path) : slotAt path .null = .null := by
  cases path with
  | nil => rfl
  | cons step rest => cases step <;> rfl

theorem slotAt_cons (step : Segment) (rest : Path) (target : Value) :
    slotAt (step :: rest) target = slotAt rest (slot step target) := by
  rw [slotAt, lookup?_cons, slot]
  cases target.child? step with
  | none => exact (slotAt_null rest).symm
  | some child => rfl

/-- A value with a new part at the end of a path, whatever stands in the way. -/
def putAt (new : Value) : Path → Value → Value
  | [], _ => new
  | step :: rest, target => put step (putAt new rest (slot step target)) target

theorem putAt_cons (new : Value) (step : Segment) (rest : Path) (target : Value) :
    putAt new (step :: rest) target = put step (putAt new rest (slot step target)) target := rfl

/-! ### Laws -/

/-- In what was put together, the first part of the path leads to what the rest of it was put
into. -/
theorem lookup?_putAt_append (new : Value) (before rest : Path) (target : Value) :
    lookup? before (putAt new (before ++ rest) target) =
      some (putAt new rest (slotAt before target)) := by
  induction before generalizing target with
  | nil => rfl
  | cons step before ih =>
      rw [List.cons_append, putAt_cons, lookup?_cons, child?_put, Option.bind_some, ih, slotAt_cons]

/-- What was put at the end of a path is found there. -/
theorem lookup?_putAt (new : Value) (path : Path) (target : Value) :
    lookup? path (putAt new path target) = some new := by
  have found := lookup?_putAt_append new path [] target
  rwa [List.append_nil] at found

/-- A path that parts from the path of a write leads on from the container that the write went into
where the two part. -/
theorem lookup?_putAt_of_ne (different : other ≠ step) (new : Value) (shared rest otherRest : Path)
    (target : Value) :
    lookup? (shared ++ other :: otherRest) (putAt new (shared ++ step :: rest) target) =
      lookup? (other :: otherRest) (containerFor step (lookup? shared target)) := by
  rw [lookup?_append, lookup?_putAt_append, Option.bind_some, lookup?_cons, putAt_cons,
    child?_put_of_ne different, slotAt, containerFor_getD, ← lookup?_cons]

/-- The second of two parts at the end of one path stays. -/
theorem putAt_putAt (first second : Value) (path : Path) (target : Value) :
    putAt second path (putAt first path target) = putAt second path target := by
  induction path generalizing target with
  | nil => rfl
  | cons step rest ih => simp only [putAt_cons, slot_put, put_put, ih]

/-- Parts at the ends of two paths may be put in either order, if the paths part at two steps of
one kind. -/
theorem putAt_comm (different : step ≠ other) (alike : step.SameKind other)
    (new otherNew : Value) (shared rest otherRest : Path) (target : Value) :
    putAt new (shared ++ step :: rest) (putAt otherNew (shared ++ other :: otherRest) target) =
      putAt otherNew (shared ++ other :: otherRest)
        (putAt new (shared ++ step :: rest) target) := by
  induction shared generalizing target with
  | nil =>
      -- neither write sees the part of the other, so both put what they put alone
      simp only [List.nil_append, putAt_cons, slot_put_of_ne different alike,
        slot_put_of_ne different.symm alike.symm, put_comm different alike]
  | cons first shared ih => simp only [List.cons_append, putAt_cons, slot_put, put_put, ih]

/-! ### Writes -/

/-- Nothing on its way stops a write that may create what is missing. -/
theorem writeAt?_create (new : Value) (path : Path) (target : Value) :
    writeAt? .create new path target = some (putAt new path target) := by
  induction path generalizing target with
  | nil => rfl
  | cons step rest ih =>
      rw [writeAt?, slot?_create, Option.bind_some, ih, Option.map_some, putAt_cons]

theorem eq_putAt_of_writeAt? (done : writeAt? policy new path target = some written) :
    written = putAt new path target := by
  induction path generalizing target written with
  | nil => exact (Option.some.inj done).symm
  | cons step rest ih =>
      obtain ⟨child, met, built⟩ := Option.bind_eq_some_iff.mp done
      obtain ⟨changed, below, rfl⟩ := Option.map_eq_some_iff.mp built
      rw [putAt_cons, ← eq_slot_of_slot? met, ← ih below]

/-- A write that is done leaves what `putAt` builds, under either policy. -/
theorem eq_putAt_of_write? (done : write? policy path new target = some written) :
    written = putAt new path target := by
  unfold write? at done
  split at done
  · exact eq_putAt_of_writeAt? done
  · contradiction

/-- What a write puts at the end of a path is found there. -/
theorem lookup?_of_write? (done : write? policy path new target = some written) :
    lookup? path written = some new := by
  rw [eq_putAt_of_write? done, lookup?_putAt]

end LiveBinding.Value
