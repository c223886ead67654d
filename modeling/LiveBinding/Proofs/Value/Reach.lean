import LiveBinding.Proofs.Value.Putting

/-!
# Which writes are done

A write that may create what is missing is done exactly if none of its indices lies too far behind
the end of the list that it meets.  A write that may create nothing is done exactly if all of its
path but the last step leads somewhere, and there is room for the last step there.  So a write that
may create nothing could as well create what is missing: it is done under that policy too, and does
the same.

Neither condition looks at the value that is written.
-/

namespace LiveBinding

namespace Value

variable {policy : WritePolicy} {path rest : Path} {step : Segment}
  {new target child part written : Value}

/-- No index of a path lies more than `maxGrowth` behind the end of the list that it meets in a
value.  Where it meets no list, it meets the end of an empty one. -/
def IsNear (path : Path) (target : Value) : Prop :=
  ∀ before position rest, path = before ++ .index position :: rest →
    position ≤ (((lookup? before target).bind array?).getD []).length + maxGrowth

/-- A path is empty, or all of it but its last step leads to a value with room for the last step. -/
def EndsInRoom (path : Path) (target : Value) : Prop :=
  path = [] ∨ ∃ before last part, path = before ++ [last] ∧
    lookup? before target = some part ∧ hasRoom last part = true

/-! ### Indices near the end of a list -/

theorem withinGrowth_cons {found : Option Value} :
    withinGrowth (step :: rest) found = true ↔
      (∀ position, step = .index position →
        position ≤ ((found.bind array?).getD []).length + maxGrowth) ∧
      withinGrowth rest (found.bind (child? step)) = true := by
  have items : found.elim [] itemsOf = (found.bind array?).getD [] := by
    cases found with
    | none => rfl
    | some target => cases target <;> rfl
  cases step with
  | key name => simp [withinGrowth]
  | index position => simp [withinGrowth, items]

theorem withinGrowth_iff {found : Option Value} :
    withinGrowth path found = true ↔
      ∀ before position rest, path = before ++ .index position :: rest →
        position ≤ (((found.bind (lookup? before)).bind array?).getD []).length + maxGrowth := by
  induction path generalizing found with
  | nil => simp [withinGrowth]
  | cons step rest ih =>
      have deeper (before : Path) : (found.bind (child? step)).bind (lookup? before) =
          found.bind (lookup? (step :: before)) := Option.bind_assoc ..
      have here : found.bind (lookup? []) = found := by cases found <;> rfl
      rw [withinGrowth_cons, ih]
      -- an index of the path is its first step, or one of the steps behind it
      constructor
      · rintro ⟨first, later⟩ before position after split
        cases before with
        | nil =>
            rw [here]
            exact first position (List.cons.inj split).1
        | cons other before =>
            obtain ⟨same, split⟩ := List.cons.inj split
            rw [← same, ← deeper]
            exact later before position after split
      · intro near
        refine ⟨fun position same => ?_, fun before position after split => ?_⟩
        · have bound := near [] position rest (same ▸ rfl)
          rwa [here] at bound
        · rw [deeper]
          exact near (step :: before) position after (split ▸ rfl)

theorem isNear_iff : IsNear path target ↔ withinGrowth path (some target) = true := by
  rw [withinGrowth_iff]
  rfl

/-! ### Room at the end of a path -/

theorem endsInRoom_singleton : EndsInRoom [step] target ↔ hasRoom step target = true := by
  constructor
  · rintro (none | ⟨before, last, part, split, found, room⟩)
    · contradiction
    · obtain ⟨rfl, same⟩ : before = [] ∧ [step] = [last] := by
        cases before with
        | nil => exact ⟨rfl, split⟩
        | cons first before => simp at split
      cases same
      cases found
      exact room
  · intro room
    exact .inr ⟨[], step, target, rfl, rfl, room⟩

theorem endsInRoom_cons (more : rest ≠ []) :
    EndsInRoom (step :: rest) target ↔
      ∃ child, target.child? step = some child ∧ EndsInRoom rest child := by
  constructor
  · rintro (none | ⟨before, last, part, split, found, room⟩)
    · contradiction
    · cases before with
      | nil => exact absurd (List.cons.inj split).2 more
      | cons first before =>
          obtain ⟨same, split⟩ := List.cons.inj split
          obtain ⟨child, here, below⟩ := Option.bind_eq_some_iff.mp found
          exact ⟨child, same ▸ here, .inr ⟨before, last, part, split, below, room⟩⟩
  · rintro ⟨child, here, none | ⟨before, last, part, rfl, found, room⟩⟩
    · contradiction
    · refine .inr ⟨step :: before, last, part, rfl, ?_, room⟩
      rw [lookup?_cons, here, Option.bind_some, found]

/-- There is room wherever something is. -/
theorem endsInRoom_of_lookup? (found : lookup? path target = some part) :
    EndsInRoom path target := by
  obtain rfl | ⟨before, last, rfl⟩ := List.eq_nil_or_concat path
  · exact .inl rfl
  · rw [List.concat_eq_append] at found ⊢
    rw [lookup?_append, Option.bind_eq_some_iff] at found
    obtain ⟨container, here, found⟩ := found
    obtain ⟨child, isChild, -⟩ := Option.bind_eq_some_iff.mp found
    exact .inr ⟨before, last, container, rfl, here, hasRoom_of_child? isChild⟩

theorem index_le_of_hasRoom {position : Nat} (room : hasRoom (.index position) target = true) :
    position ≤ (target.array?.getD []).length := by
  cases target with
  | array items => exact of_decide_eq_true room
  | null | bool | number | string | object => contradiction

/-- A path that ends in room never leads far behind the end of a list: each of its steps has
room. -/
theorem withinGrowth_of_endsInRoom (ends : EndsInRoom path target) :
    withinGrowth path (some target) = true := by
  induction path generalizing target with
  | nil => rfl
  | cons step rest ih =>
      have room : hasRoom step target = true := by
        by_cases last : rest = []
        · subst last
          exact endsInRoom_singleton.mp ends
        · obtain ⟨child, here, -⟩ := (endsInRoom_cons last).mp ends
          exact hasRoom_of_child? here
      refine withinGrowth_cons.mpr ⟨?_, ?_⟩
      · rintro position rfl
        exact Nat.le_trans (index_le_of_hasRoom room) (Nat.le_add_right _ _)
      · by_cases last : rest = []
        · rw [last]
          rfl
        · obtain ⟨child, here, below⟩ := (endsInRoom_cons last).mp ends
          rw [Option.bind_some, here]
          exact ih below

/-! ### Writes that are done -/

theorem writeAt?_existing_isSome_iff :
    (writeAt? .existing new path target).isSome = true ↔ EndsInRoom path target := by
  induction path generalizing target with
  | nil => simp [writeAt?, EndsInRoom]
  | cons step rest ih =>
      rw [writeAt?, slot?_existing]
      by_cases last : rest = []
      · subst last
        rw [endsInRoom_singleton, List.isEmpty_nil, Bool.true_and]
        split
        · next room => simp [writeAt?, room]
        · next noRoom =>
            have missing : target.child? step = none :=
              Option.eq_none_iff_forall_ne_some.mpr fun child found =>
                noRoom (hasRoom_of_child? found)
            simp [missing, noRoom]
      · have notLast : rest.isEmpty = false := by simpa using last
        rw [endsInRoom_cons last, notLast, Bool.false_and, if_neg Bool.false_ne_true]
        cases target.child? step with
        | none => simp
        | some child => simp [ih]

/-- Whether a policy allows a write at a path of a value. -/
def Allows : WritePolicy → Path → Value → Prop
  | .create => IsNear
  | .existing => EndsInRoom

theorem withinGrowth_of_allows (allows : Allows policy path target) :
    withinGrowth path (some target) = true := by
  cases policy with
  | create => exact isNear_iff.mp allows
  | existing => exact withinGrowth_of_endsInRoom allows

/-- A write is done exactly if the policy allows it, and then leaves what `putAt` builds. -/
theorem write?_eq_some_iff :
    write? policy path new target = some written ↔
      Allows policy path target ∧ written = putAt new path target := by
  constructor
  · intro done
    refine ⟨?_, eq_putAt_of_write? done⟩
    unfold write? at done
    split at done
    · next within =>
        cases policy with
        | create => exact isNear_iff.mpr within
        | existing =>
            apply writeAt?_existing_isSome_iff.mp
            rw [done, Option.isSome_some]
    · contradiction
  · rintro ⟨allows, rfl⟩
    rw [write?, if_pos (withinGrowth_of_allows allows)]
    cases policy with
    | create => exact writeAt?_create new path target
    | existing =>
        obtain ⟨built, done⟩ :=
          Option.isSome_iff_exists.mp (writeAt?_existing_isSome_iff.mpr allows)
        rw [done, eq_putAt_of_writeAt? done]

theorem write?_isSome_iff :
    (write? policy path new target).isSome = true ↔ Allows policy path target := by
  rw [Option.isSome_iff_exists]
  simp only [write?_eq_some_iff, exists_and_left, exists_eq, and_true]

/-- Creating is the more generous policy. -/
theorem Allows.create (allows : Allows policy path target) : Allows .create path target :=
  isNear_iff.mpr (withinGrowth_of_allows allows)

/-- A write that may create what is missing is done exactly if none of its indices lies too far
behind the end of the list that it meets, and a write that may create nothing exactly if its path
ends in room.  The second is done under the first policy too and leaves the same.  A write in place
that is refused leaves everything as it was; and on values in memory a write in place is the write
that builds a new value. -/
theorem write?_decided (path : Path) (new target : Value) :
    ((write? .create path new target).isSome = true ↔
      ∀ before position rest, path = before ++ .index position :: rest →
        position ≤ (((lookup? before target).bind array?).getD []).length + 4096) ∧
    ((write? .existing path new target).isSome = true ↔
      path = [] ∨ ∃ before last part, path = before ++ [last] ∧ lookup? before target = some part ∧
        ((∃ fields name, part = .object fields ∧ last = .key name) ∨
          ∃ items position, part = .array items ∧ last = .index position ∧
            position ≤ items.length)) ∧
    (∀ written, write? .existing path new target = some written →
      write? .create path new target = some written) ∧
    ∀ policy,
      ((overwrite policy path new target).1 = false →
        (overwrite policy path new target).2 = target) ∧
      (StoredAlong path target → overwrite policy path new target =
        ((write? policy path new target).isSome, write policy path new target)) := by
  refine ⟨write?_isSome_iff, ?_, fun written done => ?_,
    fun policy => ⟨overwrite_refused, overwrite_eq_write policy new⟩⟩
  · rw [write?_isSome_iff]
    simp only [Allows, EndsInRoom, hasRoom_iff]
  · obtain ⟨allows, built⟩ := write?_eq_some_iff.mp done
    exact write?_eq_some_iff.mpr ⟨allows.create, built⟩

/-- Writes at the end of a list, behind a gap, and too far behind it. -/
theorem write?_decided_list :
    let list : List Value → Value := fun items => .object [("list", .array items)]
    let target := list [.int 1, .int 2]
    let append : Path := [.key "list", .index 2]
    let gap : Path := [.key "list", .index 3]
    let far : Path := [.key "list", .index 4099]
    write? .existing append (.int 3) target = some (list [.int 1, .int 2, .int 3]) ∧
      write? .create append (.int 3) target = some (list [.int 1, .int 2, .int 3]) ∧
      StoredAlong append target ∧
      overwrite .existing append (.int 3) target = (true, list [.int 1, .int 2, .int 3]) ∧
      (overwrite .existing gap (.int 3) target).1 = false ∧
      (overwrite .existing gap (.int 3) target).2 = target ∧
      write? .create gap (.int 3) target = some (list [.int 1, .int 2, .null, .int 3]) ∧
      ¬(write? .create far (.int 3) target).isSome = true := by
  intro list target append gap far
  obtain ⟨-, -, both, inPlace⟩ := write?_decided append (.int 3) target
  obtain ⟨-, -, -, unchanged⟩ := write?_decided gap (.int 3) target
  obtain ⟨near, -, -, -⟩ := write?_decided far (.int 3) target
  have done : write? .existing append (.int 3) target = some (list [.int 1, .int 2, .int 3]) := by
    decide
  have stored : StoredAlong append target := by
    simp [StoredAlong, append, target, list, fieldsOf, itemsOf, child?, Fields.get?,
      Fields.Ascending, maxGrowth, Segment.indexLimit]
  have refused : (overwrite .existing gap (.int 3) target).1 = false := by decide
  refine ⟨done, both _ done, stored, ?_, refused, (unchanged .existing).1 refused, by decide, ?_⟩
  · rw [(inPlace .existing).2 stored, write, done]
    rfl
  · intro allowed
    exact absurd (near.mp allowed [.key "list"] 4099 [] rfl) (by decide)

end Value

end LiveBinding
