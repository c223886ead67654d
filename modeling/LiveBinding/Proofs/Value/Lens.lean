import LiveBinding.Proofs.Value.Order
import LiveBinding.Proofs.Value.Reach

/-!
# Laws of writing

A path with its look-up and its write is a lens into values.  To write what is found changes
nothing, the second of two writes at one path stays, and writes at two paths that part at two steps
of one kind come out the same in either order.  All three hold under both policies, and for writes
that create what is missing, fill up lists and overwrite what stands in the way.
-/

namespace LiveBinding.Value

variable {policy again : WritePolicy} {path : Path} {step other : Segment}
  {first second part target written : Value}

/-- A write at the end of a path that leads somewhere is done under either policy. -/
theorem allows_of_lookup? (found : lookup? path target = some part) :
    Allows policy path target := by
  have ends := endsInRoom_of_lookup? found
  cases policy with
  | create => exact isNear_iff.mpr (withinGrowth_of_endsInRoom ends)
  | existing => exact ends

/-- What is found may be written back, and nothing changes. -/
theorem write?_of_lookup? (ordered : target.IsOrdered) (found : lookup? path target = some part) :
    write? policy path part target = some target :=
  write?_eq_some_iff.mpr ⟨allows_of_lookup? found, (putAt_of_lookup? ordered found).symm⟩

/-- Where a value was written, another one may be written, and the first leaves no trace. -/
theorem write?_write? (done : write? policy path first target = some written) (second : Value) :
    write? policy path second target = some (putAt second path target) ∧
      write? again path second written = some (putAt second path target) := by
  obtain ⟨allows, rfl⟩ := write?_eq_some_iff.mp done
  have found := lookup?_putAt first path target
  exact ⟨write?_eq_some_iff.mpr ⟨allows, rfl⟩,
    write?_eq_some_iff.mpr ⟨allows_of_lookup? found, (putAt_putAt first second path target).symm⟩⟩

/-- Two writes that are done one after the other put one part after the other. -/
theorem eq_putAt_of_write?_write? {otherPath : Path}
    (done : (write? policy path first target).bind (write? again otherPath second) =
      some written) :
    written = putAt second otherPath (putAt first path target) := by
  obtain ⟨between, before, after⟩ := Option.bind_eq_some_iff.mp done
  rw [eq_putAt_of_write? after, eq_putAt_of_write? before]

theorem IsOrdered.write? (ordered : target.IsOrdered) (orderedNew : first.IsOrdered)
    (done : Value.write? policy path first target = some written) : written.IsOrdered := by
  rw [eq_putAt_of_write? done]
  exact ordered.putAt orderedNew path

/-- To write what is found changes nothing.  Where a write is done, a second one is done too, and
leaves what it alone would leave.  If two paths part at two names or at two positions, the writes
come out the same in either order, as far as they are done in both.  Each write may have a policy of
its own.  Writes keep values in order, which the first law needs. -/
theorem write?_laws (target : Value) :
    (∀ policy path part, target.IsOrdered → lookup? path target = some part →
      write? policy path part target = some target) ∧
    (∀ policy again path first second written, write? policy path first target = some written →
      ∃ result, write? policy path second target = some result ∧
        write? again path second written = some result) ∧
    (∀ policy again shared step rest other otherRest first second left right,
      step ≠ other → step.SameKind other →
      (write? policy (shared ++ step :: rest) first target).bind
        (write? again (shared ++ other :: otherRest) second) = some left →
      (write? again (shared ++ other :: otherRest) second target).bind
        (write? policy (shared ++ step :: rest) first) = some right →
      left = right) ∧
    ∀ policy path new written, target.IsOrdered → new.IsOrdered →
      write? policy path new target = some written → written.IsOrdered := by
  refine ⟨fun policy path part => write?_of_lookup?, ?_, ?_,
    fun policy path new written => IsOrdered.write?⟩
  · intro policy again path first second written done
    exact ⟨_, write?_write? done second⟩
  · intro policy again shared step rest other otherRest first second left right different alike
      doneLeft doneRight
    rw [eq_putAt_of_write?_write? doneLeft, eq_putAt_of_write?_write? doneRight]
    exact (putAt_comm different alike first second shared rest otherRest target).symm

/-- An object with a list, to which two items are added behind its end in either order. -/
theorem write?_laws_list :
    let object : Value → Value := fun list => .object [("a", .object [("x", .int 1)]), ("b", list)]
    let target := object (.array [.bool true])
    let near : Path := [.key "b", .index 2]
    let far : Path := [.key "b", .index 4, .key "y"]
    let once := object (.array [.bool true, .null, .int 1])
    let both := object (.array [.bool true, .null, .int 2, .null, .object [("y", .int 4)]])
    target.IsOrdered ∧
      write? .existing [.key "a", .key "x"] (.int 1) target = some target ∧
      write? .create near (.int 1) target = some once ∧ once.IsOrdered ∧
      write? .existing near (.int 2) once = write? .create near (.int 2) target ∧
      (write? .create near (.int 2) target).bind (write? .create far (.int 4)) = some both ∧
      (write? .create far (.int 4) target).bind (write? .create near (.int 2)) = some both := by
  intro object target near far once both
  obtain ⟨writeBack, twice, eitherOrder, keepsOrder⟩ := write?_laws target
  have ordered : target.IsOrdered := by
    refine (isOrdered_object _).mpr ⟨List.pairwise_pair.mpr (by decide), ?_⟩
    simp [Fields.Ascending]
  have first : write? .create near (.int 1) target = some once := by decide
  obtain ⟨result, direct, again⟩ := twice .create .existing near (.int 1) (.int 2) once first
  have nearFirst : (write? .create near (.int 2) target).bind (write? .create far (.int 4)) =
      some both := by decide
  have farFirst : ((write? .create far (.int 4) target).bind
      (write? .create near (.int 2))).isSome := by decide
  obtain ⟨other, isOther⟩ := Option.isSome_iff_exists.mp farFirst
  have same : both = other := eitherOrder .create .create [.key "b"] (.index 2) [] (.index 4)
    [.key "y"] (.int 2) (.int 4) both other (by decide) (.index 2 4) nearFirst isOther
  exact ⟨ordered, writeBack .existing _ _ ordered rfl, first,
    keepsOrder .create near (.int 1) once ordered (isOrdered_number _) first,
    again.trans direct.symm, nearFirst, same ▸ isOther⟩

end LiveBinding.Value
