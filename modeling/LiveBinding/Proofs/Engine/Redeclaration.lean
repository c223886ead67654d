import LiveBinding.Proofs.Context.Resolution
import LiveBinding.Proofs.Engine.Calls
import LiveBinding.Proofs.Engine.Detachment

/-!
# Declaring a context again

A node that declares a name sees its own context under it, and a write with an empty path replaces
the whole value of the context that is seen.  So a node that declares a context again does such a
write: the tree that this leaves is the same, and so is the cascade that starts from it.
-/

namespace LiveBinding

/-- The empty text and the star lead to the whole value. -/
theorem Path.read_of_whole {text : String} (whole : text = "" ∨ text = "*") :
    Path.read text = .ok [] := by
  obtain rfl | rfl := whole
  · decide +kernel
  · decide +kernel

/-- No policy forbids to replace a whole value. -/
theorem Value.write?_nil (policy : WritePolicy) (new target : Value) :
    write? policy [] new target = some new := rfl

/-- A journal counts the listeners that were told. -/
theorem Event.countNotified_eq_length (journal : List Event) :
    countNotified journal = (notifications journal).length := by
  rw [countNotified, notifications, List.length_filterMap_eq_countP]
  refine List.countP_congr fun event _ => ?_
  cases event <;> simp [isNotified, notification?]

namespace Engine

variable {κ σ : Type} {listen : Listen κ σ} {engine : Engine κ σ} {node : NodeId} {name : String}

/-! ### In the tree -/

section

variable (declares : (engine.tree.context? node name).isSome)

include declares

theorem declareTree_of_declares (value : Value) :
    engine.tree.declare node ⟨name, value⟩ =
      .ok ((engine.tree.context? node name).map (·.value),
        engine.tree.withContext node ⟨name, value⟩) :=
  Tree.declare_eq_ok_iff.mpr ⟨Tree.contains_of_declares declares, rfl⟩

/-- A write of the whole value from a node that declares the name goes into its own context, whoever
declares the name above it. -/
theorem writeTree_of_declares (sound : engine.Sound) {request : WriteRequest}
    (origin : request.origin = node) (context : request.contextId = name)
    (whole : Path.read request.path = .ok []) :
    engine.writeTree request =
      .ok (node, engine.tree.withContext node ⟨name, request.value⟩) := by
  obtain ⟨old, declared⟩ := Option.isSome_iff_exists.mp declares
  subst origin context
  refine writeTree_eq_ok_iff.mpr ⟨[], old, request.value, whole, ?_, declared, ?_, rfl⟩
  · exact Tree.owner?_of_declares sound.tree declares
  · exact Value.write?_nil _ _ _

end

/-! ### In the engine -/

/-- As many listeners are told in a cascade as calls are made. -/
theorem countNotified_settle (listen : Listen κ σ) (engine : Engine κ σ)
    (told : List SubscriptionId) :
    Event.countNotified (settle listen engine told).2 =
      (engine.settleCalls listen told).length := by
  rw [Event.countNotified_eq_length, notifications_settle, List.length_map]

/-- On a node that declares a name, declaring it again leaves the same engine and the same journal as
writing its whole value.  Both make the same calls in the same order, with the same effects asked
for, and report how many they were.  What else is declared under the name above the node or below
it, the policy and the listeners make no difference. -/
theorem declare_as_write (reached : Reached listen engine)
    (declares : (engine.tree.context? node name).isSome) (value : Value) {text : String}
    (whole : text = "" ∨ text = "*") (policy : Option WritePolicy) :
    let context : Context := ⟨name, value⟩
    let request : WriteRequest := ⟨node, name, text, value, policy⟩
    let declared := engine.declare listen node context
    let written := engine.write listen request
    let calls := engine.performCalls listen (.write request)
    declared.engine = written.engine ∧ declared.journal = written.journal ∧
      engine.performCalls listen (.declare node context) = calls ∧
      declared.answer = .ok calls.length ∧ written.answer = .ok ⟨node, calls.length⟩ := by
  intro context request declared written calls
  have inTree := declareTree_of_declares declares value
  have byWrite : engine.writeTree request = .ok (node, engine.tree.withContext node context) :=
    writeTree_of_declares declares reached.sound rfl rfl (Path.read_of_whole whole)
  -- from here on both tell the same subscriptions in the same tree
  let changed : Engine κ σ := { engine with tree := engine.tree.withContext node context }
  let told := changed.affected node name
  let outcome := settle listen changed told
  have declaredIs :
      declared = ⟨outcome.1, .ok (Event.countNotified outcome.2), outcome.2⟩ := by
    simp only [declared, declare, context, inTree]
    rfl
  have writtenIs :
      written = ⟨outcome.1, .ok ⟨node, Event.countNotified outcome.2⟩, outcome.2⟩ := by
    simp only [written, write, byWrite]
    rfl
  have callsOfDeclare :
      engine.performCalls listen (.declare node context) = settleCalls listen changed told := by
    simp only [performCalls, context, inTree]
    rfl
  have callsOfWrite : calls = settleCalls listen changed told := by
    simp only [calls, performCalls, byWrite]
    rfl
  have count : Event.countNotified outcome.2 = calls.length :=
    (countNotified_settle listen changed told).trans (congrArg List.length callsOfWrite.symm)
  rw [declaredIs, writtenIs, count]
  exact ⟨rfl, rfl, callsOfDeclare.trans callsOfWrite.symm, rfl, rfl⟩

/-- The name is declared above the node and below it too.  The first listener writes what it was
told elsewhere, which calls the second one, and the third one sees the context of the lowest
node. -/
theorem declare_as_write_shadowed :
    let top : NodeId := ⟨0, 0⟩
    let middle : NodeId := ⟨1, 0⟩
    let low : NodeId := ⟨2, 0⟩
    let listen : Listen (Option String) Nat := fun target notification memory =>
      ((target.map fun name => Effect.write ⟨middle, name, "", notification.value, none⟩).toList,
        memory + 1)
    let start : Engine (Option String) Nat := Engine.new {} 0
    let engine := start.run listen
      [.attach none, .attach (some top), .attach (some middle), .declare top ⟨"c", .int 1⟩,
        .declare middle ⟨"c", .int 2⟩, .declare low ⟨"c", .int 3⟩, .declare top ⟨"d", .null⟩,
        .bind middle "c" (some "d"), .bind low "d" none, .bind low "c" none]
    let request : WriteRequest := ⟨middle, "c", "*", .int 7, some .existing⟩
    let declared := engine.declare listen middle ⟨"c", .int 7⟩
    let written := engine.write listen request
    Reached listen engine ∧ (engine.tree.context? middle "c").isSome ∧
      declared.engine = written.engine ∧ declared.journal = written.journal ∧
      declared.answer = .ok 2 ∧ written.answer = .ok ⟨middle, 2⟩ ∧
      Event.notifications declared.journal =
        [⟨⟨1⟩, middle, .int 7⟩, ⟨⟨2⟩, low, .int 7⟩] ∧
      declared.engine.memory = 2 := by
  intro top middle low listen start engine request declared written
  have reached : Reached listen engine := (Reached.new {} 0).run _
  have declares : (engine.tree.context? middle "c").isSome := by decide +kernel
  obtain ⟨sameEngine, sameJournal, -, answer, byWrite⟩ :=
    declare_as_write reached declares (.int 7) (.inr rfl) (some .existing)
  have two : (engine.performCalls listen (.write request)).length = 2 := by decide +kernel
  exact ⟨reached, declares, sameEngine, sameJournal,
    answer.trans (congrArg Except.ok two),
    byWrite.trans (congrArg (fun count => Except.ok (Written.mk middle count)) two),
    by decide +kernel, by decide +kernel⟩

end Engine

end LiveBinding
