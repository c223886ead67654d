import LiveBinding.Proofs.Context.Resolution
import LiveBinding.Proofs.Engine.Calls
import LiveBinding.Proofs.Engine.Detachment
import LiveBinding.Proofs.Evaluation
import LiveBinding.Proofs.Value.Putting

/-!
# A write is read back

A write goes into the context that a read would find, and a read from the same place finds what
was written.  Nothing else in the engine is different after it, if no listener that is told asks
for anything.
-/

namespace LiveBinding

/-! ### In scopes -/

/-- A binding has the part of the context that its name leads to. -/
theorem Expr.evaluate_binding (registry : Registry) {scope : Scope} {entry : Scope.Entry}
    {name : String} {path : Path} {value : Value} (seen : scope.find? name = some entry)
    (found : Value.lookup? path entry.context.value = some value) :
    (Expr.binding (.key name :: path)).evaluate registry scope = value := by
  have allSeen : ∀ id ∈ (Expr.binding (.key name :: path)).contextIds,
      (scope.find? id).isSome = true := by
    intro id member
    obtain ⟨read, isRead, root⟩ := Expr.mem_contextIds.mp member
    cases List.mem_singleton.mp isRead
    cases root
    rw [seen]
    rfl
  rw [evaluate, if_pos (List.all_eq_true.mpr allSeen), reduce, Scope.read?, Scope.value?, seen,
    Option.map_some, Option.bind_some, found, Option.getD_some]

/-! ### In cascades without effects -/

section Silence

variable {κ σ : Type} (listen : Listen κ σ)

/-- Listeners that ask for nothing leave a round with nothing to do but to remember. -/
theorem Round.notifyAll_of_silent (round : Round κ σ) (told : List SubscriptionId)
    (silent : ∀ call ∈ round.calls listen told, call.effects = []) :
    ∃ memory journal, told.foldl (notify listen) round =
      { round with engine := { round.engine with memory }, journal } := by
  induction told generalizing round with
  | nil => exact ⟨round.engine.memory, round.journal, rfl⟩
  | cons id rest ih =>
      obtain ⟨memory, journal, result⟩ := ih (round.notify listen id) fun call member =>
        silent call (List.mem_append_right _ member)
      rw [List.foldl_cons, result]
      obtain ⟨-, -, same⟩ | ⟨subscription, effects, remembered, -, -, called, told⟩ :=
        round.notify_cases listen id
      · rw [same]
        exact ⟨memory, journal, rfl⟩
      · have called := Option.mem_toList.mpr called
        have nothing : effects = [] := silent ⟨_, _, effects⟩ (List.mem_append_left _ called)
        rw [told, nothing]
        exact ⟨memory, journal, rfl⟩

theorem Round.run_of_silent (engine : Engine κ σ) (told : List SubscriptionId)
    (silent : ∀ call ∈ Round.calls listen { engine } told, call.effects = []) :
    ∃ memory journal,
      Round.run listen engine told = { engine := { engine with memory }, journal } := by
  obtain ⟨memory, journal, result⟩ := Round.notifyAll_of_silent listen { engine } told silent
  rw [Round.run, result]
  exact ⟨memory, journal, rfl⟩

/-- A cascade in which nobody asks for anything changes only what the listeners remember. -/
theorem Engine.settle_of_silent (engine : Engine κ σ) (told : List SubscriptionId)
    (silent : ∀ call ∈ engine.settleCalls listen told, call.effects = []) :
    ∃ memory, (settle listen engine told).1 = { engine with memory } := by
  obtain ⟨memory, journal, result⟩ := Round.run_of_silent listen engine told fun call member =>
    silent call (List.mem_append_left _ member)
  refine ⟨memory, ?_⟩
  rw [settle, result]
  cases engine.settings.maxSettleWrites <;> rfl

end Silence

/-! ### In engines -/

namespace Engine

variable {κ σ : Type} {listen : Listen κ σ} {engine : Engine κ σ} {request : WriteRequest}

theorem evaluateOn_binding {node owner : NodeId} {name : String} {path : Path} {value part : Value}
    (seen : engine.tree.owner? node name = some owner)
    (declared : engine.tree.context? owner name = some ⟨name, value⟩)
    (found : Value.lookup? path value = some part) :
    engine.evaluateOn node (.expr (.binding (.key name :: path))) = part := by
  obtain ⟨-, context, sameContext, entry⟩ := Tree.find?_scope_of_owner? seen
  cases sameContext.symm.trans declared
  exact Expr.evaluate_binding engine.registry entry found

/-- A write fails for want of a context exactly if its path can be read and nobody at or above the
node where it starts declares the name. -/
theorem writeTree_eq_targetMissing_iff (sound : engine.Sound) :
    engine.writeTree request = .error (.targetMissing request.contextId request.origin) ↔
      (∃ path, Path.read request.path = .ok path) ∧
        ∀ above, engine.tree.IsBelow request.origin above →
          engine.tree.context? above request.contextId = none := by
  rw [← Tree.owner?_eq_none_iff sound.tree, writeTree]
  cases Path.read request.path with
  | error fault => simp
  | ok path =>
      cases engine.tree.owner? request.origin request.contextId with
      | none => simp
      | some owner => grind

theorem targetMissing_of_writeTree {name : String} {node : NodeId}
    (failed : engine.writeTree request = .error (.targetMissing name node)) :
    name = request.contextId ∧ node = request.origin := by
  unfold writeTree at failed
  grind

theorem answer_write_eq_error_iff {error : WriteError} :
    (engine.write listen request).answer = .error error ↔
      engine.writeTree request = .error error := by
  rw [write]
  cases engine.writeTree request with
  | error reason => simp
  | ok result => simp

/-- A write is done exactly if its path can be read, somebody at or above its origin declares the
name, and the policy allows the path in the value that the nearest of them declares. -/
theorem answer_write_eq_ok_iff (sound : engine.Sound) {owner : NodeId} :
    (∃ notified, (engine.write listen request).answer = .ok ⟨owner, notified⟩) ↔
      ∃ path old, Path.read request.path = .ok path ∧
        engine.tree.IsNearest request.origin request.contextId owner ∧
        engine.tree.context? owner request.contextId = some old ∧
        (Value.write? (request.policy.getD engine.settings.defaultPolicy) path request.value
          old.value).isSome := by
  have answered : (∃ notified, (engine.write listen request).answer = .ok ⟨owner, notified⟩) ↔
      ∃ tree, engine.writeTree request = .ok (owner, tree) := by
    rw [write]
    cases engine.writeTree request with
    | error error => simp
    | ok result => simp [Prod.ext_iff]
  rw [answered]
  simp only [writeTree_eq_ok_iff, Tree.owner?_eq_some_iff sound.tree]
  constructor
  · rintro ⟨tree, path, old, value, read, nearest, declared, written, -⟩
    exact ⟨path, old, read, nearest, declared, Option.isSome_iff_exists.mpr ⟨value, written⟩⟩
  · rintro ⟨path, old, read, nearest, declared, allowed⟩
    obtain ⟨value, written⟩ := Option.isSome_iff_exists.mp allowed
    exact ⟨_, path, old, value, read, nearest, declared, written, rfl⟩

/-- If none of the listeners that are told asks for anything, a write that is done changes the tree
and what the listeners remember. -/
theorem write_of_silent
    (silent : ∀ call ∈ engine.performCalls listen (.write request), call.effects = [])
    {written : Written} (done : (engine.write listen request).answer = .ok written) :
    ∃ tree memory, engine.writeTree request = .ok (written.owner, tree) ∧
      (engine.write listen request).engine = { engine with tree, memory } := by
  rw [write] at done ⊢
  rw [performCalls] at silent
  cases outcome : engine.writeTree request with
  | error error =>
      rw [outcome] at done
      contradiction
  | ok result =>
      obtain ⟨owner, tree⟩ := result
      rw [outcome] at done silent
      obtain ⟨memory, result⟩ := settle_of_silent listen _ _ silent
      cases done
      exact ⟨tree, memory, rfl, result⟩

/-- What a write into the context of a node leaves: the context was the nearest one, a read finds
what was written wherever the context is seen, and nothing else in the engine is different. -/
structure WritesBack (before : Engine κ σ) (request : WriteRequest) (path : Path)
    (owner : NodeId) (after : Engine κ σ) : Prop where
  nearest : before.tree.IsNearest request.origin request.contextId owner
  rewrites : ∃ old value, before.tree.context? owner request.contextId = some old ∧
    Value.write? (request.policy.getD before.settings.defaultPolicy) path request.value old.value =
      some value ∧
    Tree.Rewrites owner request.contextId value before.tree after.tree
  /-- Every name leads every node to where it led before. -/
  owner? : ∀ node name, after.tree.owner? node name = before.tree.owner? node name
  atOrigin : after.evaluateOn request.origin (.expr (.binding (.key request.contextId :: path))) =
    request.value
  wherever : ∀ node, after.tree.owner? node request.contextId = some owner →
    after.evaluateOn node (.expr (.binding (.key request.contextId :: path))) = request.value
  subscriptions : after.subscriptions = before.subscriptions
  registry : after.registry = before.registry
  settings : after.settings = before.settings

theorem Sound.writesBack (sound : engine.Sound) {owner : NodeId} {tree : Tree}
    (done : engine.writeTree request = .ok (owner, tree)) (memory : σ) :
    ∃ path, Path.read request.path = .ok path ∧
      engine.WritesBack request path owner { engine with tree, memory } := by
  obtain ⟨path, old, value, read, seen, declared, written, rfl⟩ := writeTree_eq_ok_iff.mp done
  have declares : (engine.tree.context? owner request.contextId).isSome := by rw [declared]; rfl
  have rewrites := Tree.rewrites_withContext sound.tree declares value
  have sameOwners := rewrites.owner? sound.tree (sound.tree.withContext _ _) declares
  have wherever : ∀ node,
      (engine.tree.withContext owner ⟨request.contextId, value⟩).owner? node request.contextId =
        some owner →
      evaluateOn
        { engine with tree := engine.tree.withContext owner ⟨request.contextId, value⟩, memory }
        node (.expr (.binding (.key request.contextId :: path))) = request.value :=
    fun node sees => evaluateOn_binding sees rewrites.rewritten (Value.lookup?_of_write? written)
  exact ⟨path, read, {
    nearest := Tree.isNearest_of_owner? sound.tree seen
    rewrites := ⟨old, value, declared, written, rewrites⟩
    owner? := sameOwners
    atOrigin := wherever request.origin ((sameOwners _ _).trans seen)
    wherever
    subscriptions := rfl
    registry := rfl
    settings := rfl }⟩

/-- If no listener that a write calls asks for anything, a write that is done goes into the context
of the nearest node that declares the name; from there on a read finds the value that was written,
and everything else is as it was.  A write fails for want of a context exactly if its path can be
read and nobody at or above its origin declares the name, and it is done exactly if the policy
allows its path in the value that the nearest of them declares. -/
theorem writes_and_reads_back (reached : Reached listen engine)
    (silent : ∀ call ∈ engine.performCalls listen (.write request), call.effects = []) :
    let step := engine.write listen request
    (∀ written, step.answer = .ok written → ∃ path, Path.read request.path = .ok path ∧
      engine.WritesBack request path written.owner step.engine) ∧
    (∀ owner, (∃ notified, step.answer = .ok ⟨owner, notified⟩) ↔
      ∃ path old, Path.read request.path = .ok path ∧
        engine.tree.IsNearest request.origin request.contextId owner ∧
        engine.tree.context? owner request.contextId = some old ∧
        (Value.write? (request.policy.getD engine.settings.defaultPolicy) path request.value
          old.value).isSome) ∧
    (step.answer = .error (.targetMissing request.contextId request.origin) ↔
      (∃ path, Path.read request.path = .ok path) ∧
        ∀ above, engine.tree.IsBelow request.origin above →
          engine.tree.context? above request.contextId = none) ∧
    ∀ name node, step.answer = .error (.targetMissing name node) →
      name = request.contextId ∧ node = request.origin := by
  intro step
  have sound := reached.sound
  refine ⟨fun written done => ?_, fun owner => answer_write_eq_ok_iff sound, ?_,
    fun name node missing => ?_⟩
  · obtain ⟨tree, memory, result, after⟩ := write_of_silent silent done
    rw [after]
    exact sound.writesBack result memory
  · rw [answer_write_eq_error_iff, writeTree_eq_targetMissing_iff sound]
  · exact targetMissing_of_writeTree (answer_write_eq_error_iff.mp missing)

/-- Three nodes in a line of which the upper two declare one name, and a node beside the lowest
one. -/
theorem writes_and_reads_back_shadowed :
    let top : NodeId := ⟨0, 0⟩
    let middle : NodeId := ⟨1, 0⟩
    let low : NodeId := ⟨2, 0⟩
    let beside : NodeId := ⟨3, 0⟩
    let listen : Listen Unit Unit := fun _ _ memory => ([], memory)
    let start : Engine Unit Unit := Engine.new {} ()
    let engine := start.run listen
      [.attach none, .attach (some top), .attach (some middle), .attach (some top),
        .declare top ⟨"c", .object []⟩, .declare middle ⟨"c", .null⟩, .declare middle ⟨"d", .null⟩,
        .bind low "c.a" (), .bind beside "c.a" ()]
    let request : WriteRequest := ⟨low, "c", "a[1].b", .bool true, none⟩
    let astray : WriteRequest := ⟨beside, "d", "a", .null, none⟩
    let step := engine.write listen request
    let path : Path := [.key "a", .index 1, .key "b"]
    Reached listen engine ∧
      (engine.performCalls listen (.write request)).map Call.effects = [[]] ∧
      step.answer = .ok ⟨middle, 1⟩ ∧ engine.WritesBack request path middle step.engine ∧
      step.engine.tree.context? top "c" = some ⟨"c", .object []⟩ ∧
      (engine.write listen astray).answer = .error (.targetMissing "d" beside) ∧
      ∀ above, engine.tree.IsBelow beside above → engine.tree.context? above "d" = none := by
  intro top middle low beside listen start engine request astray step path
  have reached : Reached listen engine := (Reached.new {} ()).run _
  have effects : (engine.performCalls listen (.write request)).map Call.effects = [[]] := by
    decide +kernel
  have silent : ∀ call ∈ engine.performCalls listen (.write request), call.effects = [] :=
    fun call member => List.mem_singleton.mp (effects ▸ List.mem_map_of_mem member)
  have answer : step.answer = .ok ⟨middle, 1⟩ := by decide +kernel
  have unseen : (engine.write listen astray).answer = .error (.targetMissing "d" beside) := by
    decide +kernel
  have noCalls : engine.performCalls listen (.write astray) = [] := by
    rw [performCalls, answer_write_eq_error_iff.mp unseen]
  obtain ⟨done, -⟩ := writes_and_reads_back reached silent
  have silentAstray : ∀ call ∈ engine.performCalls listen (.write astray), call.effects = [] :=
    fun call member => absurd (noCalls ▸ member) List.not_mem_nil
  obtain ⟨-, -, missing, -⟩ := writes_and_reads_back reached silentAstray
  obtain ⟨read, isRead, back⟩ := done ⟨middle, 1⟩ answer
  have samePath : Path.read request.path = .ok path := by decide +kernel
  cases samePath.symm.trans isRead
  obtain ⟨old, value, -, -, rewrites⟩ := back.rewrites
  refine ⟨reached, effects, answer, back, ?_, unseen, (missing.mp unseen).2⟩
  rw [rewrites.context? top "c" (.inl (by decide))]
  decide +kernel

end Engine

end LiveBinding
