import LiveBinding.Proofs.Context.Detachment
import LiveBinding.Proofs.Context.Histories
import LiveBinding.Proofs.Engine.Soundness

/-!
# Detaching in an engine

An engine that detaches a node ends the subscriptions on the nodes that are gone.  Every other
subscription lives on, and has the value that it had.
-/

namespace LiveBinding

namespace Engine

variable {κ σ : Type} {engine : Engine κ σ} {listen : Listen κ σ}

/-- The engines that can be reached by requests, while operations are registered and dropped. -/
inductive Reached (listen : Listen κ σ) : Engine κ σ → Prop where
  | new (settings : Settings) (memory : σ) : Reached listen (new settings memory)
  | perform {engine : Engine κ σ} (request : Request κ) :
      Reached listen engine → Reached listen (engine.perform listen request).engine
  | register {engine : Engine κ σ} (name : String) (operation : Operation) :
      Reached listen engine → Reached listen (engine.register name operation).engine
  | unregister {engine : Engine κ σ} (name : String) :
      Reached listen engine → Reached listen (engine.unregister name).engine

theorem Reached.run (reached : Reached listen engine) (requests : List (Request κ)) :
    Reached listen (engine.run listen requests) := by
  induction requests generalizing engine with
  | nil => exact reached
  | cons request rest ih => exact ih (reached.perform request)

/-- The operations have no part in whether an engine is sound. -/
theorem Sound.withRegistry (sound : engine.Sound) (registry : Registry) :
    Sound { engine with registry } :=
  ⟨sound.tree, sound.store, sound.onNodes, sound.readable⟩

theorem Reached.sound (reached : Reached listen engine) : engine.Sound := by
  induction reached with
  | new settings memory => exact Sound.initial settings .empty memory
  | perform request _ sound => exact sound.perform listen request
  | register name operation _ sound =>
      unfold Engine.register
      split
      · exact sound
      · exact sound.withRegistry _
  | unregister name _ sound => exact sound.withRegistry _

/-- What the removal of some nodes does to the subscriptions of an engine. -/
structure Releases (before : Engine κ σ) (removed : List NodeId) (after : Engine κ σ) : Prop where
  /-- Those on the nodes end, and no others. -/
  get? : ∀ id subscription, after.subscriptions.get? id = some subscription ↔
    before.subscriptions.get? id = some subscription ∧ subscription.node ∉ removed
  /-- Those that live on have the values that they had. -/
  evaluateOn : ∀ id subscription, after.subscriptions.get? id = some subscription →
    after.evaluateOn subscription.node subscription.watched =
      before.evaluateOn subscription.node subscription.watched

theorem Sound.releases (sound : engine.Sound) (node : NodeId) :
    engine.Releases (engine.tree.subtree node) (engine.detach node).engine where
  get? _ _ := Subscriptions.get?_removeOn_eq_some_iff sound.store
  evaluateOn _ _ found := evaluateOn_detach sound found

/-- In a tree that commands made, what is removed with a node is its subtree in pre-order, and the
rest of the tree and all that is seen in it stay as they were.  In an engine the subscriptions on
the nodes that are gone end, and all others keep their values. -/
theorem detaches_and_releases :
    (∀ commands id,
      let tree := (Tree.empty.run commands).tree
      tree.contains id = true →
        tree.Detaches id (tree.subtree id) (tree.detach id).2 ∧
          (tree.detach id).1 = tree.subtree id) ∧
    ∀ {κ σ : Type} (listen : Listen κ σ) (engine : Engine κ σ) (id : NodeId),
      Reached listen engine → engine.tree.contains id = true →
        let step := engine.detach id
        engine.tree.Detaches id (engine.tree.subtree id) step.engine.tree ∧
          step.answer = (engine.tree.subtree id).length ∧
          engine.Releases (engine.tree.subtree id) step.engine := by
  constructor
  · intro commands id tree live
    have sound : tree.WellFormed := Tree.WellFormed.empty.run commands
    exact ⟨Tree.WellFormed.detaches sound live, rfl⟩
  · intro κ σ listen engine id reached live step
    have sound := reached.sound
    exact ⟨Tree.WellFormed.detaches sound.tree live, rfl, sound.releases id⟩

/-- A node with two levels below it, one of them in a slot that was used before, and two listeners,
one on the node and one beside it. -/
theorem detaches_and_releases_middle :
    let root : NodeId := ⟨0, 0⟩
    let middle : NodeId := ⟨1, 0⟩
    let beside : NodeId := ⟨2, 0⟩
    let tree := (Tree.empty.run [.attach none, .attach (some root), .attach (some root),
      .attach (some middle), .detach ⟨3, 0⟩, .attach (some middle), .attach (some ⟨3, 1⟩)]).tree
    let listen : Listen Unit Unit := fun _ _ memory => ([], memory)
    let engine := (Engine.new {} () : Engine Unit Unit).run listen
      [.attach none, .attach (some root), .attach (some root), .declare root ⟨"c", .bool true⟩,
        .bind middle "c" (), .bind beside "c" ()]
    (tree.contains middle = true ∧
        tree.Detaches middle (tree.subtree middle) (tree.detach middle).2 ∧
        (tree.detach middle).1 = [middle, ⟨3, 1⟩, ⟨4, 0⟩] ∧
        (tree.detach middle).2.children root = [beside]) ∧
      Reached listen engine ∧ engine.tree.contains middle = true ∧
        engine.Releases [middle] (engine.detach middle).engine ∧
        (engine.detach middle).engine.subscriptions.live.map (·.1) = [⟨2⟩] := by
  intro root middle beside tree listen engine
  have treeLive : tree.contains middle = true := by decide +kernel
  have engineLive : engine.tree.contains middle = true := by decide +kernel
  have reached : Reached listen engine := (Reached.new {} ()).run _
  obtain ⟨detaches, removed⟩ := detaches_and_releases.1 _ middle treeLive
  obtain ⟨-, -, releases⟩ := detaches_and_releases.2 listen engine middle reached engineLive
  have only : engine.tree.subtree middle = [middle] := by decide +kernel
  rw [only] at releases
  have left : (tree.detach middle).2.children root = [beside] := by decide +kernel
  have living : (engine.detach middle).engine.subscriptions.live.map (·.1) = [⟨2⟩] := by
    decide +kernel
  exact ⟨⟨treeLive, detaches, removed.trans (by decide +kernel), left⟩, reached, engineLive,
    releases, living⟩

end Engine

end LiveBinding
