import LiveBinding.Proofs.Context.Preservation
import LiveBinding.Value.Write
import Mathlib.Algebra.Ring.Nat
import Mathlib.Data.List.Chain

/-!
# Histories of a tree

A tree comes into being by commands, one after the other, each of which may fail.  A history keeps
the tree at its end, the handles that were given out on the way, and the handles that are gone.
After every history the nodes form a forest: parents and children say the same of each other, every
line of parents ends at a root, and there are as many nodes as were attached and not detached.
-/

namespace LiveBinding.Tree

variable {tree before after : Tree} {id : NodeId}

/-! ### Commands -/

/-- What can be asked of a tree. -/
inductive Command where
  | attach (parent : Option NodeId)
  | detach (node : NodeId)
  | declare (node : NodeId) (context : Context)
  | removeContext (node : NodeId) (name : String)
  /-- Write at a path in the value of a declared context. -/
  | write (node : NodeId) (name : String) (policy : WritePolicy) (path : Path) (value : Value)
  | setImplicit (node : NodeId) (sender : SenderId) (context : Context)
  | clearImplicit (sender : SenderId)
  deriving DecidableEq

/-- The tree to which commands led, the handles that they gave out, and the handles that they took
back, each in order. -/
structure History where
  tree : Tree
  attached : List NodeId := []
  detached : List NodeId := []

/-- Carry out a command.  One that fails leaves the tree as it is. -/
def perform (tree : Tree) : Command → History
  | .attach parent =>
    match tree.attach parent with
    | .error _ => { tree }
    | .ok (id, after) => { tree := after, attached := [id] }
  | .detach node =>
    let (removed, after) := tree.detach node
    { tree := after, detached := removed }
  | .declare node context =>
    match tree.declare node context with
    | .error _ => { tree }
    | .ok (_, after) => { tree := after }
  | .removeContext node name =>
    match tree.removeContext node name with
    | none => { tree }
    | some (_, after) => { tree := after }
  | .write node name policy path value =>
    match tree.writeContext node name (Value.write? policy path value) with
    | none => { tree }
    | some after => { tree := after }
  | .setImplicit node sender context =>
    match tree.setImplicit node sender context with
    | .error _ => { tree }
    | .ok after => { tree := after }
  | .clearImplicit sender => { tree := tree.clearImplicit sender }

/-- Carry out commands one after the other. -/
def run : Tree → List Command → History
  | tree, [] => { tree }
  | tree, command :: rest =>
    let first := tree.perform command
    let later := run first.tree rest
    ⟨later.tree, first.attached ++ later.attached, first.detached ++ later.detached⟩

/-- The changes of what nodes hold. -/
inductive Edit : Tree → Tree → Prop where
  | idle (tree : Tree) : Edit tree tree
  | put (tree : Tree) (id : NodeId) (context : Context) : Edit tree (tree.withContext id context)
  | take (tree : Tree) (id : NodeId) (name : String) : Edit tree (tree.withoutContext id name)
  | setImplicit {tree after : Tree} {id : NodeId} {sender : SenderId} {context : Context} :
      tree.setImplicit id sender context = .ok after → Edit tree after
  | clearImplicit (tree : Tree) (sender : SenderId) : Edit tree (tree.clearImplicit sender)

/-- A command attaches a node below a known parent, or takes a subtree away, or changes what a node
holds. -/
theorem perform_cases (tree : Tree) (command : Command) :
    (∃ parent, (∀ above, parent = some above → tree.contains above = true) ∧
      tree.perform command = ⟨tree.grown parent, [tree.nextHandle], []⟩) ∨
    (∃ id, tree.perform command = ⟨(tree.detach id).2, [], tree.subtree id⟩) ∨
    ∃ after, Edit tree after ∧ tree.perform command = { tree := after } := by
  cases command with
  | attach parent =>
      rw [perform]
      cases done : tree.attach parent with
      | error => exact .inr (.inr ⟨tree, .idle tree, rfl⟩)
      | ok result =>
          obtain ⟨known, rfl⟩ := attach_eq_ok_iff.mp done
          exact .inl ⟨parent, known, rfl⟩
  | detach node => exact .inr (.inl ⟨node, rfl⟩)
  | declare node context =>
      right
      right
      rw [perform]
      cases done : tree.declare node context with
      | error => exact ⟨tree, .idle tree, rfl⟩
      | ok result =>
          obtain ⟨-, rfl⟩ := declare_eq_ok_iff.mp done
          exact ⟨_, .put tree node context, rfl⟩
  | removeContext node name =>
      right
      right
      rw [perform]
      cases done : tree.removeContext node name with
      | none => exact ⟨tree, .idle tree, rfl⟩
      | some result =>
          obtain ⟨-, result⟩ := removeContext_eq_some_iff.mp done
          exact ⟨_, .take tree node name, by rw [← result]⟩
  | write node name policy path value =>
      right
      right
      rw [perform]
      cases done : tree.writeContext node name (Value.write? policy path value) with
      | none => exact ⟨tree, .idle tree, rfl⟩
      | some after =>
          obtain ⟨-, written, -, -, rfl⟩ := writeContext_eq_some_iff.mp done
          exact ⟨_, .put tree node ⟨name, written⟩, rfl⟩
  | setImplicit node sender context =>
      right
      right
      rw [perform]
      cases done : tree.setImplicit node sender context with
      | error => exact ⟨tree, .idle tree, rfl⟩
      | ok after => exact ⟨after, .setImplicit done, rfl⟩
  | clearImplicit sender => exact .inr (.inr ⟨_, .clearImplicit tree sender, rfl⟩)

/-! ### The number of nodes -/

/-- The number of nodes depends on which slots are empty, and on nothing else in them. -/
theorem size_congr (same : after.slots.map (·.node.isSome) = before.slots.map (·.node.isSome)) :
    after.size = before.size := by
  have counted : ∀ tree : Tree, tree.size = (tree.slots.map (·.node.isSome)).countP id := by
    intro tree
    rw [List.countP_map]
    rfl
  rw [counted, counted, same]

@[simp] theorem size_modifyNode (tree : Tree) (id : NodeId) (change : Node → Node) :
    (tree.modifyNode id change).size = tree.size := by
  refine size_congr (List.ext_getElem? fun index => ?_)
  unfold modifyNode
  split
  · simp only [List.getElem?_map, List.getElem?_modify]
    cases tree.slots[index]? with
    | none => rfl
    | some slot => by_cases here : id.index = index <;> simp [here]
  · rfl

@[simp] theorem size_clearImplicit (tree : Tree) (sender : SenderId) :
    (tree.clearImplicit sender).size = tree.size := by
  refine size_congr ?_
  simp [clearImplicit]

theorem size_release (live : tree.contains id = true) :
    (tree.release id).size + 1 = tree.size := by
  obtain ⟨node, reached⟩ := contains_iff.mp live
  have found := node?_eq_some_iff.mp reached
  obtain ⟨inside, here⟩ := List.getElem?_eq_some_iff.mp found
  have counted : 0 < tree.slots.countP (·.node.isSome) :=
    List.countP_pos_iff.mpr ⟨_, List.getElem_mem inside, by rw [here]; rfl⟩
  rw [release, size, size, List.modify_eq_set_getElem?, found]
  simp only [Option.map_eq_map, Option.map_some, Option.getD_some, List.countP_set inside, here]
  simp only [Option.isSome_some, if_true, Option.isSome_none]
  simp only [Bool.false_eq_true, if_false, Nat.add_zero]
  omega

/-- Emptying the slots of some nodes, each once, takes away as many nodes. -/
theorem size_releaseAll (removed : List NodeId) (tree : Tree)
    (distinct : (removed.map NodeId.index).Nodup)
    (live : ∀ id ∈ removed, tree.contains id = true) :
    (removed.foldl release tree).size + removed.length = tree.size := by
  induction removed generalizing tree with
  | nil => rfl
  | cons id rest ih =>
      rw [List.map_cons, List.nodup_cons] at distinct
      have stillLive : ∀ other ∈ rest, (tree.release id).contains other = true := by
        intro other member
        have apart : ¬other.index = id.index := by
          intro same
          exact distinct.1 (same ▸ List.mem_map_of_mem member)
        rw [contains, node?_release, if_neg apart]
        exact live other (List.mem_cons_of_mem id member)
      have first := size_release (live id List.mem_cons_self)
      have others := ih (tree.release id) distinct.2 stillLive
      rw [List.foldl_cons, List.length_cons]
      omega

@[simp] theorem size_enlist (tree : Tree) (parent : Option NodeId) (id : NodeId) :
    (tree.enlist parent id).size = tree.size := by
  cases parent with
  | none => rfl
  | some above => exact size_modifyNode tree above _

theorem size_unlink (tree : Tree) (id : NodeId) : (tree.unlink id).size = tree.size := by
  unfold unlink
  split
  · rfl
  · exact size_modifyNode tree _ _

theorem contains_unlink (tree : Tree) (id other : NodeId) :
    (tree.unlink id).contains other = tree.contains other := by
  unfold unlink
  split
  · rfl
  · exact contains_modifyNode tree _ other _

/-- Detaching takes away the nodes of a subtree. -/
theorem size_detach (sound : tree.WellFormed) (id : NodeId) :
    (tree.detach id).2.size + (tree.subtree id).length = tree.size := by
  have live : ∀ other ∈ tree.subtree id, (tree.unlink id).contains other = true := by
    intro other member
    rw [contains_unlink]
    exact sound.contains_of_mem_subtree member
  have distinct : ((tree.subtree id).map NodeId.index).Nodup :=
    (sound.subtree_nodup id).map_on fun left leftMember right rightMember same =>
      eq_of_index_eq (sound.contains_of_mem_subtree leftMember)
        (sound.contains_of_mem_subtree rightMember) same
  rw [detach, size_releaseAll _ _ distinct live, size_unlink]

/-- Attaching adds one node. -/
theorem size_grown (sound : tree.WellFormed) (parent : Option NodeId) :
    (tree.grown parent).size = tree.size + 1 := by
  rw [grown, size_enlist]
  cases free : tree.free with
  | nil => simp [place, free, size, List.countP_append]
  | cons index rest =>
      obtain ⟨generation, found⟩ := sound.freeAreEmpty index (by simp [free])
      obtain ⟨inside, here⟩ := List.getElem?_eq_some_iff.mp found
      simp [place, free, size, List.countP_set inside, here]

/-! ### Edits -/

theorem WellFormed.edit (sound : before.WellFormed) (edit : Edit before after) :
    after.WellFormed := by
  cases edit with
  | idle => exact sound
  | put id context => exact sound.withContext id context
  | take id name => exact sound.withoutContext id name
  | setImplicit done => exact sound.setImplicit done
  | clearImplicit sender => exact sound.clearImplicit sender

/-- An edit changes one node at most, or drops implicit contexts. -/
theorem edit_cases (edit : Edit before after) :
    after = before ∨ (∃ id change, after = before.modifyNode id change) ∨
      ∃ sender, after = before.clearImplicit sender := by
  cases edit with
  | idle => exact .inl rfl
  | put | take => exact .inr (.inl ⟨_, _, rfl⟩)
  | setImplicit done =>
      unfold Tree.setImplicit at done
      split at done
      · cases done
        exact .inr (.inl ⟨_, _, rfl⟩)
      · contradiction
  | clearImplicit sender => exact .inr (.inr ⟨sender, rfl⟩)

theorem size_edit (edit : Edit before after) : after.size = before.size := by
  obtain rfl | ⟨id, change, rfl⟩ | ⟨sender, rfl⟩ := edit_cases edit
  · rfl
  · exact size_modifyNode before id change
  · exact size_clearImplicit before sender

theorem slots_length_edit (edit : Edit before after) :
    after.slots.length = before.slots.length := by
  obtain rfl | ⟨id, change, rfl⟩ | ⟨sender, rfl⟩ := edit_cases edit
  · rfl
  · exact slots_length_modifyNode before id change
  · exact List.length_map _

/-! ### Whole histories -/

theorem WellFormed.perform (sound : tree.WellFormed) (command : Command) :
    (tree.perform command).tree.WellFormed := by
  obtain ⟨parent, known, result⟩ | ⟨id, result⟩ | ⟨after, edit, result⟩ :=
    tree.perform_cases command
  all_goals rw [result]
  · exact sound.grown known
  · exact sound.detach id
  · exact sound.edit edit

/-- Commands keep trees well formed. -/
theorem WellFormed.run (sound : tree.WellFormed) (commands : List Command) :
    (tree.run commands).tree.WellFormed := by
  induction commands generalizing tree with
  | nil => exact sound
  | cons command rest ih => exact ih (sound.perform command)

theorem size_perform (sound : tree.WellFormed) (command : Command) :
    (tree.perform command).tree.size + (tree.perform command).detached.length =
      tree.size + (tree.perform command).attached.length := by
  obtain ⟨parent, known, result⟩ | ⟨id, result⟩ | ⟨after, edit, result⟩ :=
    tree.perform_cases command
  all_goals rw [result]
  · exact size_grown sound parent
  · exact size_detach sound id
  · exact size_edit edit

/-- The nodes at the end of a history are those at its beginning, with the ones that were attached
and without the ones that were detached. -/
theorem size_run (sound : tree.WellFormed) (commands : List Command) :
    (tree.run commands).tree.size + (tree.run commands).detached.length =
      tree.size + (tree.run commands).attached.length := by
  induction commands generalizing tree with
  | nil => rfl
  | cons command rest ih =>
      have first := size_perform sound command
      have later := ih (sound.perform command)
      simp only [run, List.length_append]
      omega

/-- Attaching adds a slot at most. -/
theorem slots_length_grown (tree : Tree) (parent : Option NodeId) :
    (tree.grown parent).slots.length ≤ tree.slots.length + 1 := by
  have placed : (tree.place { parent }).slots.length ≤ tree.slots.length + 1 := by
    cases free : tree.free <;> simp [place, free]
  unfold grown
  cases parent with
  | none => exact placed
  | some above => rwa [enlist, slots_length_modifyNode]

theorem slots_length_detach (tree : Tree) (id : NodeId) :
    (tree.detach id).2.slots.length = tree.slots.length := by
  have released : ∀ (removed : List NodeId) (tree : Tree),
      (removed.foldl release tree).slots.length = tree.slots.length := by
    intro removed
    induction removed with
    | nil => exact fun _ => rfl
    | cons first rest ih =>
        intro tree
        rw [List.foldl_cons, ih, slots_length_release]
  rw [detach, released, slots_length_unlink]

theorem slots_length_perform (tree : Tree) (command : Command) :
    (tree.perform command).tree.slots.length ≤
      tree.slots.length + (tree.perform command).attached.length := by
  obtain ⟨parent, known, result⟩ | ⟨id, result⟩ | ⟨after, edit, result⟩ :=
    tree.perform_cases command
  all_goals rw [result]
  · exact slots_length_grown tree parent
  · exact Nat.le_of_eq (slots_length_detach tree id)
  · exact Nat.le_of_eq (slots_length_edit edit)

/-- There is a slot for each node that was attached at most. -/
theorem slots_length_run (tree : Tree) (commands : List Command) :
    (tree.run commands).tree.slots.length ≤
      tree.slots.length + (tree.run commands).attached.length := by
  induction commands generalizing tree with
  | nil => exact Nat.le_refl _
  | cons command rest ih =>
      have first := tree.slots_length_perform command
      have later := ih (tree.perform command).tree
      simp only [run, List.length_append]
      omega

/-! ### The forest -/

/-- The line of nodes from a node up to a root: each is the parent of the one before it, and none
comes twice. -/
structure IsLineToRoot (tree : Tree) (id : NodeId) (line : List NodeId) : Prop where
  first : line.head? = some id
  linked : line.IsChain fun below above => tree.parent? below = some above
  nodup : line.Nodup
  last : ∃ root, line.getLast? = some root ∧ tree.parent? root = none

/-- What slots, parents and children say of each other, and where walks along them end. -/
structure IsForest (tree : Tree) : Prop where
  /-- The numbers that are kept for the next nodes are those of the empty slots, each once. -/
  free_nodup : tree.free.Nodup
  mem_free : ∀ index, index ∈ tree.free ↔ tree.IsEmptySlot index
  parent_lists : ∀ id parent, tree.parent? id = some parent →
    tree.contains parent = true ∧ (tree.children parent).count id = 1
  child_points : ∀ id child, child ∈ tree.children id →
    tree.contains child = true ∧ tree.parent? child = some id ∧ (tree.children id).count child = 1
  /-- The walk upward from a node comes to a root. -/
  ancestors : ∀ id, tree.contains id = true → tree.IsLineToRoot id (tree.ancestors id)
  /-- The walk downward from a node takes in whole subtrees, and no node twice. -/
  subtree : ∀ id, tree.contains id = true →
    tree.subtree id = id :: (tree.children id).flatMap tree.subtree ∧ (tree.subtree id).Nodup
  declared_nodup : ∀ id, ((tree.declared id).map Context.id).Nodup
  implicits_nodup : ∀ id node, tree.node? id = some node → (node.implicits.map Prod.fst).Nodup

/-- The ancestors of a node are the line of its parents up to a root. -/
theorem WellFormed.isLineToRoot (sound : tree.WellFormed) (live : tree.contains id = true) :
    tree.IsLineToRoot id (tree.ancestors id) := by
  have nodup : ∀ id, (tree.ancestors id).Nodup := sound.ancestorsWithin_nodup _
  induction id using sound.induction with
  | step id ih =>
      cases pointer : tree.parent? id with
      | none =>
          rw [sound.ancestors_of_root live pointer]
          exact ⟨rfl, .singleton id, List.nodup_singleton id, id, rfl, pointer⟩
      | some parent =>
          obtain ⟨first, linked, -, root, last, top⟩ :=
            ih parent pointer (sound.contains_parent pointer)
          have whole := sound.ancestors_of_child pointer
          refine ⟨by rw [whole]; rfl, ?_, nodup id, root, ?_, top⟩
          · rw [whole, List.isChain_cons]
            refine ⟨fun above isFirst => ?_, linked⟩
            rw [first] at isFirst
            cases isFirst
            exact pointer
          · rw [whole, List.getLast?_cons, last]
            rfl

theorem WellFormed.isForest (sound : tree.WellFormed) : tree.IsForest where
  free_nodup := sound.free_nodup
  mem_free := sound.mem_free
  parent_lists id parent pointer :=
    ⟨sound.contains_parent pointer,
      List.count_eq_one_of_mem (sound.children_nodup parent) ((sound.linked parent id).mpr pointer)⟩
  child_points id child listed :=
    ⟨sound.contains_child listed, sound.parent?_of_mem_children listed,
      List.count_eq_one_of_mem (sound.children_nodup id) listed⟩
  ancestors id live := sound.isLineToRoot live
  subtree id live := by
    obtain ⟨node, reached⟩ := contains_iff.mp live
    rw [children_eq reached]
    exact ⟨sound.subtree_eq reached, sound.subtree_nodup id⟩
  declared_nodup := sound.declared_nodup
  implicits_nodup := sound.implicits_nodup

/-- After every history in which fewer than `2 ^ 32` nodes were attached the tree is a forest, its
nodes are as many as were attached without those that were detached, and all its slots have numbers
of 32 bits. -/
theorem isForest_run (commands : List Command) :
    let history := empty.run commands
    history.attached.length < 2 ^ 32 →
      history.tree.IsForest ∧
        history.tree.size + history.detached.length = history.attached.length ∧
          ∀ index < history.tree.slots.length, index < 2 ^ 32 := by
  intro history few
  have balance := size_run .empty commands
  have slots := empty.slots_length_run commands
  have nothing : empty.size = 0 ∧ empty.slots.length = 0 := ⟨rfl, rfl⟩
  refine ⟨(WellFormed.empty.run commands).isForest, ?_, fun index inside => ?_⟩
  · change history.tree.size + history.detached.length = empty.size + history.attached.length
      at balance
    omega
  · change history.tree.slots.length ≤ empty.slots.length + history.attached.length at slots
    omega

/-- A slot is used again for a node below another one than before. -/
theorem isForest_run_reused :
    let history := empty.run [.attach none, .attach (some ⟨0, 0⟩), .attach (some ⟨1, 0⟩),
      .detach ⟨1, 0⟩, .attach (some ⟨1, 0⟩), .attach (some ⟨0, 0⟩)]
    history.attached.length < 2 ^ 32 ∧ history.tree.IsForest ∧ history.tree.size = 2 ∧
      history.tree.children ⟨0, 0⟩ = [⟨2, 1⟩] ∧ history.tree.free = [1] := by
  intro history
  have few : history.attached.length < 2 ^ 32 := by decide +kernel
  obtain ⟨forest, balance, -⟩ := isForest_run _ few
  exact ⟨few, forest, by decide +kernel, by decide +kernel, by decide +kernel⟩

end LiveBinding.Tree
