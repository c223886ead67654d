import LiveBinding.Context.Tree

/-!
# What the operations of the arena do to the nodes

Scopes and subtrees look at a tree only through `Tree.node?` and the number of its slots.  Each
operation is described here by the nodes that handles reach after it, so that no later proof opens
a slot again.
-/

namespace LiveBinding.Tree

variable {tree : Tree} {id other : NodeId} {node : Node}

/-! ### Handles -/

theorem node?_eq_some_iff :
    tree.node? id = some node ↔ tree.slots[id.index]? = some ⟨id.generation, some node⟩ := by
  unfold node?
  constructor
  · intro reached
    obtain ⟨slot, found, reached⟩ := Option.bind_eq_some_iff.mp reached
    split at reached
    · next same => rw [found, ← same, ← reached]
    · contradiction
  · intro found
    simp [found]

theorem contains_iff : tree.contains id = true ↔ ∃ node, tree.node? id = some node :=
  Option.isSome_iff_exists

theorem contains_of_node? (reached : tree.node? id = some node) : tree.contains id = true :=
  contains_iff.mpr ⟨node, reached⟩

theorem node?_eq_none_of_not_contains (absent : ¬tree.contains id = true) :
    tree.node? id = none := by
  simpa [contains] using absent

/-- One slot is reached by one handle at most. -/
theorem eq_of_index_eq (left : tree.contains id = true) (right : tree.contains other = true)
    (same : id.index = other.index) : id = other := by
  obtain ⟨leftNode, leftReached⟩ := contains_iff.mp left
  obtain ⟨rightNode, rightReached⟩ := contains_iff.mp right
  rw [node?_eq_some_iff] at leftReached rightReached
  rw [same, rightReached] at leftReached
  cases id
  cases other
  simp_all

theorem index_lt_of_contains (live : tree.contains id = true) :
    id.index < tree.slots.length := by
  obtain ⟨node, reached⟩ := contains_iff.mp live
  exact (List.getElem?_eq_some_iff.mp (node?_eq_some_iff.mp reached)).1

/-! ### The parts of a node -/

theorem parent?_eq_some_iff {parent : NodeId} :
    tree.parent? id = some parent ↔
      ∃ node, tree.node? id = some node ∧ node.parent = some parent :=
  Option.bind_eq_some_iff

theorem contains_of_parent? {parent : NodeId} (below : tree.parent? id = some parent) :
    tree.contains id = true := by
  obtain ⟨node, reached, -⟩ := parent?_eq_some_iff.mp below
  exact contains_of_node? reached

theorem children_eq (reached : tree.node? id = some node) : tree.children id = node.children := by
  simp [children, reached]

theorem contains_of_mem_children {child : NodeId} (listed : child ∈ tree.children id) :
    tree.contains id = true := by
  unfold children at listed
  cases reached : tree.node? id with
  | none => simp [reached] at listed
  | some node => exact contains_of_node? reached

theorem declared_eq (reached : tree.node? id = some node) : tree.declared id = node.contexts := by
  simp [declared, reached]

theorem declared_eq_nil (absent : ¬tree.contains id = true) : tree.declared id = [] := by
  simp [declared, node?_eq_none_of_not_contains absent]

/-! ### Changing a node -/

@[simp] theorem slots_length_modifyNode (tree : Tree) (id : NodeId) (change : Node → Node) :
    (tree.modifyNode id change).slots.length = tree.slots.length := by
  unfold modifyNode
  split <;> simp

@[simp] theorem free_modifyNode (tree : Tree) (id : NodeId) (change : Node → Node) :
    (tree.modifyNode id change).free = tree.free := by
  unfold modifyNode
  split <;> rfl

/-- A change of a node reaches this node and no other one. -/
theorem node?_modifyNode (tree : Tree) (id other : NodeId) (change : Node → Node) :
    (tree.modifyNode id change).node? other =
      if other = id then (tree.node? id).map change else tree.node? other := by
  unfold modifyNode
  split
  · next live =>
      obtain ⟨node, reached⟩ := contains_iff.mp live
      have found := node?_eq_some_iff.mp reached
      by_cases same : other.index = id.index
      · by_cases sameHandle : other = id
        · subst sameHandle
          simp [node?, found]
        · have different : ¬id.generation = other.generation := by
            intro equal
            apply sameHandle
            cases other
            cases id
            simp_all
          simp [node?, same, found, sameHandle, different]
      · have sameHandle : ¬other = id := fun equal => same (congrArg NodeId.index equal)
        have notIndex : ¬id.index = other.index := fun equal => same equal.symm
        simp [node?, sameHandle, notIndex]
  · next absent =>
      split
      · next same => rw [same, node?_eq_none_of_not_contains absent, Option.map_none]
      · rfl

@[simp] theorem contains_modifyNode (tree : Tree) (id other : NodeId) (change : Node → Node) :
    (tree.modifyNode id change).contains other = tree.contains other := by
  unfold contains
  rw [node?_modifyNode]
  split
  · next same => rw [same, Option.isSome_map]
  · rfl

/-- A change that leaves a part of the node alone leaves this part of every node alone. -/
theorem node?_modifyNode_map {α : Type} (part : Node → α) (tree : Tree) (id other : NodeId)
    (change : Node → Node) (keeps : ∀ node, part (change node) = part node) :
    ((tree.modifyNode id change).node? other).map part = (tree.node? other).map part := by
  rw [node?_modifyNode]
  split
  · next same =>
      rw [same, Option.map_map]
      congr 1
      funext node
      exact keeps node
  · rfl

theorem parent?_eq_map (tree : Tree) (id : NodeId) :
    tree.parent? id = ((tree.node? id).map Node.parent).join := by
  cases reached : tree.node? id <;> simp [parent?, reached]

theorem children_eq_map (tree : Tree) (id : NodeId) :
    tree.children id = ((tree.node? id).map Node.children).getD [] := by
  cases reached : tree.node? id <;> simp [children, reached]

theorem declared_eq_map (tree : Tree) (id : NodeId) :
    tree.declared id = ((tree.node? id).map Node.contexts).getD [] := by
  cases reached : tree.node? id <;> simp [declared, reached]

theorem parent?_modifyNode {change : Node → Node}
    (keeps : ∀ node, (change node).parent = node.parent) (id other : NodeId) :
    (tree.modifyNode id change).parent? other = tree.parent? other := by
  rw [parent?_eq_map, parent?_eq_map, node?_modifyNode_map _ _ _ _ _ keeps]

theorem declared_modifyNode {change : Node → Node}
    (keeps : ∀ node, (change node).contexts = node.contexts) (id other : NodeId) :
    (tree.modifyNode id change).declared other = tree.declared other := by
  rw [declared_eq_map, declared_eq_map, node?_modifyNode_map _ _ _ _ _ keeps]

/-! ### Emptying slots -/

@[simp] theorem slots_length_release (tree : Tree) (id : NodeId) :
    (tree.release id).slots.length = tree.slots.length := by
  simp [release]

/-- An emptied slot is reached by no handle. -/
theorem node?_release (tree : Tree) (id other : NodeId) :
    (tree.release id).node? other = if other.index = id.index then none else tree.node? other := by
  unfold release node?
  split
  · next same =>
      rw [same]
      cases found : tree.slots[id.index]? with
      | none => simp [found]
      | some slot => simp [found]
  · next different =>
      have notIndex : ¬id.index = other.index := fun equal => different equal.symm
      simp [notIndex]

theorem free_releaseAll (removed : List NodeId) (tree : Tree) :
    (removed.foldl release tree).free = (removed.map NodeId.index).reverse ++ tree.free := by
  induction removed generalizing tree with
  | nil => rfl
  | cons id rest ih =>
      rw [List.foldl_cons, ih]
      simp [release]

/-- After slots were emptied, handles of the others reach what they reached. -/
theorem node?_releaseAll (removed : List NodeId) (tree : Tree) (other : NodeId) :
    (removed.foldl release tree).node? other =
      if other.index ∈ removed.map NodeId.index then none else tree.node? other := by
  induction removed generalizing tree with
  | nil => simp
  | cons id rest ih =>
      rw [List.foldl_cons, ih, node?_release]
      by_cases here : other.index = id.index <;> simp [here]

/-! ### Empty slots -/

/-- Whether a slot is there without a node. -/
def IsEmptySlot (tree : Tree) (index : Nat) : Prop :=
  ∃ generation, tree.slots[index]? = some ⟨generation, none⟩

theorem not_isEmptySlot_of_contains (live : tree.contains id = true) :
    ¬tree.IsEmptySlot id.index := by
  rintro ⟨generation, found⟩
  obtain ⟨node, reached⟩ := contains_iff.mp live
  rw [node?_eq_some_iff, found] at reached
  simp at reached

theorem not_contains_of_isEmptySlot (empty : tree.IsEmptySlot id.index) :
    ¬tree.contains id = true :=
  fun live => not_isEmptySlot_of_contains live empty

/-- A change of a node neither fills nor empties a slot. -/
theorem isEmptySlot_modifyNode (tree : Tree) (id : NodeId) (change : Node → Node) (index : Nat) :
    (tree.modifyNode id change).IsEmptySlot index ↔ tree.IsEmptySlot index := by
  unfold modifyNode IsEmptySlot
  split
  · simp only [List.getElem?_modify]
    cases tree.slots[index]? with
    | none => simp
    | some slot =>
        obtain ⟨generation, content⟩ := slot
        by_cases here : id.index = index
        · cases content <;> simp [here]
        · simp [here]
  · rfl

theorem isEmptySlot_release (tree : Tree) (id : NodeId) (index : Nat) :
    (tree.release id).IsEmptySlot index ↔
      (index = id.index ∧ index < tree.slots.length) ∨ tree.IsEmptySlot index := by
  unfold release IsEmptySlot
  simp only [List.getElem?_modify]
  cases found : tree.slots[index]? with
  | none =>
      have outside : ¬index < tree.slots.length := by
        simpa [List.getElem?_eq_none_iff] using found
      simp [outside]
  | some slot =>
      have inside : index < tree.slots.length := (List.getElem?_eq_some_iff.mp found).1
      by_cases here : id.index = index
      · simp [here, inside]
      · have notIndex : ¬index = id.index := fun equal => here equal.symm
        simp [here, notIndex]

theorem isEmptySlot_releaseAll (removed : List NodeId) (tree : Tree) (index : Nat) :
    (removed.foldl release tree).IsEmptySlot index ↔
      (index ∈ removed.map NodeId.index ∧ index < tree.slots.length) ∨
        tree.IsEmptySlot index := by
  induction removed generalizing tree with
  | nil => simp
  | cons id rest ih =>
      rw [List.foldl_cons, ih, isEmptySlot_release, slots_length_release]
      grind

/-! ### Filling slots -/

/-- The handle that the next node gets. -/
def nextHandle (tree : Tree) : NodeId :=
  match tree.free with
  | [] => ⟨tree.slots.length, 0⟩
  | index :: _ => ⟨index, tree.slots[index]?.elim 0 (·.generation)⟩

/-- The tree with a node under the next handle. -/
def place (tree : Tree) (node : Node) : Tree :=
  match tree.free with
  | [] => { tree with slots := tree.slots ++ [⟨0, some node⟩] }
  | index :: free =>
    ⟨tree.slots.set index ⟨tree.slots[index]?.elim 0 (·.generation), some node⟩, free⟩

/-- Put a node at the end of the list of its parent, if it has one. -/
def enlist (tree : Tree) (parent : Option NodeId) (id : NodeId) : Tree :=
  match parent with
  | none => tree
  | some parent =>
    tree.modifyNode parent fun node => { node with children := node.children ++ [id] }

/-- Attaching fills a slot and puts the new node on the list of its parent. -/
theorem attach_eq (tree : Tree) (parent : Option NodeId) :
    tree.attach parent =
      match parent.filter (!tree.contains ·) with
      | some unknown => .error (.unknownNode unknown)
      | none => .ok (tree.nextHandle, (tree.place { parent }).enlist parent tree.nextHandle) := by
  unfold attach nextHandle place enlist
  cases parent.filter (!tree.contains ·) with
  | some unknown => rfl
  | none => cases tree.free <;> cases parent <;> rfl

/-- The numbers that are kept for the next nodes are those of empty slots. -/
def FreeAreEmpty (tree : Tree) : Prop := ∀ index ∈ tree.free, tree.IsEmptySlot index

theorem not_contains_nextHandle (sound : tree.FreeAreEmpty) :
    ¬tree.contains tree.nextHandle = true := by
  cases free : tree.free with
  | nil =>
      intro live
      have bound := index_lt_of_contains live
      simp [nextHandle, free] at bound
  | cons index rest =>
      have empty := sound index (by simp [free])
      apply not_contains_of_isEmptySlot
      simpa [nextHandle, free] using empty

/-- The next handle reaches the node that was placed, and the other handles what they reached. -/
theorem node?_place (sound : tree.FreeAreEmpty) (node : Node) (other : NodeId) :
    (tree.place node).node? other =
      if other = tree.nextHandle then some node else tree.node? other := by
  cases free : tree.free with
  | nil =>
      simp only [place, nextHandle, free]
      split
      · next same => simp [same, node?]
      · next different =>
          unfold node?
          by_cases inside : other.index < tree.slots.length
          · rw [List.getElem?_append_left inside]
          · by_cases last : other.index = tree.slots.length
            · have generation : ¬0 = other.generation := by
                intro equal
                apply different
                cases other
                simp_all
              simp [last, generation]
            · have outside : tree.slots.length + 1 ≤ other.index := by omega
              rw [List.getElem?_eq_none (by simpa using outside),
                List.getElem?_eq_none (by omega)]
  | cons index rest =>
      obtain ⟨generation, found⟩ := sound index (by simp [free])
      have inside : index < tree.slots.length := (List.getElem?_eq_some_iff.mp found).1
      simp only [place, nextHandle, free, found, Option.elim_some]
      split
      · next same => simp [same, node?, inside]
      · next different =>
          unfold node?
          by_cases here : index = other.index
          · have notGeneration : ¬generation = other.generation := by
              intro equal
              apply different
              cases other
              simp_all
            rw [← here, List.getElem?_set_self inside, found]
            simp [notGeneration]
          · rw [List.getElem?_set_ne here]

theorem isEmptySlot_place (sound : tree.FreeAreEmpty) (node : Node) (index : Nat) :
    (tree.place node).IsEmptySlot index ↔
      tree.IsEmptySlot index ∧ index ≠ tree.nextHandle.index := by
  cases free : tree.free with
  | nil =>
      simp only [place, nextHandle, free, IsEmptySlot]
      by_cases inside : index < tree.slots.length
      · rw [List.getElem?_append_left inside]
        have different : index ≠ tree.slots.length := by omega
        simp [different]
      · have outside : tree.slots[index]? = none := List.getElem?_eq_none (by omega)
        rw [List.getElem?_append_right (by omega), outside]
        cases index - tree.slots.length <;> simp
  | cons taken rest =>
      obtain ⟨generation, found⟩ := sound taken (by simp [free])
      have inside : taken < tree.slots.length := (List.getElem?_eq_some_iff.mp found).1
      simp only [place, nextHandle, free, IsEmptySlot]
      by_cases here : taken = index
      · simp [← here, inside]
      · have different : index ≠ taken := fun equal => here equal.symm
        rw [List.getElem?_set_ne here]
        simp [different]

@[simp] theorem free_enlist (tree : Tree) (parent : Option NodeId) (id : NodeId) :
    (tree.enlist parent id).free = tree.free := by
  cases parent <;> simp [enlist]

theorem isEmptySlot_enlist (tree : Tree) (parent : Option NodeId) (id : NodeId) (index : Nat) :
    (tree.enlist parent id).IsEmptySlot index ↔ tree.IsEmptySlot index := by
  cases parent with
  | none => rfl
  | some parent => exact isEmptySlot_modifyNode tree parent _ index

/-! ### Implicit contexts of a sender -/

theorem node?_clearImplicit (tree : Tree) (sender : SenderId) (id : NodeId) :
    (tree.clearImplicit sender).node? id =
      (tree.node? id).map fun node =>
        { node with implicits := node.implicits.filter (·.1 ≠ sender) } := by
  unfold node? clearImplicit
  rw [List.getElem?_map]
  cases tree.slots[id.index]? with
  | none => rfl
  | some slot =>
      simp only [Option.map_some, Option.bind_some]
      split <;> rfl

theorem isEmptySlot_clearImplicit (tree : Tree) (sender : SenderId) (index : Nat) :
    (tree.clearImplicit sender).IsEmptySlot index ↔ tree.IsEmptySlot index := by
  unfold IsEmptySlot clearImplicit
  rw [List.getElem?_map]
  cases tree.slots[index]? with
  | none => simp
  | some slot =>
      obtain ⟨generation, content⟩ := slot
      cases content <;> simp

end LiveBinding.Tree
