import LiveBinding.Proofs.Context.Arena
import Mathlib.Data.List.Nodup
import Mathlib.Data.List.Perm.Subperm

/-!
# The forest that the nodes form

In a well-formed tree the lists of children and the pointers to parents say the same, and no chain
of parents comes back to where it started.  A chain of nodes is then no longer than the number of
slots, so the bounds with which ancestors and subtrees are computed are never met, and a node lies
in the subtree of another one exactly when the other one is among its ancestors.
-/

namespace LiveBinding.Tree

variable {tree : Tree} {id parent child : NodeId} {node : Node}

/-- What every operation on a tree keeps. -/
structure WellFormed (tree : Tree) : Prop where
  /-- The numbers that are kept for the next nodes are those of the empty slots, each once. -/
  free_nodup : tree.free.Nodup
  mem_free : ∀ index, index ∈ tree.free ↔ tree.IsEmptySlot index
  /-- A node lists the nodes of which it is the parent, each once. -/
  linked : ∀ id child, child ∈ tree.children id ↔ tree.parent? child = some id
  children_nodup : ∀ id, (tree.children id).Nodup
  /-- Parents come before their children in some order. -/
  ranked : ∃ rank : NodeId → Nat,
    ∀ id parent, tree.parent? id = some parent → rank parent < rank id
  declared_nodup : ∀ id, ((tree.declared id).map Context.id).Nodup
  implicits_nodup : ∀ id node, tree.node? id = some node → (node.implicits.map Prod.fst).Nodup

namespace WellFormed

variable (sound : tree.WellFormed)

include sound

theorem freeAreEmpty : tree.FreeAreEmpty :=
  fun index listed => (sound.mem_free index).mp listed

theorem contains_parent (below : tree.parent? id = some parent) : tree.contains parent = true :=
  contains_of_mem_children ((sound.linked parent id).mpr below)

theorem parent?_of_mem_children (listed : child ∈ tree.children id) :
    tree.parent? child = some id :=
  (sound.linked id child).mp listed

theorem contains_child (listed : child ∈ tree.children id) : tree.contains child = true :=
  contains_of_parent? (sound.parent?_of_mem_children listed)

/-- Induction from the roots downward. -/
theorem induction {motive : NodeId → Prop}
    (step : ∀ id, (∀ parent, tree.parent? id = some parent → motive parent) → motive id)
    (id : NodeId) : motive id := by
  obtain ⟨rank, descends⟩ := sound.ranked
  have bounded : ∀ bound id, rank id < bound → motive id := by
    intro bound
    induction bound with
    | zero => intro id impossible; omega
    | succ bound ih =>
        intro id below
        refine step id fun parent pointer => ih parent ?_
        have := descends id parent pointer
        omega
  exact bounded (rank id + 1) id (Nat.lt_succ_self _)

end WellFormed

/-! ### Ancestors -/

/-- A larger bound only adds ancestors at the far end. -/
theorem ancestorsWithin_eq_take (tree : Tree) (count : Nat) (id : NodeId) :
    tree.ancestorsWithin count id = (tree.ancestorsWithin (count + 1) id).take count := by
  induction count generalizing id with
  | zero => rfl
  | succ count ih =>
      rw [ancestorsWithin, ancestorsWithin, List.take_succ_cons]
      cases tree.parent? id with
      | none => simp
      | some parent => rw [Option.elim_some, Option.elim_some, ih parent]

namespace WellFormed

variable (sound : tree.WellFormed)

include sound

theorem contains_of_mem_ancestorsWithin {count : Nat} {above : NodeId}
    (live : tree.contains id = true) (member : above ∈ tree.ancestorsWithin count id) :
    tree.contains above = true := by
  induction count generalizing id with
  | zero => simp [ancestorsWithin] at member
  | succ count ih =>
      rw [ancestorsWithin, List.mem_cons] at member
      cases member with
      | inl same => rw [same]; exact live
      | inr higher =>
          cases pointer : tree.parent? id with
          | none => simp [pointer] at higher
          | some parent =>
              rw [pointer, Option.elim_some] at higher
              exact ih (sound.contains_parent pointer) higher

omit sound in
theorem rank_le_of_mem_ancestorsWithin {rank : NodeId → Nat}
    (descends : ∀ id parent, tree.parent? id = some parent → rank parent < rank id)
    {count : Nat} {above : NodeId} (member : above ∈ tree.ancestorsWithin count id) :
    rank above ≤ rank id := by
  induction count generalizing id with
  | zero => simp [ancestorsWithin] at member
  | succ count ih =>
      rw [ancestorsWithin, List.mem_cons] at member
      cases member with
      | inl same => exact Nat.le_of_eq (congrArg rank same)
      | inr higher =>
          cases pointer : tree.parent? id with
          | none => simp [pointer] at higher
          | some parent =>
              rw [pointer, Option.elim_some] at higher
              have := descends id parent pointer
              have := ih higher
              omega

theorem ancestorsWithin_nodup (count : Nat) (id : NodeId) :
    (tree.ancestorsWithin count id).Nodup := by
  obtain ⟨rank, descends⟩ := sound.ranked
  induction count generalizing id with
  | zero => exact List.nodup_nil
  | succ count ih =>
      rw [ancestorsWithin]
      cases pointer : tree.parent? id with
      | none => simp
      | some parent =>
          rw [Option.elim_some, List.nodup_cons]
          refine ⟨fun member => ?_, ih parent⟩
          have := descends id parent pointer
          have := rank_le_of_mem_ancestorsWithin descends member
          omega

/-- Different live nodes stand in different slots, so no chain is longer than the slots are
many. -/
theorem length_ancestorsWithin_le (count : Nat) (live : tree.contains id = true) :
    (tree.ancestorsWithin count id).length ≤ tree.slots.length := by
  have alive : ∀ above ∈ tree.ancestorsWithin count id, tree.contains above = true :=
    fun above member => sound.contains_of_mem_ancestorsWithin live member
  have indices : ((tree.ancestorsWithin count id).map NodeId.index).Nodup :=
    (sound.ancestorsWithin_nodup count id).map_on fun left leftMember right rightMember same =>
      eq_of_index_eq (alive left leftMember) (alive right rightMember) same
  have inside : (tree.ancestorsWithin count id).map NodeId.index ⊆
      List.range tree.slots.length := by
    intro index member
    obtain ⟨above, aboveMember, rfl⟩ := List.mem_map.mp member
    exact List.mem_range.mpr (index_lt_of_contains (alive above aboveMember))
  simpa using (List.subperm_of_subset indices inside).length_le

/-- The ancestors of a node are the node and the ancestors of its parent. -/
theorem ancestors_eq (live : tree.contains id = true) :
    tree.ancestors id = id :: (tree.parent? id).elim [] tree.ancestors := by
  have short := sound.length_ancestorsWithin_le (tree.slots.length + 1) live
  calc
    tree.ancestors id
      = (tree.ancestorsWithin (tree.slots.length + 1) id).take tree.slots.length :=
        ancestorsWithin_eq_take tree _ id
    _ = tree.ancestorsWithin (tree.slots.length + 1) id := List.take_of_length_le short
    _ = id :: (tree.parent? id).elim [] tree.ancestors := rfl

theorem ancestors_of_root (live : tree.contains id = true) (root : tree.parent? id = none) :
    tree.ancestors id = [id] := by
  rw [sound.ancestors_eq live, root, Option.elim_none]

theorem ancestors_of_child (below : tree.parent? id = some parent) :
    tree.ancestors id = id :: tree.ancestors parent := by
  rw [sound.ancestors_eq (contains_of_parent? below), below, Option.elim_some]

theorem mem_ancestors_self (live : tree.contains id = true) : id ∈ tree.ancestors id := by
  rw [sound.ancestors_eq live]
  exact List.mem_cons_self

theorem contains_of_mem_ancestors {above : NodeId} (live : tree.contains id = true)
    (member : above ∈ tree.ancestors id) : tree.contains above = true :=
  sound.contains_of_mem_ancestorsWithin live member

/-- A node of which something else is an ancestor has a parent, of which it is one too. -/
theorem mem_ancestors_iff {above : NodeId} (live : tree.contains id = true) :
    above ∈ tree.ancestors id ↔
      above = id ∨ ∃ parent, tree.parent? id = some parent ∧ above ∈ tree.ancestors parent := by
  rw [sound.ancestors_eq live, List.mem_cons]
  cases tree.parent? id <;> simp

theorem mem_ancestors_trans {middle above : NodeId} (live : tree.contains id = true)
    (lower : middle ∈ tree.ancestors id) (upper : above ∈ tree.ancestors middle) :
    above ∈ tree.ancestors id := by
  induction id using sound.induction with
  | step id ih =>
      obtain rfl | ⟨parent, pointer, higher⟩ := (sound.mem_ancestors_iff live).mp lower
      · exact upper
      · exact (sound.mem_ancestors_iff live).mpr
          (.inr ⟨parent, pointer, ih parent pointer (sound.contains_parent pointer) higher⟩)

/-- Of two ancestors of one node, one is an ancestor of the other. -/
theorem ancestors_comparable {left right : NodeId} (live : tree.contains id = true)
    (leftMember : left ∈ tree.ancestors id) (rightMember : right ∈ tree.ancestors id) :
    left ∈ tree.ancestors right ∨ right ∈ tree.ancestors left := by
  induction id using sound.induction with
  | step id ih =>
      obtain rfl | ⟨parent, pointer, leftHigher⟩ := (sound.mem_ancestors_iff live).mp leftMember
      · exact .inr rightMember
      · obtain rfl | ⟨again, samePointer, rightHigher⟩ :=
          (sound.mem_ancestors_iff live).mp rightMember
        · exact .inl leftMember
        · rw [pointer, Option.some.injEq] at samePointer
          subst samePointer
          exact ih parent pointer (sound.contains_parent pointer) leftHigher rightHigher

/-- No node is an ancestor of its own parent. -/
theorem not_mem_ancestors_parent (below : tree.parent? id = some parent) :
    id ∉ tree.ancestors parent := by
  obtain ⟨rank, descends⟩ := sound.ranked
  intro member
  have := descends id parent below
  have := rank_le_of_mem_ancestorsWithin descends member
  omega

/-! ### Subtrees -/

/-- The number of nodes from a root down to a node grows by one with each step. -/
theorem length_ancestors_of_child (listed : child ∈ tree.children id) :
    (tree.ancestors child).length = (tree.ancestors id).length + 1 := by
  rw [sound.ancestors_of_child (sound.parent?_of_mem_children listed), List.length_cons]

/-- Induction from the leaves upward. -/
theorem inductionUp {motive : NodeId → Prop}
    (step : ∀ id, (∀ child ∈ tree.children id, motive child) → motive id)
    (id : NodeId) : motive id := by
  -- The induction is on the number of levels for which there is room below the node.
  have bounded : ∀ room id, tree.slots.length < room + (tree.ancestors id).length → motive id := by
    intro room
    induction room with
    | zero =>
        intro id enough
        refine step id fun child listed => ?_
        have : (tree.ancestors id).length ≤ tree.slots.length :=
          sound.length_ancestorsWithin_le _ (contains_of_mem_children listed)
        omega
    | succ room ih =>
        intro id enough
        refine step id fun child listed => ih child ?_
        rw [sound.length_ancestors_of_child listed]
        omega
  exact bounded (tree.slots.length + 1) id (by omega)

/-- Below a node there is room for fewer levels, the deeper it stands. -/
theorem subtreeWithin_succ {depth : Nat} (live : tree.contains id = true)
    (enough : tree.slots.length < depth + (tree.ancestors id).length) :
    tree.subtreeWithin (depth + 1) id = tree.subtreeWithin depth id := by
  induction depth generalizing id with
  | zero =>
      have : (tree.ancestors id).length ≤ tree.slots.length :=
        sound.length_ancestorsWithin_le _ live
      omega
  | succ depth ih =>
      obtain ⟨node, reached⟩ := contains_iff.mp live
      rw [subtreeWithin, subtreeWithin, reached]
      simp only [List.cons.injEq, true_and]
      refine List.flatMap_congr fun child listed => ?_
      rw [← children_eq reached] at listed
      refine ih (sound.contains_child listed) ?_
      rw [sound.length_ancestors_of_child listed]
      omega

theorem subtreeWithin_slots_succ (live : tree.contains id = true) :
    tree.subtreeWithin (tree.slots.length + 1) id = tree.subtree id := by
  refine sound.subtreeWithin_succ live ?_
  have := List.length_pos_of_mem (sound.mem_ancestors_self live)
  omega

/-- The subtree of a node is the node and the subtrees of its children in their order. -/
theorem subtree_eq (reached : tree.node? id = some node) :
    tree.subtree id = id :: node.children.flatMap tree.subtree := by
  rw [← sound.subtreeWithin_slots_succ (contains_of_node? reached), subtreeWithin, reached]
  rfl

omit sound in
theorem subtree_eq_nil (absent : ¬tree.contains id = true) : tree.subtree id = [] := by
  unfold subtree
  cases tree.slots.length with
  | zero => rfl
  | succ depth => rw [subtreeWithin, node?_eq_none_of_not_contains absent]

theorem mem_ancestors_of_mem_subtreeWithin {depth : Nat} {below : NodeId}
    (member : below ∈ tree.subtreeWithin depth id) :
    tree.contains below = true ∧ id ∈ tree.ancestors below := by
  induction depth generalizing id with
  | zero => simp [subtreeWithin] at member
  | succ depth ih =>
      rw [subtreeWithin] at member
      cases reached : tree.node? id with
      | none => simp [reached] at member
      | some node =>
          simp only [reached, List.mem_cons, List.mem_flatMap] at member
          obtain rfl | ⟨child, listed, deeper⟩ := member
          · have live := contains_of_node? reached
            exact ⟨live, sound.mem_ancestors_self live⟩
          · rw [← children_eq reached] at listed
            obtain ⟨live, above⟩ := ih deeper
            refine ⟨live, sound.mem_ancestors_trans live above ?_⟩
            rw [sound.ancestors_of_child (sound.parent?_of_mem_children listed)]
            exact List.mem_cons_of_mem _ (sound.mem_ancestors_self (contains_of_node? reached))

/-- A level more takes in the children of what was taken in. -/
theorem mem_subtreeWithin_of_child {depth : Nat} {above : NodeId}
    (member : id ∈ tree.subtreeWithin depth above) (listed : child ∈ tree.children id) :
    child ∈ tree.subtreeWithin (depth + 1) above := by
  obtain ⟨childNode, childReached⟩ := contains_iff.mp (sound.contains_child listed)
  induction depth generalizing above with
  | zero => simp [subtreeWithin] at member
  | succ depth ih =>
      rw [subtreeWithin] at member
      rw [subtreeWithin]
      cases reached : tree.node? above with
      | none => simp [reached] at member
      | some node =>
          simp only [reached, List.mem_cons, List.mem_flatMap] at member ⊢
          right
          obtain rfl | ⟨middle, middleListed, deeper⟩ := member
          · refine ⟨child, children_eq reached ▸ listed, ?_⟩
            rw [subtreeWithin, childReached]
            exact List.mem_cons_self
          · exact ⟨middle, middleListed, ih deeper⟩

/-- The subtree of a node holds the live nodes of which it is an ancestor. -/
theorem mem_subtree {below : NodeId} :
    below ∈ tree.subtree id ↔ tree.contains below = true ∧ id ∈ tree.ancestors below := by
  constructor
  · exact sound.mem_ancestors_of_mem_subtreeWithin
  · rintro ⟨live, member⟩
    induction below using sound.induction with
    | step below ih =>
        obtain rfl | ⟨parent, pointer, higher⟩ := (sound.mem_ancestors_iff live).mp member
        · obtain ⟨node, reached⟩ := contains_iff.mp live
          rw [sound.subtree_eq reached]
          exact List.mem_cons_self
        · have parentLive := sound.contains_parent pointer
          have deeper := ih parent pointer parentLive higher
          rw [← sound.subtreeWithin_slots_succ
            (sound.contains_of_mem_ancestors parentLive higher)]
          exact sound.mem_subtreeWithin_of_child deeper ((sound.linked parent below).mpr pointer)

theorem contains_of_mem_subtree {below : NodeId} (member : below ∈ tree.subtree id) :
    tree.contains below = true :=
  (sound.mem_subtree.mp member).1

theorem mem_subtree_self : id ∈ tree.subtree id ↔ tree.contains id = true := by
  rw [sound.mem_subtree]
  exact ⟨And.left, fun live => ⟨live, sound.mem_ancestors_self live⟩⟩

/-- The subtrees of two children of one node have nothing in common. -/
theorem subtrees_disjoint {left right below : NodeId} (leftListed : left ∈ tree.children id)
    (rightListed : right ∈ tree.children id) (inLeft : below ∈ tree.subtree left)
    (inRight : below ∈ tree.subtree right) : left = right := by
  obtain ⟨live, leftAbove⟩ := sound.mem_subtree.mp inLeft
  obtain ⟨-, rightAbove⟩ := sound.mem_subtree.mp inRight
  have leftPointer := sound.parent?_of_mem_children leftListed
  have rightPointer := sound.parent?_of_mem_children rightListed
  obtain member | member := sound.ancestors_comparable live leftAbove rightAbove
  · rw [sound.ancestors_of_child rightPointer, List.mem_cons] at member
    exact member.resolve_right (sound.not_mem_ancestors_parent leftPointer)
  · rw [sound.ancestors_of_child leftPointer, List.mem_cons] at member
    exact (member.resolve_right (sound.not_mem_ancestors_parent rightPointer)).symm

/-- A subtree lists each of its nodes once. -/
theorem subtree_nodup (id : NodeId) : (tree.subtree id).Nodup := by
  induction id using sound.inductionUp with
  | step id ih =>
      cases reached : tree.node? id with
      | none =>
          rw [subtree_eq_nil (by simp [contains, reached])]
          exact List.nodup_nil
      | some node =>
          rw [sound.subtree_eq reached, ← children_eq reached, List.nodup_cons, List.nodup_flatMap]
          refine ⟨fun member => ?_, ih, ?_⟩
          · obtain ⟨child, listed, deeper⟩ := List.mem_flatMap.mp member
            exact sound.not_mem_ancestors_parent (sound.parent?_of_mem_children listed)
              (sound.mem_subtree.mp deeper).2
          · refine (sound.children_nodup id).imp_of_mem fun leftListed rightListed different => ?_
            intro below inLeft inRight
            exact different (sound.subtrees_disjoint leftListed rightListed inLeft inRight)

end WellFormed

end LiveBinding.Tree
