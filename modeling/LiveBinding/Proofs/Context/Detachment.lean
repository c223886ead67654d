import LiveBinding.Proofs.Context.Visibility
import Mathlib.Logic.Relation

/-!
# What detaching takes away, and what it leaves

The subtree of a node is listed in pre-order, and a loop with a stack lists the same.  Detaching the
node takes the listed nodes away, and the node off the list of its parent.  Everything else is left
as it was: the other nodes with all that they hold, and what is seen from them.
-/

namespace LiveBinding.Tree

variable {tree : Tree} {id other : NodeId}

/-! ### Listing a subtree -/

/-- Nodes listed in pre-order: each one, then those below it, then those of its siblings. -/
inductive Preorder (tree : Tree) : (nodes listing : List NodeId) → Prop where
  | nil : Preorder tree [] []
  | cons {id : NodeId} {node : Node} {siblings below rest : List NodeId} :
      tree.node? id = some node → Preorder tree node.children below →
        Preorder tree siblings rest → Preorder tree (id :: siblings) (id :: (below ++ rest))

/-- What a loop lists that takes a node from its stack, skips it if it is unknown, and otherwise
lists it and puts its children on the stack, the first one on top. -/
inductive Walks (tree : Tree) : (stack listing : List NodeId) → Prop where
  | done : Walks tree [] []
  | skip {id : NodeId} {stack listing : List NodeId} :
      tree.node? id = none → Walks tree stack listing → Walks tree (id :: stack) listing
  | visit {id : NodeId} {node : Node} {stack listing : List NodeId} :
      tree.node? id = some node → Walks tree (node.children ++ stack) listing →
        Walks tree (id :: stack) (id :: listing)

/-- Whether a walk from parent to parent leads from one node to another one. -/
def IsBelow (tree : Tree) : (lower upper : NodeId) → Prop :=
  Relation.ReflTransGen fun below above => tree.parent? below = some above

section Listing

/-- If each of some nodes may be put in front together with its subtree, all of them may. -/
theorem prepend_subtrees {lists : List NodeId → List NodeId → Prop}
    {nodes rest listing : List NodeId}
    (each : ∀ id ∈ nodes, ∀ {rest listing}, lists rest listing →
      lists (id :: rest) (tree.subtree id ++ listing)) (later : lists rest listing) :
    lists (nodes ++ rest) (nodes.flatMap tree.subtree ++ listing) := by
  induction nodes with
  | nil => exact later
  | cons id nodes ih =>
      rw [List.cons_append, List.flatMap_cons, List.append_assoc]
      apply each id List.mem_cons_self
      exact ih fun other member => each other (List.mem_cons_of_mem id member)

variable (sound : tree.WellFormed)

include sound

theorem eq_of_preorder {nodes listing : List NodeId} (listed : tree.Preorder nodes listing) :
    listing = nodes.flatMap tree.subtree := by
  induction listed with
  | nil => rfl
  | cons reached _ _ below siblings =>
      rw [below, siblings, List.flatMap_cons, sound.subtree_eq reached, List.cons_append]

theorem preorder_append (id : NodeId) {siblings rest : List NodeId}
    (live : tree.contains id = true) (others : tree.Preorder siblings rest) :
    tree.Preorder (id :: siblings) (tree.subtree id ++ rest) := by
  -- The listing is built from the leaves upward, whatever is listed behind it.
  induction id using sound.inductionUp generalizing siblings rest with
  | step id ih =>
      obtain ⟨node, reached⟩ := contains_iff.mp live
      have below : tree.Preorder (node.children ++ [])
          (node.children.flatMap tree.subtree ++ []) := by
        apply prepend_subtrees _ Preorder.nil
        intro child listed siblings rest others
        rw [← children_eq reached] at listed
        exact ih child listed (sound.contains_child listed) others
      rw [List.append_nil, List.append_nil] at below
      rw [sound.subtree_eq reached, List.cons_append]
      exact .cons reached below others

/-- The subtree of a node is the only listing of it in pre-order. -/
theorem preorder_iff (live : tree.contains id = true) {listing : List NodeId} :
    tree.Preorder [id] listing ↔ listing = tree.subtree id := by
  constructor
  · intro listed
    rw [eq_of_preorder sound listed, List.flatMap_singleton]
  · rintro rfl
    have listed := preorder_append sound id live .nil
    rwa [List.append_nil] at listed

theorem eq_of_walks {stack listing : List NodeId} (walks : tree.Walks stack listing) :
    listing = stack.flatMap tree.subtree := by
  induction walks with
  | done => rfl
  | skip unknown _ ih =>
      rw [ih, List.flatMap_cons, WellFormed.subtree_eq_nil, List.nil_append]
      simp [contains, unknown]
  | visit reached _ ih =>
      rw [ih, List.flatMap_cons, List.flatMap_append, sound.subtree_eq reached, List.cons_append]

theorem walks_append (id : NodeId) {stack listing : List NodeId}
    (later : tree.Walks stack listing) :
    tree.Walks (id :: stack) (tree.subtree id ++ listing) := by
  induction id using sound.inductionUp generalizing stack listing with
  | step id ih =>
      cases reached : tree.node? id with
      | none =>
          rw [WellFormed.subtree_eq_nil (by simp [contains, reached]), List.nil_append]
          exact .skip reached later
      | some node =>
          rw [sound.subtree_eq reached, List.cons_append]
          apply Walks.visit reached
          apply prepend_subtrees _ later
          intro child listed stack listing later
          rw [← children_eq reached] at listed
          exact ih child listed later

/-- The loop that starts with a node on its stack comes to an end, and lists the subtree. -/
theorem walks_iff {listing : List NodeId} :
    tree.Walks [id] listing ↔ listing = tree.subtree id := by
  constructor
  · intro walks
    rw [eq_of_walks sound walks, List.flatMap_singleton]
  · rintro rfl
    have walks := walks_append sound id .done
    rwa [List.append_nil] at walks

theorem mem_ancestors_iff_isBelow (live : tree.contains other = true) :
    id ∈ tree.ancestors other ↔ tree.IsBelow other id := by
  constructor
  · intro member
    induction other using sound.induction with
    | step other ih =>
        obtain rfl | ⟨parent, pointer, higher⟩ := (sound.mem_ancestors_iff live).mp member
        · exact .refl
        · exact .head pointer (ih parent pointer (sound.contains_parent pointer) higher)
  · intro below
    induction below using Relation.ReflTransGen.head_induction_on with
    | refl => exact sound.mem_ancestors_self live
    | head pointer _ ih =>
        rw [sound.ancestors_of_child pointer]
        exact List.mem_cons_of_mem _ (ih (sound.contains_parent pointer))

end Listing

/-! ### Before and after -/

/-- What detaching a node does to a tree. -/
structure Detaches (before : Tree) (id : NodeId) (removed : List NodeId) (after : Tree) :
    Prop where
  /-- The nodes that are removed are the subtree in pre-order. -/
  preorder : ∀ listing, before.Preorder [id] listing ↔ listing = removed
  walks : ∀ listing, before.Walks [id] listing ↔ listing = removed
  nodup : removed.Nodup
  mem_removed : ∀ other, other ∈ removed ↔ before.contains other = true ∧ before.IsBelow other id
  /-- All other nodes stay, and none is added. -/
  contains : ∀ other, after.contains other = true ↔
    before.contains other = true ∧ other ∉ removed
  /-- A node that stays holds what it held, except that its parent no longer lists the node. -/
  node? : ∀ other, other ∉ removed → before.parent? id ≠ some other →
    after.node? other = before.node? other
  parent : ∀ parent node, before.parent? id = some parent → before.node? parent = some node →
    after.node? parent = some { node with children := node.children.filter (· ≠ id) }
  /-- What is seen from a node that stays is what was seen from it. -/
  scope : ∀ other, after.contains other = true → after.scope other = before.scope other
  scopeFor : ∀ other sender, after.contains other = true →
    after.scopeFor other sender = before.scopeFor other sender

section Detach

variable (sound : tree.WellFormed)

include sound

/-- The parent of a node is not below it. -/
theorem parent_not_mem_subtree {parent : NodeId} (pointer : tree.parent? id = some parent) :
    parent ∉ tree.subtree id := by
  intro member
  exact sound.not_mem_ancestors_parent pointer (sound.mem_subtree.mp member).2

/-- Detaching does to a well-formed tree what it is meant to do. -/
theorem WellFormed.detaches (live : tree.contains id = true) :
    tree.Detaches id (tree.subtree id) (tree.detach id).2 where
  preorder _ := preorder_iff sound live
  walks _ := walks_iff sound
  nodup := sound.subtree_nodup id
  mem_removed other := by
    rw [sound.mem_subtree]
    exact and_congr_right (mem_ancestors_iff_isBelow sound)
  contains := contains_detach sound id
  node? other kept apart := by
    rw [node?_detach sound, if_neg kept]
    cases reached : tree.node? other with
    | none => rfl
    | some node => rw [Option.map_some, filter_children_of_ne_parent sound reached apart]
  parent parent node pointer reached := by
    rw [node?_detach sound, if_neg (parent_not_mem_subtree sound pointer), reached]
    rfl
  scope other stays := by
    obtain ⟨otherLive, kept⟩ := (contains_detach sound id other).mp stays
    exact scope_detach sound otherLive kept
  scopeFor other sender stays := by
    obtain ⟨otherLive, kept⟩ := (contains_detach sound id other).mp stays
    exact scopeFor_detach sound otherLive kept sender

end Detach

end LiveBinding.Tree
