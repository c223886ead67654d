import LiveBinding.Proofs.Context.Preservation
import Mathlib.Algebra.Ring.Nat

/-!
# Handles of nodes that are gone

Emptying a slot raises its generation.  As long as fewer than `2 ^ 32` nodes were attached, no
generation comes back to zero, so that a handle whose node is gone stays without a node for ever.
-/

namespace LiveBinding.Tree

variable {tree : Tree} {id : NodeId} {index bound : Nat}

/-- The generation of a slot. -/
def generation? (tree : Tree) (index : Nat) : Option UInt32 :=
  (tree.slots[index]?).map Slot.generation

theorem generation?_of_contains (live : tree.contains id = true) :
    tree.generation? id.index = some id.generation := by
  obtain ⟨node, reached⟩ := contains_iff.mp live
  rw [generation?, node?_eq_some_iff.mp reached, Option.map_some]

/-! ### The generations after each operation -/

@[simp] theorem generation?_modifyNode (tree : Tree) (id : NodeId) (change : Node → Node)
    (index : Nat) : (tree.modifyNode id change).generation? index = tree.generation? index := by
  unfold modifyNode
  split
  · rw [generation?, generation?, List.getElem?_modify]
    cases tree.slots[index]? with
    | none => rfl
    | some slot =>
        rw [Option.map_eq_map, Option.map_some, Option.map_some, Option.map_some]
        split <;> rfl
  · rfl

@[simp] theorem generation?_unlink (tree : Tree) (id : NodeId) (index : Nat) :
    (tree.unlink id).generation? index = tree.generation? index := by
  cases pointer : tree.parent? id <;> simp [unlink, pointer]

@[simp] theorem generation?_clearImplicit (tree : Tree) (sender : SenderId) (index : Nat) :
    (tree.clearImplicit sender).generation? index = tree.generation? index := by
  rw [clearImplicit, generation?, generation?, List.getElem?_map, Option.map_map]
  rfl

theorem generation?_release (tree : Tree) (id : NodeId) (index : Nat) :
    (tree.release id).generation? index =
      (tree.generation? index).map fun generation =>
        if index = id.index then generation + 1 else generation := by
  rw [release, generation?, generation?, List.getElem?_modify]
  cases tree.slots[index]? with
  | none => rfl
  | some slot =>
      by_cases here : id.index = index
      · simp [here]
      · have notIndex : ¬index = id.index := fun equal => here equal.symm
        simp [here, notIndex]

/-- Emptying some slots, each once, raises their generations and no others. -/
theorem generation?_releaseAll (removed : List NodeId) (tree : Tree)
    (distinct : (removed.map NodeId.index).Nodup) (index : Nat) :
    (removed.foldl release tree).generation? index =
      (tree.generation? index).map fun generation =>
        if index ∈ removed.map NodeId.index then generation + 1 else generation := by
  induction removed generalizing tree with
  | nil => simp
  | cons id rest ih =>
      rw [List.map_cons, List.nodup_cons] at distinct
      rw [List.foldl_cons, ih (tree.release id) distinct.2, generation?_release, Option.map_map,
        List.map_cons]
      congr 1
      funext generation
      rw [Function.comp_apply]
      by_cases here : index = id.index
      · rw [here, if_pos rfl, if_neg distinct.1, if_pos List.mem_cons_self]
      · rw [if_neg here]
        simp [here]

theorem generation?_detach (sound : tree.WellFormed) (id : NodeId) (index : Nat) :
    (tree.detach id).2.generation? index =
      (tree.generation? index).map fun generation =>
        if index ∈ (tree.subtree id).map NodeId.index then generation + 1 else generation := by
  have distinct : ((tree.subtree id).map NodeId.index).Nodup :=
    (sound.subtree_nodup id).map_on fun left leftMember right rightMember same =>
      eq_of_index_eq (sound.contains_of_mem_subtree leftMember)
        (sound.contains_of_mem_subtree rightMember) same
  rw [detach, generation?_releaseAll _ _ distinct, generation?_unlink]

/-- Filling a slot keeps its generation; a slot at the end begins with zero. -/
theorem generation?_grown (sound : tree.WellFormed) (parent : Option NodeId) (index : Nat) :
    (tree.grown parent).generation? index = tree.generation? index ∨
      (index = tree.nextHandle.index ∧ tree.generation? index = none ∧
        (tree.grown parent).generation? index = some 0) := by
  have enlisted : ∀ id, ((tree.place { parent }).enlist parent id).generation? index =
      (tree.place { parent }).generation? index := by
    intro id
    cases parent with
    | none => rfl
    | some above => exact generation?_modifyNode _ _ _ _
  rw [grown, enlisted]
  cases free : tree.free with
  | nil =>
      simp only [place, nextHandle, free, generation?]
      by_cases inside : index < tree.slots.length
      · left
        rw [List.getElem?_append_left inside]
      · by_cases here : index = tree.slots.length
        · right
          simp [here]
        · left
          rw [List.getElem?_eq_none, List.getElem?_eq_none]
          · omega
          · rw [List.length_append, List.length_singleton]
            omega
  | cons taken rest =>
      left
      obtain ⟨generation, found⟩ := sound.freeAreEmpty taken (by simp [free])
      simp only [place, free, generation?]
      by_cases here : taken = index
      · subst here
        have inside : taken < tree.slots.length := (List.getElem?_eq_some_iff.mp found).1
        simp [inside]
      · rw [List.getElem?_set_ne here]

/-- Two trees whose slots have the same generations and are empty alike. -/
structure SameSlots (before after : Tree) : Prop where
  generation? : ∀ index, after.generation? index = before.generation? index
  isEmptySlot : ∀ index, after.IsEmptySlot index ↔ before.IsEmptySlot index

theorem SameSlots.refl (tree : Tree) : SameSlots tree tree :=
  ⟨fun _ => rfl, fun _ => Iff.rfl⟩

theorem SameSlots.modifyNode (tree : Tree) (id : NodeId) (change : Node → Node) :
    SameSlots tree (tree.modifyNode id change) :=
  ⟨generation?_modifyNode tree id change, isEmptySlot_modifyNode tree id change⟩

theorem SameSlots.setImplicit {sender : SenderId} {context : Context} {after : Tree}
    (done : tree.setImplicit id sender context = .ok after) : SameSlots tree after := by
  unfold Tree.setImplicit at done
  split at done
  · cases done
    exact .modifyNode tree id _
  · contradiction

theorem SameSlots.clearImplicit (tree : Tree) (sender : SenderId) :
    SameSlots tree (tree.clearImplicit sender) :=
  ⟨generation?_clearImplicit tree sender, isEmptySlot_clearImplicit tree sender⟩

/-! ### Trees with a bounded history -/

/-- No slot was filled more than so many times. -/
structure FilledAtMost (bound : Nat) (tree : Tree) : Prop where
  generation_le : ∀ index generation, tree.generation? index = some generation →
    generation.toNat ≤ bound
  generation_lt : ∀ index generation, tree.generation? index = some generation →
    ¬tree.IsEmptySlot index → generation.toNat < bound

namespace FilledAtMost

variable (young : tree.FilledAtMost bound)

theorem empty (bound : Nat) : Tree.empty.FilledAtMost bound where
  generation_le _ _ found := nomatch found
  generation_lt _ _ found := nomatch found

include young

theorem mono : tree.FilledAtMost (bound + 1) where
  generation_le index generation found :=
    Nat.le_succ_of_le (young.generation_le index generation found)
  generation_lt index generation found occupied :=
    Nat.lt_succ_of_lt (young.generation_lt index generation found occupied)

theorem congr {after : Tree} (same : SameSlots tree after) : after.FilledAtMost bound := by
  constructor
  · intro index generation found
    rw [same.generation?] at found
    exact young.generation_le index generation found
  · intro index generation found occupied
    rw [same.generation?] at found
    rw [same.isEmptySlot] at occupied
    exact young.generation_lt index generation found occupied

theorem grown (sound : tree.WellFormed) (parent : Option NodeId) :
    (tree.grown parent).FilledAtMost (bound + 1) := by
  have below : ∀ index generation, (tree.grown parent).generation? index = some generation →
      generation.toNat ≤ bound := by
    intro index generation found
    obtain same | ⟨-, -, fresh⟩ := generation?_grown sound parent index
    · rw [same] at found
      exact young.generation_le index generation found
    · rw [fresh] at found
      cases found
      exact Nat.zero_le bound
  constructor
  · intro index generation found
    exact Nat.le_succ_of_le (below index generation found)
  · intro index generation found _
    exact Nat.lt_succ_of_le (below index generation found)

/-- The generation of a slot in a subtree goes up by one when the subtree is detached. -/
theorem toNat_succ (sound : tree.WellFormed) (small : bound < 2 ^ 32) {generation : UInt32}
    (member : index ∈ (tree.subtree id).map NodeId.index)
    (found : tree.generation? index = some generation) :
    (generation + 1).toNat = generation.toNat + 1 ∧ generation.toNat < bound := by
  obtain ⟨below, belowMember, rfl⟩ := List.mem_map.mp member
  have occupied := not_isEmptySlot_of_contains (sound.contains_of_mem_subtree belowMember)
  have lower := young.generation_lt below.index generation found occupied
  refine ⟨?_, lower⟩
  rw [UInt32.toNat_add, UInt32.toNat_one, Nat.mod_eq_of_lt]
  exact Nat.lt_of_le_of_lt lower small

theorem detach (sound : tree.WellFormed) (small : bound < 2 ^ 32) (id : NodeId) :
    (tree.detach id).2.FilledAtMost bound := by
  constructor
  · intro index generation found
    rw [generation?_detach sound] at found
    obtain ⟨old, oldFound, rfl⟩ := Option.map_eq_some_iff.mp found
    split
    · next member =>
        obtain ⟨next, lower⟩ := young.toNat_succ sound small member oldFound
        rw [next]
        exact lower
    · exact young.generation_le index old oldFound
  · intro index generation found occupied
    rw [generation?_detach sound] at found
    obtain ⟨old, oldFound, rfl⟩ := Option.map_eq_some_iff.mp found
    rw [Tree.detach, isEmptySlot_releaseAll, isEmptySlot_unlink, slots_length_unlink,
      not_or] at occupied
    split
    · next member =>
        obtain ⟨below, belowMember, rfl⟩ := List.mem_map.mp member
        exact absurd ⟨member, index_lt_of_contains (sound.contains_of_mem_subtree belowMember)⟩
          occupied.1
    · exact young.generation_lt index old oldFound occupied.2

end FilledAtMost

/-! ### Handles that are spent -/

/-- The slot of a handle went on to another generation. -/
def IsSpent (tree : Tree) (id : NodeId) : Prop :=
  ∃ generation, tree.generation? id.index = some generation ∧ id.generation < generation

theorem IsSpent.not_contains (spent : tree.IsSpent id) : ¬tree.contains id = true := by
  intro live
  obtain ⟨generation, found, later⟩ := spent
  rw [generation?_of_contains live, Option.some.injEq] at found
  subst found
  exact UInt32.lt_irrefl _ later

theorem IsSpent.congr {after : Tree} (spent : tree.IsSpent id) (same : SameSlots tree after) :
    after.IsSpent id := by
  obtain ⟨generation, found, later⟩ := spent
  exact ⟨generation, (same.generation? id.index).trans found, later⟩

theorem IsSpent.grown (spent : tree.IsSpent id) (sound : tree.WellFormed)
    (parent : Option NodeId) : (tree.grown parent).IsSpent id := by
  obtain ⟨generation, found, later⟩ := spent
  obtain same | ⟨-, absent, -⟩ := generation?_grown sound parent id.index
  · exact ⟨generation, same.trans found, later⟩
  · rw [absent] at found
    contradiction

/-- A handle that is spent stays so, for generations only go up. -/
theorem IsSpent.detach (spent : tree.IsSpent id) (sound : tree.WellFormed)
    (young : tree.FilledAtMost bound) (small : bound < 2 ^ 32) (removed : NodeId) :
    (tree.detach removed).2.IsSpent id := by
  obtain ⟨generation, found, later⟩ := spent
  refine ⟨_, (generation?_detach sound removed id.index).trans (by rw [found, Option.map_some]), ?_⟩
  split
  · next member =>
      obtain ⟨next, -⟩ := young.toNat_succ sound small member found
      rw [UInt32.lt_iff_toNat_lt] at later ⊢
      rw [next]
      exact Nat.lt_succ_of_lt later
  · exact later

/-- Detaching spends the handles in the subtree. -/
theorem isSpent_of_mem_subtree {removed : NodeId} (sound : tree.WellFormed)
    (young : tree.FilledAtMost bound) (small : bound < 2 ^ 32)
    (member : id ∈ tree.subtree removed) : (tree.detach removed).2.IsSpent id := by
  have found := generation?_of_contains (sound.contains_of_mem_subtree member)
  have listed : id.index ∈ (tree.subtree removed).map NodeId.index := List.mem_map_of_mem member
  obtain ⟨next, -⟩ := young.toNat_succ sound small listed found
  refine ⟨id.generation + 1, ?_, ?_⟩
  · rw [generation?_detach sound, found, Option.map_some, if_pos listed]
  · rw [UInt32.lt_iff_toNat_lt, next]
    exact Nat.lt_succ_self _

end LiveBinding.Tree
