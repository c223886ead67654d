import LiveBinding.Proofs.Context.Forest

/-!
# Operations keep trees well formed

Attaching adds one node below its parent, detaching takes a subtree away, and the other operations
change what a node holds but not where it stands.
-/

namespace LiveBinding.Tree

variable {tree : Tree} {id other : NodeId} {node : Node}

theorem WellFormed.empty : Tree.empty.WellFormed where
  free_nodup := List.nodup_nil
  mem_free index := by simp [Tree.empty, IsEmptySlot]
  linked id child := by simp [children, parent?, node?, Tree.empty]
  children_nodup id := by simp [children, node?, Tree.empty]
  ranked := ⟨fun _ => 0, fun id parent below => by simp [parent?, node?, Tree.empty] at below⟩
  declared_nodup id := by simp [declared, node?, Tree.empty]
  implicits_nodup id node reached := by simp [node?, Tree.empty] at reached

/-! ### Attaching -/

section Attach

variable (sound : tree.WellFormed) {parent : Option NodeId}
variable (known : ∀ above, parent = some above → tree.contains above = true)

/-- The tree in which a node was attached. -/
def grown (tree : Tree) (parent : Option NodeId) : Tree :=
  (tree.place { parent }).enlist parent tree.nextHandle

theorem attach_eq_ok_iff {result : NodeId × Tree} :
    tree.attach parent = .ok result ↔
      (∀ above, parent = some above → tree.contains above = true) ∧
        result = (tree.nextHandle, tree.grown parent) := by
  rw [attach_eq]
  cases parent with
  | none =>
      rw [Option.filter_none]
      simp [Tree.grown, eq_comm (a := result)]
  | some above =>
      cases live : tree.contains above with
      | false => simp [Option.filter_some, live]
      | true => simp [Option.filter_some, live, Tree.grown, eq_comm (a := result)]

include sound

theorem ne_nextHandle_of_contains (live : tree.contains id = true) : id ≠ tree.nextHandle := by
  rintro rfl
  exact not_contains_nextHandle sound.freeAreEmpty live

theorem node?_nextHandle : tree.node? tree.nextHandle = none :=
  node?_eq_none_of_not_contains (not_contains_nextHandle sound.freeAreEmpty)

include known

/-- Apart from the new node, only its parent changed, which lists it. -/
theorem node?_grown (other : NodeId) :
    (tree.grown parent).node? other =
      if other = tree.nextHandle then some { parent }
      else if parent = some other then
        (tree.node? other).map fun node =>
          { node with children := node.children ++ [tree.nextHandle] }
      else tree.node? other := by
  have placed := node?_place sound.freeAreEmpty { parent := parent }
  unfold grown
  cases parent with
  | none => simp [enlist, placed]
  | some above =>
      have different : above ≠ tree.nextHandle :=
        ne_nextHandle_of_contains sound (known above rfl)
      rw [enlist, node?_modifyNode]
      by_cases here : other = above
      · simp [here, placed, different]
      · have notParent : ¬above = other := fun same => here same.symm
        simp [here, placed, notParent]

theorem contains_grown (other : NodeId) :
    (tree.grown parent).contains other = true ↔
      other = tree.nextHandle ∨ tree.contains other = true := by
  unfold contains
  rw [node?_grown sound known]
  by_cases new : other = tree.nextHandle
  · simp [new]
  · by_cases above : parent = some other <;> simp [new, above]

theorem parent?_grown (other : NodeId) :
    (tree.grown parent).parent? other =
      if other = tree.nextHandle then parent else tree.parent? other := by
  rw [parent?_eq_map, node?_grown sound known]
  split
  · simp
  · split
    · rw [Option.map_map, parent?_eq_map]
      rfl
    · rw [parent?_eq_map]

theorem children_grown (other : NodeId) :
    (tree.grown parent).children other =
      if parent = some other then tree.children other ++ [tree.nextHandle]
      else tree.children other := by
  rw [children_eq_map, node?_grown sound known]
  by_cases new : other = tree.nextHandle
  · have notParent : ¬parent = some other := by
      intro same
      exact ne_nextHandle_of_contains sound (known other same) new
    rw [new] at notParent
    simp [new, notParent, children, node?_nextHandle sound]
  · by_cases above : parent = some other
    · obtain ⟨node, reached⟩ := contains_iff.mp (known other above)
      simp [new, above, reached, children]
    · simp only [new, above, if_false]
      rw [children_eq_map]

theorem declared_grown (other : NodeId) :
    (tree.grown parent).declared other = tree.declared other := by
  rw [declared_eq_map, node?_grown sound known]
  by_cases new : other = tree.nextHandle
  · simp [new, declared, node?_nextHandle sound]
  · rw [if_neg new]
    split
    · rw [Option.map_map, declared_eq_map]
      rfl
    · rw [declared_eq_map]

omit known in
theorem isEmptySlot_grown (index : Nat) :
    (tree.grown parent).IsEmptySlot index ↔
      tree.IsEmptySlot index ∧ index ≠ tree.nextHandle.index := by
  rw [grown, isEmptySlot_enlist, isEmptySlot_place sound.freeAreEmpty]

omit known sound in
theorem free_grown : (tree.grown parent).free = tree.free.tail := by
  rw [grown, free_enlist]
  unfold place
  cases tree.free <;> rfl

theorem WellFormed.grown : (tree.grown parent).WellFormed where
  free_nodup := by
    rw [free_grown]
    exact sound.free_nodup.tail
  mem_free index := by
    rw [free_grown, isEmptySlot_grown sound, ← sound.mem_free]
    have distinct := sound.free_nodup
    unfold nextHandle
    cases free : tree.free with
    | nil => simp
    | cons taken rest =>
        rw [free, List.nodup_cons] at distinct
        simp only [List.tail_cons, List.mem_cons]
        constructor
        · intro listed
          exact ⟨.inr listed, fun same => distinct.1 (same ▸ listed)⟩
        · rintro ⟨here | listed, different⟩
          · exact (different here).elim
          · exact listed
  linked id child := by
    rw [children_grown sound known, parent?_grown sound known]
    by_cases new : child = tree.nextHandle
    · have unlisted : tree.nextHandle ∉ tree.children id := fun listed =>
        ne_nextHandle_of_contains sound (sound.contains_child listed) rfl
      by_cases above : parent = some id <;> simp [new, above, unlisted]
    · by_cases above : parent = some id <;> simp [new, above, sound.linked]
  children_nodup id := by
    rw [children_grown sound known]
    split
    · rw [List.nodup_append]
      refine ⟨sound.children_nodup id, List.nodup_singleton _, ?_⟩
      intro child listed new isNew
      rw [List.mem_singleton.mp isNew]
      exact ne_nextHandle_of_contains sound (sound.contains_child listed)
    · exact sound.children_nodup id
  ranked := by
    obtain ⟨rank, descends⟩ := sound.ranked
    refine ⟨fun id => if id = tree.nextHandle then parent.elim 0 rank + 1 else rank id, ?_⟩
    intro id above pointer
    rw [parent?_grown sound known] at pointer
    by_cases new : id = tree.nextHandle
    · rw [if_pos new] at pointer
      have old := ne_nextHandle_of_contains sound (known above pointer)
      simp [new, old, pointer]
    · rw [if_neg new] at pointer
      have old := ne_nextHandle_of_contains sound (sound.contains_parent pointer)
      simpa [new, old] using descends id above pointer
  declared_nodup id := by
    rw [declared_grown sound known]
    exact sound.declared_nodup id
  implicits_nodup id node reached := by
    rw [node?_grown sound known] at reached
    split at reached
    · cases reached
      exact List.nodup_nil
    · split at reached
      · obtain ⟨old, oldReached, rfl⟩ := Option.map_eq_some_iff.mp reached
        exact sound.implicits_nodup id old oldReached
      · exact sound.implicits_nodup id node reached

end Attach

/-! ### Detaching -/

section Detach

variable (sound : tree.WellFormed)

include sound

/-- Only its parent lists a node. -/
theorem filter_children_of_ne_parent {node : Node} (reached : tree.node? other = some node)
    (apart : tree.parent? id ≠ some other) : node.children.filter (· ≠ id) = node.children := by
  rw [List.filter_eq_self]
  intro child listed
  rw [← children_eq reached] at listed
  have : child ≠ id := by
    rintro rfl
    exact apart (sound.parent?_of_mem_children listed)
  simpa using this

/-- Taking a node off the list of its parent takes it off every list, for no other one has it. -/
theorem node?_unlink (id other : NodeId) :
    (tree.unlink id).node? other =
      (tree.node? other).map fun node =>
        { node with children := node.children.filter (· ≠ id) } := by
  unfold unlink
  cases pointer : tree.parent? id with
  | none =>
      cases reached : tree.node? other with
      | none => rfl
      | some node =>
          rw [Option.map_some, filter_children_of_ne_parent sound reached]
          rw [pointer]
          exact nofun
  | some parent =>
      rw [node?_modifyNode]
      split
      · next same => rw [same]
      · next different =>
          cases reached : tree.node? other with
          | none => rfl
          | some node =>
              rw [Option.map_some, filter_children_of_ne_parent sound reached]
              rw [pointer, ne_eq, Option.some.injEq]
              exact fun same => different same.symm

omit sound in
@[simp] theorem slots_length_unlink (id : NodeId) :
    (tree.unlink id).slots.length = tree.slots.length := by
  unfold unlink
  split <;> simp

omit sound in
@[simp] theorem free_unlink (id : NodeId) : (tree.unlink id).free = tree.free := by
  unfold unlink
  split <;> simp

omit sound in
theorem isEmptySlot_unlink (id : NodeId) (index : Nat) :
    (tree.unlink id).IsEmptySlot index ↔ tree.IsEmptySlot index := by
  unfold unlink
  split
  · rfl
  · exact isEmptySlot_modifyNode tree _ _ index

/-- A live handle is in a subtree when its slot is the slot of a handle in the subtree. -/
theorem index_mem_subtree (live : tree.contains other = true) :
    other.index ∈ (tree.subtree id).map NodeId.index ↔ other ∈ tree.subtree id := by
  constructor
  · intro member
    obtain ⟨removed, removedMember, same⟩ := List.mem_map.mp member
    have removedLive := sound.contains_of_mem_subtree removedMember
    exact eq_of_index_eq removedLive live same ▸ removedMember
  · exact List.mem_map_of_mem

/-- Detaching takes the subtree away, and the node off the lists. -/
theorem node?_detach (id other : NodeId) :
    (tree.detach id).2.node? other =
      if other ∈ tree.subtree id then none
      else (tree.node? other).map fun node =>
        { node with children := node.children.filter (· ≠ id) } := by
  rw [detach, node?_releaseAll, node?_unlink sound]
  cases reached : tree.node? other with
  | none => simp
  | some node =>
      have live := contains_of_node? reached
      by_cases member : other ∈ tree.subtree id
      · rw [if_pos ((index_mem_subtree sound live).mpr member), if_pos member]
      · rw [if_neg fun listed => member ((index_mem_subtree sound live).mp listed),
          if_neg member]

theorem contains_detach (id other : NodeId) :
    (tree.detach id).2.contains other = true ↔
      tree.contains other = true ∧ other ∉ tree.subtree id := by
  unfold contains
  rw [node?_detach sound]
  split <;> simp [*]

theorem parent?_detach (id other : NodeId) :
    (tree.detach id).2.parent? other =
      if other ∈ tree.subtree id then none else tree.parent? other := by
  rw [parent?_eq_map, node?_detach sound]
  split
  · rfl
  · rw [Option.map_map, parent?_eq_map]
    rfl

theorem children_detach (id other : NodeId) :
    (tree.detach id).2.children other =
      if other ∈ tree.subtree id then [] else (tree.children other).filter (· ≠ id) := by
  rw [children_eq_map, node?_detach sound]
  split
  · rfl
  · cases reached : tree.node? other <;> simp [children, reached]

theorem declared_detach (id other : NodeId) :
    (tree.detach id).2.declared other =
      if other ∈ tree.subtree id then [] else tree.declared other := by
  rw [declared_eq_map, node?_detach sound]
  split
  · rfl
  · rw [Option.map_map, declared_eq_map]
    rfl

/-- What lies below a node of a subtree lies in the subtree. -/
theorem mem_subtree_of_parent? {parent : NodeId} (pointer : tree.parent? other = some parent)
    (member : parent ∈ tree.subtree id) : other ∈ tree.subtree id := by
  rw [sound.mem_subtree] at member ⊢
  refine ⟨contains_of_parent? pointer, ?_⟩
  rw [sound.ancestors_of_child pointer]
  exact List.mem_cons_of_mem _ member.2

theorem WellFormed.detach (id : NodeId) : (tree.detach id).2.WellFormed where
  free_nodup := by
    rw [Tree.detach, free_releaseAll, free_unlink, List.nodup_append]
    refine ⟨?_, sound.free_nodup, ?_⟩
    · rw [List.nodup_reverse]
      refine (sound.subtree_nodup id).map_on fun left leftMember right rightMember same => ?_
      exact eq_of_index_eq (sound.contains_of_mem_subtree leftMember)
        (sound.contains_of_mem_subtree rightMember) same
    · intro index removed other listed same
      subst same
      rw [List.mem_reverse, List.mem_map] at removed
      obtain ⟨handle, member, rfl⟩ := removed
      exact not_isEmptySlot_of_contains (sound.contains_of_mem_subtree member)
        ((sound.mem_free handle.index).mp listed)
  mem_free index := by
    rw [Tree.detach, free_releaseAll, free_unlink, isEmptySlot_releaseAll, isEmptySlot_unlink,
      List.mem_append, List.mem_reverse, sound.mem_free, slots_length_unlink]
    have inside : index ∈ (tree.subtree id).map NodeId.index → index < tree.slots.length := by
      intro removed
      obtain ⟨handle, member, rfl⟩ := List.mem_map.mp removed
      exact index_lt_of_contains (sound.contains_of_mem_subtree member)
    grind
  linked above child := by
    rw [children_detach sound, parent?_detach sound]
    constructor
    · intro listed
      split at listed
      · simp at listed
      · next survives =>
          simp only [List.mem_filter, decide_eq_true_eq] at listed
          obtain ⟨listed, different⟩ := listed
          have pointer := sound.parent?_of_mem_children listed
          rw [if_neg, pointer]
          intro member
          obtain ⟨live, member⟩ := sound.mem_subtree.mp member
          rw [sound.ancestors_of_child pointer, List.mem_cons] at member
          obtain same | higher := member
          · exact different same.symm
          · exact survives (sound.mem_subtree.mpr ⟨sound.contains_parent pointer, higher⟩)
    · intro pointer
      split at pointer
      · simp at pointer
      · next survives =>
          rw [if_neg fun member => survives (mem_subtree_of_parent? sound pointer member)]
          simp only [List.mem_filter, decide_eq_true_eq]
          refine ⟨(sound.linked above child).mpr pointer, ?_⟩
          rintro rfl
          exact survives (sound.mem_subtree_self.mpr (contains_of_parent? pointer))
  children_nodup above := by
    rw [children_detach sound]
    split
    · exact List.nodup_nil
    · exact (sound.children_nodup above).filter _
  ranked := by
    obtain ⟨rank, descends⟩ := sound.ranked
    refine ⟨rank, fun below above pointer => descends below above ?_⟩
    rw [parent?_detach sound] at pointer
    split at pointer
    · simp at pointer
    · exact pointer
  declared_nodup above := by
    rw [declared_detach sound]
    split
    · exact List.nodup_nil
    · exact sound.declared_nodup above
  implicits_nodup above node reached := by
    rw [node?_detach sound] at reached
    split at reached
    · simp at reached
    · obtain ⟨old, oldReached, rfl⟩ := Option.map_eq_some_iff.mp reached
      exact sound.implicits_nodup above old oldReached

end Detach

/-! ### Contexts -/

/-- Two trees with the same nodes in the same places. -/
structure SameShape (before after : Tree) : Prop where
  contains : ∀ id, after.contains id = before.contains id
  parent? : ∀ id, after.parent? id = before.parent? id

/-- A change of what a node holds, but not of where it stands, keeps the tree well formed if the
names and the senders stay different. -/
theorem WellFormed.modifyNode (sound : tree.WellFormed) (id : NodeId) {change : Node → Node}
    (keepsParent : ∀ node, (change node).parent = node.parent)
    (keepsChildren : ∀ node, (change node).children = node.children)
    (names : ∀ node, (node.contexts.map Context.id).Nodup →
      ((change node).contexts.map Context.id).Nodup)
    (senders : ∀ node, (node.implicits.map Prod.fst).Nodup →
      ((change node).implicits.map Prod.fst).Nodup) :
    (tree.modifyNode id change).WellFormed where
  free_nodup := by
    rw [free_modifyNode]
    exact sound.free_nodup
  mem_free index := by
    rw [free_modifyNode, isEmptySlot_modifyNode]
    exact sound.mem_free index
  linked above child := by
    rw [children_eq_map, node?_modifyNode_map _ _ _ _ _ keepsChildren, ← children_eq_map,
      parent?_modifyNode keepsParent]
    exact sound.linked above child
  children_nodup above := by
    rw [children_eq_map, node?_modifyNode_map _ _ _ _ _ keepsChildren, ← children_eq_map]
    exact sound.children_nodup above
  ranked := by
    obtain ⟨rank, descends⟩ := sound.ranked
    refine ⟨rank, fun below above pointer => descends below above ?_⟩
    rwa [parent?_modifyNode keepsParent] at pointer
  declared_nodup above := by
    rw [declared_eq_map, node?_modifyNode]
    have old := sound.declared_nodup above
    split
    · next same =>
        subst same
        cases reached : tree.node? above with
        | none => simp
        | some node =>
            rw [declared_eq reached] at old
            simpa using names node old
    · rwa [← declared_eq_map]
  implicits_nodup above node reached := by
    rw [node?_modifyNode] at reached
    split at reached
    · obtain ⟨old, oldReached, rfl⟩ := Option.map_eq_some_iff.mp reached
      exact senders old (sound.implicits_nodup id old oldReached)
    · exact sound.implicits_nodup above node reached

theorem SameShape.modifyNode (tree : Tree) (id : NodeId) {change : Node → Node}
    (keepsParent : ∀ node, (change node).parent = node.parent) :
    SameShape tree (tree.modifyNode id change) :=
  ⟨fun other => contains_modifyNode tree id other change, parent?_modifyNode keepsParent id⟩

/-- The names after a context was put are the names before it, with its own among them. -/
theorem map_id_putContext (context : Context) (contexts : List Context) :
    (putContext context contexts).map Context.id =
      if context.id ∈ contexts.map Context.id then contexts.map Context.id
      else contexts.map Context.id ++ [context.id] := by
  induction contexts with
  | nil => rfl
  | cons head rest ih =>
      rw [putContext]
      by_cases same : head.id = context.id
      · simp [same]
      · have different : ¬context.id = head.id := fun equal => same equal.symm
        rw [if_neg same, List.map_cons, ih]
        simp only [List.map_cons, List.mem_cons, different, false_or]
        split <;> rfl

theorem putContext_nodup (context : Context) {contexts : List Context}
    (distinct : (contexts.map Context.id).Nodup) :
    ((putContext context contexts).map Context.id).Nodup := by
  rw [map_id_putContext]
  split
  · exact distinct
  · next new => exact List.nodup_append_comm.mp (List.nodup_cons.mpr ⟨new, distinct⟩)

theorem map_fst_putImplicit (sender : SenderId) (context : Context)
    (implicits : List (SenderId × Context)) :
    (putImplicit sender context implicits).map Prod.fst =
      if sender ∈ implicits.map Prod.fst then implicits.map Prod.fst
      else implicits.map Prod.fst ++ [sender] := by
  induction implicits with
  | nil => rfl
  | cons head rest ih =>
      obtain ⟨other, old⟩ := head
      rw [putImplicit]
      by_cases same : other = sender
      · simp [same]
      · have different : ¬sender = other := fun equal => same equal.symm
        rw [if_neg same, List.map_cons, ih]
        simp only [List.map_cons, List.mem_cons, different, false_or]
        split <;> rfl

theorem putImplicit_nodup (sender : SenderId) (context : Context)
    {implicits : List (SenderId × Context)} (distinct : (implicits.map Prod.fst).Nodup) :
    ((putImplicit sender context implicits).map Prod.fst).Nodup := by
  rw [map_fst_putImplicit]
  split
  · exact distinct
  · next new => exact List.nodup_append_comm.mp (List.nodup_cons.mpr ⟨new, distinct⟩)

section Contexts

variable (sound : tree.WellFormed)

/-- The tree in which a context was put on a node. -/
def withContext (tree : Tree) (id : NodeId) (context : Context) : Tree :=
  tree.modifyNode id fun node => { node with contexts := putContext context node.contexts }

/-- The tree in which the contexts of a name were taken off a node. -/
def withoutContext (tree : Tree) (id : NodeId) (name : String) : Tree :=
  tree.modifyNode id fun node => { node with contexts := node.contexts.eraseP (·.id == name) }

theorem sameShape_withContext (tree : Tree) (id : NodeId) (context : Context) :
    SameShape tree (tree.withContext id context) :=
  .modifyNode tree id fun _ => rfl

theorem sameShape_withoutContext (tree : Tree) (id : NodeId) (name : String) :
    SameShape tree (tree.withoutContext id name) :=
  .modifyNode tree id fun _ => rfl

include sound

theorem WellFormed.withContext (id : NodeId) (context : Context) :
    (tree.withContext id context).WellFormed :=
  sound.modifyNode id (fun _ => rfl) (fun _ => rfl)
    (fun _ distinct => putContext_nodup context distinct) fun _ distinct => distinct

theorem WellFormed.withoutContext (id : NodeId) (name : String) :
    (tree.withoutContext id name).WellFormed :=
  sound.modifyNode id (fun _ => rfl) (fun _ => rfl)
    (fun _ distinct => distinct.sublist (List.eraseP_sublist.map _)) fun _ distinct => distinct

omit sound in
theorem declare_eq_ok_iff {context : Context} {result : Option Value × Tree} :
    tree.declare id context = .ok result ↔
      tree.contains id = true ∧
        result = ((tree.context? id context.id).map (·.value), tree.withContext id context) := by
  unfold declare
  split <;> simp [withContext, *, eq_comm]

omit sound in
theorem removeContext_eq_some_iff {name : String} {result : Context × Tree} :
    tree.removeContext id name = some result ↔
      tree.context? id name = some result.1 ∧ result.2 = tree.withoutContext id name := by
  unfold removeContext
  cases tree.context? id name with
  | none => simp
  | some context => cases result; simp [withoutContext, eq_comm]

omit sound in
theorem writeContext_eq_some_iff {name : String} {change : Value → Option Value}
    {after : Tree} :
    tree.writeContext id name change = some after ↔
      ∃ context value, tree.context? id name = some context ∧
        change context.value = some value ∧ after = tree.withContext id ⟨name, value⟩ := by
  unfold writeContext withContext
  simp only [Option.bind_eq_some_iff, Option.map_eq_some_iff]
  constructor
  · rintro ⟨context, found, value, changed, rfl⟩
    exact ⟨context, value, found, changed, rfl⟩
  · rintro ⟨context, value, found, changed, rfl⟩
    exact ⟨context, found, value, changed, rfl⟩

theorem WellFormed.setImplicit {sender : SenderId} {context : Context} {after : Tree}
    (done : tree.setImplicit id sender context = .ok after) : after.WellFormed := by
  unfold Tree.setImplicit at done
  split at done
  · cases done
    exact sound.modifyNode id (fun _ => rfl) (fun _ => rfl) (fun _ distinct => distinct)
      fun _ distinct => putImplicit_nodup sender context distinct
  · contradiction

theorem WellFormed.clearImplicit (sender : SenderId) :
    (tree.clearImplicit sender).WellFormed where
  free_nodup := sound.free_nodup
  mem_free index := by
    rw [isEmptySlot_clearImplicit]
    exact sound.mem_free index
  linked above child := by
    rw [children_eq_map, parent?_eq_map, node?_clearImplicit, node?_clearImplicit,
      Option.map_map, Option.map_map]
    have linked := sound.linked above child
    rwa [children_eq_map, parent?_eq_map] at linked
  children_nodup above := by
    have distinct := sound.children_nodup above
    rw [children_eq_map] at distinct ⊢
    rwa [node?_clearImplicit, Option.map_map]
  ranked := by
    obtain ⟨rank, descends⟩ := sound.ranked
    refine ⟨rank, fun below above pointer => descends below above ?_⟩
    rw [parent?_eq_map] at pointer ⊢
    rwa [node?_clearImplicit, Option.map_map] at pointer
  declared_nodup above := by
    have distinct := sound.declared_nodup above
    rw [declared_eq_map] at distinct ⊢
    rwa [node?_clearImplicit, Option.map_map]
  implicits_nodup above node reached := by
    rw [node?_clearImplicit] at reached
    obtain ⟨old, oldReached, rfl⟩ := Option.map_eq_some_iff.mp reached
    exact (sound.implicits_nodup above old oldReached).sublist (List.filter_sublist.map _)

end Contexts

end LiveBinding.Tree
