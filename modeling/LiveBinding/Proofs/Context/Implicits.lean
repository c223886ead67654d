import LiveBinding.Proofs.Context.Histories
import LiveBinding.Proofs.Context.Visibility

/-!
# The tree without the implicit contexts of a sender

Implicit contexts stand on the same nodes as declared ones, but nothing that is done with a tree
looks at those of a sender, unless it is done for this sender.  Dropping them before an operation
or after it comes to the same.  Conversely, no operation but those on implicit contexts changes
them on a node that was there before and is there after it.
-/

namespace LiveBinding.Tree

variable {tree before after : Tree} {sender other : SenderId}

/-! ### What is seen without them -/

/-- A node without the implicit context of a sender. -/
def Node.without (node : Node) (sender : SenderId) : Node :=
  { node with implicits := node.implicits.filter (·.1 ≠ sender) }

theorem contains_clearImplicit (tree : Tree) (sender : SenderId) (id : NodeId) :
    (tree.clearImplicit sender).contains id = tree.contains id :=
  (sameContexts_clearImplicit tree sender).contains id

theorem parent?_clearImplicit (tree : Tree) (sender : SenderId) (id : NodeId) :
    (tree.clearImplicit sender).parent? id = tree.parent? id :=
  (sameContexts_clearImplicit tree sender).parent? id

theorem declared_clearImplicit (tree : Tree) (sender : SenderId) (id : NodeId) :
    (tree.clearImplicit sender).declared id = tree.declared id :=
  (sameContexts_clearImplicit tree sender).declared id

theorem children_clearImplicit (tree : Tree) (sender : SenderId) (id : NodeId) :
    (tree.clearImplicit sender).children id = tree.children id := by
  rw [children_eq_map, node?_clearImplicit, Option.map_map, children_eq_map]
  rfl

theorem context?_clearImplicit (tree : Tree) (sender : SenderId) (id : NodeId) (name : String) :
    (tree.clearImplicit sender).context? id name = tree.context? id name := by
  rw [context?, declared_clearImplicit, context?]

theorem slots_length_clearImplicit (tree : Tree) (sender : SenderId) :
    (tree.clearImplicit sender).slots.length = tree.slots.length :=
  List.length_map _

theorem ancestors_clearImplicit (tree : Tree) (sender : SenderId) (id : NodeId) :
    (tree.clearImplicit sender).ancestors id = tree.ancestors id := by
  rw [ancestors, ancestors, slots_length_clearImplicit]
  generalize tree.slots.length = count
  induction count generalizing id with
  | zero => rfl
  | succ count ih =>
      rw [ancestorsWithin, ancestorsWithin, parent?_clearImplicit]
      cases tree.parent? id with
      | none => rfl
      | some parent => exact congrArg (id :: ·) (ih parent)

theorem subtree_clearImplicit (tree : Tree) (sender : SenderId) (id : NodeId) :
    (tree.clearImplicit sender).subtree id = tree.subtree id := by
  rw [subtree, subtree, slots_length_clearImplicit]
  generalize tree.slots.length = depth
  induction depth generalizing id with
  | zero => rfl
  | succ depth ih =>
      rw [subtreeWithin, subtreeWithin, node?_clearImplicit]
      cases tree.node? id with
      | none => rfl
      | some node =>
          exact congrArg (id :: List.flatten ·) (List.map_congr_left fun child _ => ih child)

theorem declaredEntries_clearImplicit (tree : Tree) (sender : SenderId) :
    (tree.clearImplicit sender).declaredEntries = tree.declaredEntries := by
  funext id
  rw [declaredEntries, declared_clearImplicit, declaredEntries]

theorem scope_clearImplicit (tree : Tree) (sender : SenderId) (id : NodeId) :
    (tree.clearImplicit sender).scope id = tree.scope id := by
  rw [scope, ancestors_clearImplicit, declaredEntries_clearImplicit, scope]

/-- Other senders keep their implicit contexts. -/
theorem lookup_filter_ne (different : other ≠ sender) (implicits : List (SenderId × Context)) :
    (implicits.filter (·.1 ≠ sender)).lookup other = implicits.lookup other := by
  induction implicits with
  | nil => rfl
  | cons entry rest ih =>
      by_cases dropped : entry.1 = sender
      · have elsewhere : ¬other = entry.1 := fun same => different (same.trans dropped)
        rw [List.filter_cons_of_neg (by simpa using dropped), ih, List.lookup_cons,
          beq_eq_false_iff_ne.mpr elsewhere]
      · rw [List.filter_cons_of_pos (by simpa using dropped), List.lookup_cons, List.lookup_cons,
          ih]

theorem implicit?_clearImplicit (different : other ≠ sender) (tree : Tree) (id : NodeId) :
    (tree.clearImplicit sender).implicit? id other = tree.implicit? id other := by
  rw [implicit?, implicit?, node?_clearImplicit, Option.bind_map]
  cases tree.node? id with
  | none => rfl
  | some node => exact lookup_filter_ne different node.implicits

theorem scopeFor_clearImplicit (different : other ≠ sender) (tree : Tree) (id : NodeId) :
    (tree.clearImplicit sender).scopeFor id other = tree.scopeFor id other := by
  have entries :
      (tree.clearImplicit sender).implicitEntries other = tree.implicitEntries other := by
    funext above
    rw [implicitEntries, implicit?_clearImplicit different, implicitEntries]
  rw [scopeFor, ancestors_clearImplicit, declaredEntries_clearImplicit, entries, scopeFor]

/-! ### Operations before and after dropping them -/

/-- What is changed in one place of a list may be changed before all places are. -/
theorem modify_map {α β : Type} {part : α → β} {change : α → α} {changed : β → β}
    (commutes : ∀ item, changed (part item) = part (change item)) (items : List α) (index : Nat) :
    (items.map part).modify index changed = (items.modify index change).map part := by
  refine List.ext_getElem? fun place => ?_
  rw [List.getElem?_modify, List.getElem?_map, List.getElem?_map, List.getElem?_modify,
    Option.map_eq_map, Option.map_eq_map, Option.map_map, Option.map_map]
  refine congrArg (Option.map · items[place]?) (funext fun item => ?_)
  simp only [Function.comp_apply]
  split
  · exact commutes item
  · rfl

/-- A change of a node that commutes with dropping implicit contexts may come first. -/
theorem modifyNode_clearImplicit {change : Node → Node}
    (commutes : ∀ node, change (node.without sender) = (change node).without sender)
    (tree : Tree) (id : NodeId) :
    (tree.clearImplicit sender).modifyNode id change =
      (tree.modifyNode id change).clearImplicit sender := by
  rw [modifyNode, modifyNode, contains_clearImplicit]
  split
  · refine congrArg (Tree.mk · tree.free) (modify_map ?_ tree.slots id.index)
    rintro ⟨generation, content⟩
    cases content with
    | none => rfl
    | some node => exact congrArg (Slot.mk generation <| some ·) (commutes node)
  · rfl

/-- A change of what is dropped leaves no trace. -/
theorem clearImplicit_modifyNode {change : Node → Node}
    (hidden : ∀ holder, (change holder).without sender = holder.without sender) (tree : Tree)
    (node : NodeId) :
    (tree.modifyNode node change).clearImplicit sender = tree.clearImplicit sender := by
  rw [modifyNode]
  split
  · let drop : Slot → Slot := fun slot =>
      { slot with node := slot.node.map (Node.without · sender) }
    let alter : Slot → Slot := fun slot => { slot with node := slot.node.map change }
    have dropped : ∀ slot, id (drop slot) = drop (alter slot) := by
      rintro ⟨generation, content⟩
      cases content with
      | none => rfl
      | some holder => exact congrArg (Slot.mk generation <| some ·) (hidden holder).symm
    have same := modify_map dropped tree.slots node.index
    rw [List.modify_id] at same
    exact congrArg (Tree.mk · tree.free) same.symm
  · rfl

theorem free_clearImplicit (tree : Tree) (sender : SenderId) :
    (tree.clearImplicit sender).free = tree.free := rfl

theorem nextHandle_clearImplicit (tree : Tree) (sender : SenderId) :
    (tree.clearImplicit sender).nextHandle = tree.nextHandle := by
  rw [nextHandle, nextHandle, free_clearImplicit]
  cases tree.free with
  | nil => simp only [slots_length_clearImplicit]
  | cons index rest =>
      simp only [clearImplicit, List.getElem?_map]
      cases tree.slots[index]? <;> rfl

/-- A new node has no implicit contexts. -/
theorem place_clearImplicit (tree : Tree) (sender : SenderId) (parent : Option NodeId) :
    (tree.clearImplicit sender).place { parent } =
      (tree.place { parent }).clearImplicit sender := by
  rw [place, place, free_clearImplicit]
  cases tree.free with
  | nil => simp [clearImplicit]
  | cons index rest =>
      simp only [clearImplicit, List.map_set, List.getElem?_map]
      cases tree.slots[index]? <;> rfl

theorem enlist_clearImplicit (tree : Tree) (sender : SenderId) (parent : Option NodeId)
    (child : NodeId) :
    (tree.clearImplicit sender).enlist parent child =
      (tree.enlist parent child).clearImplicit sender := by
  cases parent with
  | none => rfl
  | some above => exact modifyNode_clearImplicit (fun _ => rfl) tree above

theorem attach_clearImplicit (tree : Tree) (sender : SenderId) (parent : Option NodeId) :
    (tree.clearImplicit sender).attach parent =
      (tree.attach parent).map (Prod.map id (·.clearImplicit sender)) := by
  simp only [attach_eq, contains_clearImplicit, nextHandle_clearImplicit, place_clearImplicit]
  cases parent.filter (!tree.contains ·) with
  | some unknown => rfl
  | none =>
      simp only [enlist_clearImplicit]
      rfl

theorem release_clearImplicit (tree : Tree) (sender : SenderId) (node : NodeId) :
    (tree.clearImplicit sender).release node = (tree.release node).clearImplicit sender := by
  refine congrArg (Tree.mk · (node.index :: tree.free)) (modify_map ?_ tree.slots node.index)
  exact fun _ => rfl

theorem releaseAll_clearImplicit (tree : Tree) (sender : SenderId) (removed : List NodeId) :
    removed.foldl release (tree.clearImplicit sender) =
      (removed.foldl release tree).clearImplicit sender := by
  induction removed generalizing tree with
  | nil => rfl
  | cons node rest ih =>
      rw [List.foldl_cons, release_clearImplicit]
      exact ih (tree.release node)

theorem unlink_clearImplicit (tree : Tree) (sender : SenderId) (node : NodeId) :
    (tree.clearImplicit sender).unlink node = (tree.unlink node).clearImplicit sender := by
  rw [unlink, unlink, parent?_clearImplicit]
  cases tree.parent? node with
  | none => rfl
  | some parent => exact modifyNode_clearImplicit (fun _ => rfl) tree parent

theorem detach_clearImplicit (tree : Tree) (sender : SenderId) (node : NodeId) :
    (tree.clearImplicit sender).detach node =
      Prod.map id (·.clearImplicit sender) (tree.detach node) := by
  rw [detach, detach, subtree_clearImplicit, unlink_clearImplicit, releaseAll_clearImplicit]
  rfl

theorem declare_clearImplicit (tree : Tree) (sender : SenderId) (node : NodeId)
    (context : Context) :
    (tree.clearImplicit sender).declare node context =
      (tree.declare node context).map (Prod.map id (·.clearImplicit sender)) := by
  rw [declare, declare, contains_clearImplicit, context?_clearImplicit]
  split
  · rw [modifyNode_clearImplicit (fun _ => rfl)]
    rfl
  · rfl

theorem removeContext_clearImplicit (tree : Tree) (sender : SenderId) (node : NodeId)
    (name : String) :
    (tree.clearImplicit sender).removeContext node name =
      (tree.removeContext node name).map (Prod.map id (·.clearImplicit sender)) := by
  rw [removeContext, removeContext, context?_clearImplicit, Option.map_map]
  refine congrArg (Option.map · (tree.context? node name)) (funext fun context => ?_)
  exact congrArg (Prod.mk context) (modifyNode_clearImplicit (fun _ => rfl) tree node)

theorem writeContext_clearImplicit (tree : Tree) (sender : SenderId) (node : NodeId)
    (name : String) (change : Value → Option Value) :
    (tree.clearImplicit sender).writeContext node name change =
      (tree.writeContext node name change).map (·.clearImplicit sender) := by
  rw [writeContext, writeContext, context?_clearImplicit]
  cases tree.context? node name with
  | none => rfl
  | some context =>
      rw [Option.bind_some, Option.bind_some, Option.map_map]
      refine congrArg (Option.map · (change context.value)) (funext fun value => ?_)
      exact modifyNode_clearImplicit (fun _ => rfl) tree node

/-! ### Operations on implicit contexts -/

/-- A new implicit context of another sender goes to the same place. -/
theorem putImplicit_filter_ne (different : other ≠ sender) (context : Context)
    (implicits : List (SenderId × Context)) :
    putImplicit other context (implicits.filter (·.1 ≠ sender)) =
      (putImplicit other context implicits).filter (·.1 ≠ sender) := by
  induction implicits with
  | nil => simp [putImplicit, different]
  | cons entry rest ih =>
      obtain ⟨owner, old⟩ := entry
      by_cases dropped : owner = sender
      · have elsewhere : ¬sender = other := fun same => different same.symm
        subst dropped
        rw [List.filter_cons_of_neg (by simp), putImplicit, if_neg elsewhere,
          List.filter_cons_of_neg (by simp), ih]
      · rw [List.filter_cons_of_pos (by simpa using dropped), putImplicit, putImplicit]
        split
        · rw [List.filter_cons_of_pos (by simpa using different)]
        · rw [List.filter_cons_of_pos (by simpa using dropped), ih]

/-- A new implicit context of the sender itself is dropped again. -/
theorem filter_ne_putImplicit (context : Context) (implicits : List (SenderId × Context)) :
    (putImplicit sender context implicits).filter (·.1 ≠ sender) =
      implicits.filter (·.1 ≠ sender) := by
  induction implicits with
  | nil => simp [putImplicit]
  | cons entry rest ih =>
      obtain ⟨owner, old⟩ := entry
      rw [putImplicit]
      split
      · next same =>
          rw [same, List.filter_cons_of_neg (by simp), List.filter_cons_of_neg (by simp)]
      · next different =>
          rw [List.filter_cons_of_pos (by simpa using different),
            List.filter_cons_of_pos (by simpa using different), ih]

theorem setImplicit_clearImplicit (different : other ≠ sender) (tree : Tree) (node : NodeId)
    (context : Context) :
    (tree.clearImplicit sender).setImplicit node other context =
      (tree.setImplicit node other context).map (·.clearImplicit sender) := by
  rw [setImplicit, setImplicit, contains_clearImplicit]
  split
  · rw [modifyNode_clearImplicit fun holder => congrArg (Node.mk holder.parent holder.children
      holder.contexts) (putImplicit_filter_ne different context holder.implicits)]
    rfl
  · rfl

theorem clearImplicit_setImplicit {node : NodeId} {context : Context}
    (done : tree.setImplicit node sender context = .ok after) :
    after.clearImplicit sender = tree.clearImplicit sender := by
  rw [setImplicit] at done
  split at done
  · cases done
    refine clearImplicit_modifyNode (fun holder => ?_) tree node
    exact congrArg (Node.mk holder.parent holder.children holder.contexts)
      (filter_ne_putImplicit context holder.implicits)
  · contradiction

theorem clearImplicit_comm (tree : Tree) (sender other : SenderId) :
    (tree.clearImplicit sender).clearImplicit other =
      (tree.clearImplicit other).clearImplicit sender := by
  refine congrArg (Tree.mk · tree.free) ?_
  simp only [clearImplicit, List.map_map]
  refine List.map_congr_left fun slot _ => ?_
  obtain ⟨generation, content⟩ := slot
  cases content with
  | none => rfl
  | some node =>
      simp only [Function.comp_apply, Option.map_some, List.filter_filter, Bool.and_comm]

theorem clearImplicit_self (tree : Tree) (sender : SenderId) :
    (tree.clearImplicit sender).clearImplicit sender = tree.clearImplicit sender := by
  refine congrArg (Tree.mk · tree.free) ?_
  simp only [clearImplicit, List.map_map]
  refine List.map_congr_left fun slot _ => ?_
  obtain ⟨generation, content⟩ := slot
  cases content with
  | none => rfl
  | some node =>
      simp only [Function.comp_apply, Option.map_some, List.filter_filter, Bool.and_self]

theorem countImplicit_clearImplicit (different : other ≠ sender) (tree : Tree) :
    (tree.clearImplicit sender).countImplicit other = tree.countImplicit other := by
  simp only [countImplicit, clearImplicit, List.foldl_map]
  refine congrArg (fun count => List.foldl count 0 tree.slots) ?_
  funext total slot
  obtain ⟨generation, content⟩ := slot
  cases content with
  | none => rfl
  | some node =>
      simp only [Option.map_some, Option.elim_some, List.countP_filter]
      refine congrArg (total + ·) (List.countP_congr fun entry _ => ?_)
      constructor
      · intro both
        exact (Bool.and_eq_true_iff.mp both).1
      · intro here
        have apart : entry.1 ≠ sender := fun same =>
          different ((beq_iff_eq.mp here).symm.trans same)
        simpa [here] using apart

/-! ### Who may change implicit contexts -/

/-- The nodes of the later tree were in the earlier one, with the same implicit contexts. -/
def ShrinksTo (before after : Tree) : Prop :=
  ∀ node new, after.node? node = some new →
    ∃ old, before.node? node = some old ∧ new.implicits = old.implicits

/-- The nodes of both trees have the same implicit contexts in them. -/
def KeepsImplicits (before after : Tree) : Prop :=
  ∀ node old new, before.node? node = some old → after.node? node = some new →
    new.implicits = old.implicits

theorem ShrinksTo.refl (tree : Tree) : tree.ShrinksTo tree := fun _ new found => ⟨new, found, rfl⟩

theorem ShrinksTo.trans {middle : Tree} (first : before.ShrinksTo middle)
    (second : middle.ShrinksTo after) : before.ShrinksTo after := by
  intro node new found
  obtain ⟨between, foundBetween, same⟩ := second node new found
  obtain ⟨old, foundOld, sameOld⟩ := first node between foundBetween
  exact ⟨old, foundOld, same.trans sameOld⟩

theorem ShrinksTo.keepsImplicits (shrinks : before.ShrinksTo after) :
    before.KeepsImplicits after := by
  intro node old new foundOld foundNew
  obtain ⟨found, here, same⟩ := shrinks node new foundNew
  rw [foundOld] at here
  cases here
  exact same

theorem shrinksTo_modifyNode {change : Node → Node}
    (keeps : ∀ holder, (change holder).implicits = holder.implicits) (tree : Tree)
    (node : NodeId) : tree.ShrinksTo (tree.modifyNode node change) := by
  intro other new found
  rw [node?_modifyNode] at found
  split at found
  · next here =>
      obtain ⟨old, foundOld, rfl⟩ := Option.map_eq_some_iff.mp found
      exact ⟨old, here ▸ foundOld, keeps old⟩
  · exact ⟨new, found, rfl⟩

theorem shrinksTo_withContext (tree : Tree) (node : NodeId) (context : Context) :
    tree.ShrinksTo (tree.withContext node context) := by
  apply shrinksTo_modifyNode
  exact fun _ => rfl

theorem shrinksTo_withoutContext (tree : Tree) (node : NodeId) (name : String) :
    tree.ShrinksTo (tree.withoutContext node name) := by
  apply shrinksTo_modifyNode
  exact fun _ => rfl

theorem WellFormed.shrinksTo_detach (sound : tree.WellFormed) (node : NodeId) :
    tree.ShrinksTo (tree.detach node).2 := by
  intro other new found
  rw [node?_detach sound] at found
  split at found
  · contradiction
  · obtain ⟨old, foundOld, rfl⟩ := Option.map_eq_some_iff.mp found
    exact ⟨old, foundOld, rfl⟩

theorem WellFormed.keepsImplicits_grown (sound : tree.WellFormed) {parent : Option NodeId}
    (known : ∀ above, parent = some above → tree.contains above = true) :
    tree.KeepsImplicits (tree.grown parent) := by
  intro node old new foundOld foundNew
  rw [node?_grown sound known, if_neg (ne_nextHandle_of_contains sound
    (contains_of_node? foundOld))] at foundNew
  split at foundNew
  · rw [foundOld] at foundNew
    cases foundNew
    rfl
  · rw [foundOld] at foundNew
    cases foundNew
    rfl

end LiveBinding.Tree
