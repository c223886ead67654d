import LiveBinding.Proofs.Context.Generations
import LiveBinding.Proofs.Engine.Soundness

/-!
# What is gone does not come back

Numbers of subscriptions are given out once, and handles of nodes are not used again while fewer
than `2 ^ 32` nodes were attached.  Hence a subscription that is over and a handle that is spent
stay so in all that an engine does later.
-/

namespace LiveBinding.Engine

variable {κ σ : Type} {engine before after : Engine κ σ} {id : SubscriptionId} {node : NodeId}
variable {bound : Nat}

/-! ### Subscriptions -/

/-- A subscription that there was, and that is gone. -/
def IsOver (engine : Engine κ σ) (id : SubscriptionId) : Prop :=
  id.number ≤ engine.subscriptions.issued ∧ engine.subscriptions.get? id = none

theorem issued_change (change : Change before after) :
    after.subscriptions.issued = before.subscriptions.issued := by
  cases change with
  | remember | unbind | detach | write => rfl
  | rebind id text =>
      obtain ⟨-, result⟩ | ⟨_, _, _, -, ⟨_, -, -, result⟩ | ⟨_, result⟩⟩ :=
        before.rebind_cases id text
      all_goals rw [result]
      · rfl
      · rfl

theorem ordered_change (ordered : before.subscriptions.Ordered) (change : Change before after) :
    after.subscriptions.Ordered := by
  cases change with
  | remember | write => exact ordered
  | unbind id => exact ordered.remove id
  | rebind id text => exact ordered_rebind ordered id text
  | detach node => exact ordered.removeOn _

/-- A change makes no subscription, and moves none to another node or listener. -/
theorem get?_change (ordered : before.subscriptions.Ordered) (change : Change before after)
    {subscription : Subscription κ} (found : after.subscriptions.get? id = some subscription) :
    ∃ old, before.subscriptions.get? id = some old ∧ old.node = subscription.node ∧
      old.listener = subscription.listener := by
  cases change with
  | remember | write => exact ⟨subscription, found, rfl, rfl⟩
  | unbind other =>
      rw [get?_unbind] at found
      split at found
      · contradiction
      · exact ⟨subscription, found, rfl, rfl⟩
  | rebind other text =>
      obtain ⟨old, oldFound, sameNode, sameListener, -⟩ := get?_rebind found
      exact ⟨old, oldFound, sameNode, sameListener⟩
  | detach node =>
      have live := ((Subscriptions.get?_removeOn_eq_some_iff ordered).mp found).1
      exact ⟨subscription, live, rfl, rfl⟩

theorem get?_evolves (ordered : before.subscriptions.Ordered) (changes : Evolves before after)
    {subscription : Subscription κ} (found : after.subscriptions.get? id = some subscription) :
    ∃ old, before.subscriptions.get? id = some old ∧ old.node = subscription.node ∧
      old.listener = subscription.listener := by
  induction changes using Relation.ReflTransGen.head_induction_on with
  | refl => exact ⟨subscription, found, rfl, rfl⟩
  | head change _ ih =>
      obtain ⟨middle, middleFound, middleNode, middleListener⟩ := ih (ordered_change ordered change)
      obtain ⟨old, oldFound, oldNode, oldListener⟩ := get?_change ordered change middleFound
      exact ⟨old, oldFound, oldNode.trans middleNode, oldListener.trans middleListener⟩

theorem IsOver.change (ended : before.IsOver id) (sound : before.Sound)
    (change : Change before after) : after.IsOver id := by
  refine ⟨(issued_change change).symm ▸ ended.1, ?_⟩
  cases found : after.subscriptions.get? id with
  | none => rfl
  | some subscription =>
      obtain ⟨old, oldFound, -⟩ := get?_change sound.store change found
      rw [ended.2] at oldFound
      contradiction

theorem issued_evolves (changes : Evolves before after) :
    after.subscriptions.issued = before.subscriptions.issued := by
  induction changes with
  | refl => rfl
  | tail _ change ih => exact (issued_change change).trans ih

theorem IsOver.evolves (ended : before.IsOver id) (sound : before.Sound)
    (changes : Evolves before after) : after.IsOver id := by
  induction changes with
  | refl => exact ended
  | tail changes change ih => exact ih.change (sound.evolves changes) change

theorem IsOver.opening (ended : before.IsOver id) (sound : before.Sound)
    (opening : Opening before after) : after.IsOver id := by
  cases opening with
  | change change => exact ended.change sound change
  | subscribe live readable =>
      refine ⟨Nat.le_succ_of_le ended.1, ?_⟩
      rw [Subscriptions.get?_add sound.store, if_neg]
      · exact ended.2
      · rintro rfl
        exact Nat.not_succ_le_self _ ended.1
  | idle | attach | put | take | setImplicit | clearImplicit => exact ended

/-! ### Nodes -/

/-- A sound engine in the tree of which no slot was filled more than so many times. -/
structure Young (bound : Nat) (engine : Engine κ σ) : Prop where
  sound : engine.Sound
  tree : engine.tree.FilledAtMost bound

/-- A change leaves the slots alone, or it detaches a node. -/
theorem slots_change (change : Change before after) :
    Tree.SameSlots before.tree after.tree ∨ ∃ node, after.tree = (before.tree.detach node).2 := by
  cases change with
  | remember | unbind => exact .inl (.refl _)
  | rebind id text =>
      rw [tree_rebind]
      exact .inl (.refl _)
  | detach node => exact .inr ⟨node, rfl⟩
  | write written =>
      obtain ⟨_, _, _, -, -, -, -, rfl⟩ := writeTree_eq_ok_iff.mp written
      exact .inl (.modifyNode _ _ _)

/-- An opening leaves the slots alone, or it attaches a node, or it is a change. -/
theorem slots_opening (opening : Opening before after) :
    Change before after ∨ Tree.SameSlots before.tree after.tree ∨
      ∃ parent, after.tree = before.tree.grown parent := by
  cases opening with
  | change change => exact .inl change
  | idle | subscribe => exact .inr (.inl (.refl _))
  | put | take => exact .inr (.inl (.modifyNode _ _ _))
  | setImplicit done => exact .inr (.inl (.setImplicit done))
  | clearImplicit sender => exact .inr (.inl (.clearImplicit _ sender))
  | attach known => exact .inr (.inr ⟨_, rfl⟩)

theorem Young.change (young : before.Young bound) (small : bound < 2 ^ 32)
    (change : Change before after) : after.Young bound := by
  refine ⟨young.sound.change change, ?_⟩
  obtain same | ⟨node, result⟩ := slots_change change
  · exact young.tree.congr same
  · rw [result]
    exact young.tree.detach young.sound.tree small node

theorem Young.evolves (young : before.Young bound) (small : bound < 2 ^ 32)
    (changes : Evolves before after) : after.Young bound := by
  induction changes with
  | refl => exact young
  | tail _ change ih => exact ih.change small change

/-- At most one slot is filled when an operation opens. -/
theorem Young.opening (young : before.Young bound) (small : bound < 2 ^ 32)
    (opening : Opening before after) : after.Young (bound + 1) := by
  refine ⟨young.sound.opening opening, ?_⟩
  obtain change | same | ⟨parent, result⟩ := slots_opening opening
  · exact (young.change small change).tree.mono
  · exact (young.tree.congr same).mono
  · rw [result]
    exact young.tree.grown young.sound.tree parent

theorem Young.perform (young : engine.Young bound) (small : bound + 1 < 2 ^ 32)
    (listen : Listen κ σ) (request : Request κ) :
    (engine.perform listen request).engine.Young (bound + 1) := by
  have smaller : bound < 2 ^ 32 := Nat.lt_of_succ_lt small
  obtain ⟨opened, opening, ⟨result, -⟩ | ⟨told, result, -⟩⟩ := engine.perform_cases listen request
  · rw [result]
    exact young.opening smaller opening
  · rw [result]
    exact (young.opening smaller opening).evolves small (evolves_settle listen opened told)

/-- A handle that is spent stays spent. -/
theorem isSpent_change (spent : before.tree.IsSpent node) (young : before.Young bound)
    (small : bound < 2 ^ 32) (change : Change before after) : after.tree.IsSpent node := by
  obtain same | ⟨top, result⟩ := slots_change change
  · exact spent.congr same
  · rw [result]
    exact spent.detach young.sound.tree young.tree small top

theorem isSpent_evolves (spent : before.tree.IsSpent node) (young : before.Young bound)
    (small : bound < 2 ^ 32) (changes : Evolves before after) : after.tree.IsSpent node := by
  induction changes with
  | refl => exact spent
  | tail changes change ih => exact isSpent_change ih (young.evolves small changes) small change

theorem isSpent_opening (spent : before.tree.IsSpent node) (young : before.Young bound)
    (small : bound < 2 ^ 32) (opening : Opening before after) : after.tree.IsSpent node := by
  obtain change | same | ⟨parent, result⟩ := slots_opening opening
  · exact isSpent_change spent young small change
  · exact spent.congr same
  · rw [result]
    exact spent.grown young.sound.tree parent

/-- Detaching some nodes in turn spends all the handles that are below one of them. -/
theorem isSpent_detachAll (young : engine.Young bound) (small : bound < 2 ^ 32)
    {nodes : List NodeId} {top : NodeId} (listed : top ∈ nodes)
    (below : node ∈ engine.tree.subtree top) :
    (nodes.foldl (fun engine node => (engine.detach node).engine) engine).tree.IsSpent node := by
  induction nodes generalizing engine with
  | nil => contradiction
  | cons head rest ih =>
      have youngRest := young.change small (.detach engine head)
      by_cases inside : node ∈ engine.tree.subtree head
      · have spent := Tree.isSpent_of_mem_subtree young.sound.tree young.tree small inside
        exact isSpent_evolves spent youngRest small (evolves_detachAll rest _)
      · obtain rfl | later := List.mem_cons.mp listed
        · contradiction
        · obtain ⟨live, above⟩ := young.sound.tree.mem_subtree.mp below
          refine ih youngRest later (youngRest.sound.tree.mem_subtree.mpr ⟨?_, ?_⟩)
          · exact (Tree.contains_detach young.sound.tree head node).mpr ⟨live, inside⟩
          · rw [← Tree.ancestors_detach young.sound.tree live inside] at above
            exact above

end LiveBinding.Engine
