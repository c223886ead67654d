import LiveBinding.Proofs.Context.Visibility
import LiveBinding.Proofs.Engine.Calls
import LiveBinding.Proofs.Engine.Store
import Mathlib.Logic.Relation

/-!
# Sound engines

Between operations, and at every moment of a cascade, the tree of an engine is well formed, its
store is in order, and every live subscription stands on a node of the tree.  Cascades are made of
five kinds of changes; what these changes keep, whole cascades keep.
-/

namespace LiveBinding

namespace Engine

variable {κ σ : Type} {engine before after : Engine κ σ} {listen : Listen κ σ}

/-- What holds of an engine whenever a listener or a caller can look at it. -/
structure Sound (engine : Engine κ σ) : Prop where
  tree : engine.tree.WellFormed
  store : engine.subscriptions.Ordered
  onNodes : ∀ id subscription, engine.subscriptions.get? id = some subscription →
    engine.tree.contains subscription.node = true
  readable : ∀ id subscription, engine.subscriptions.get? id = some subscription →
    subscription.watched.IsReadable

/-- An engine that nothing was done with yet, with whatever operations. -/
def initial (settings : Settings) (registry : Registry) (memory : σ) : Engine κ σ :=
  { new settings memory with registry }

theorem Sound.initial (settings : Settings) (registry : Registry) (memory : σ) :
    (initial settings registry memory : Engine κ σ).Sound where
  tree := .empty
  store := .empty
  onNodes _ _ found := nomatch found
  readable _ _ found := nomatch found

/-- Sound engines may forget subscriptions and change what their nodes hold. -/
theorem Sound.of_fewer (sound : before.Sound) (tree : after.tree.WellFormed)
    (store : after.subscriptions.Ordered)
    (fewer : ∀ id subscription, after.subscriptions.get? id = some subscription →
      before.subscriptions.get? id = some subscription ∧
        after.tree.contains subscription.node = true) : after.Sound where
  tree := tree
  store := store
  onNodes id subscription found := (fewer id subscription found).2
  readable id subscription found :=
    sound.readable id subscription (fewer id subscription found).1

/-- A tree with the same nodes may take the place of the one that is there. -/
theorem Sound.withTree (sound : engine.Sound) {tree : Tree} (wellFormed : tree.WellFormed)
    (contains : ∀ id, engine.tree.contains id = true → tree.contains id = true) :
    Sound { engine with tree } :=
  sound.of_fewer wellFormed sound.store fun id subscription found =>
    ⟨found, contains _ (sound.onNodes id subscription found)⟩

/-! ### The changes of a cascade -/

/-- The changes that a cascade is made of. -/
inductive Change : Engine κ σ → Engine κ σ → Prop where
  | remember (engine : Engine κ σ) (memory : σ) : Change engine { engine with memory }
  | unbind (engine : Engine κ σ) (id : SubscriptionId) : Change engine (engine.unbind id).engine
  | rebind (engine : Engine κ σ) (id : SubscriptionId) (text : String) :
      Change engine (engine.rebind id text).engine
  | detach (engine : Engine κ σ) (node : NodeId) : Change engine (engine.detach node).engine
  | write {engine : Engine κ σ} {request : WriteRequest} {owner : NodeId} {tree : Tree} :
      engine.writeTree request = .ok (owner, tree) → Change engine { engine with tree }

/-- Changes one after the other. -/
abbrev Evolves (before after : Engine κ σ) : Prop := Relation.ReflTransGen Change before after

theorem Evolves.foldl {α : Type} {step : Round κ σ → α → Round κ σ}
    (each : ∀ round item, Evolves round.engine (step round item).engine) (items : List α)
    (round : Round κ σ) : Evolves round.engine (items.foldl step round).engine := by
  induction items generalizing round with
  | nil => exact .refl
  | cons item rest ih => exact (each round item).trans (ih (step round item))

theorem evolves_take (round : Round κ σ) (effect : Effect) :
    Evolves round.engine (round.take effect).engine := by
  cases effect with
  | unbind id => exact .single (.unbind round.engine id)
  | write | detach | rebind => exact .refl

/-- Telling a subscription only remembers something and ends subscriptions. -/
theorem evolves_notify (listen : Listen κ σ) (round : Round κ σ) (id : SubscriptionId) :
    Evolves round.engine (round.notify listen id).engine := by
  obtain ⟨-, -, same⟩ | ⟨subscription, effects, memory, -, -, -, told⟩ :=
    round.notify_cases listen id
  · rw [same]
  · rw [told]
    exact .trans (.single (.remember round.engine memory))
      (Evolves.foldl evolves_take effects (round.afterTelling _ memory))

theorem evolves_rebindAll (rebindings : List (SubscriptionId × String)) (round : Round κ σ) :
    Evolves round.engine (rebindings.foldl Round.rebindOne round).engine :=
  Evolves.foldl (fun round item => .single (.rebind round.engine item.1 item.2)) rebindings round

theorem evolves_detachAll (nodes : List NodeId) (engine : Engine κ σ) :
    Evolves engine (nodes.foldl (fun engine node => (engine.detach node).engine) engine) := by
  induction nodes generalizing engine with
  | nil => exact .refl
  | cons node rest ih => exact .trans (.single (.detach engine node)) (ih _)

theorem evolves_close (round : Round κ σ) : Evolves round.engine round.close.engine := by
  rw [Round.close, Round.engine_detachAll]
  exact .trans (evolves_rebindAll round.rebinds round) (evolves_detachAll round.detaches _)

theorem evolves_round (listen : Listen κ σ) (engine : Engine κ σ)
    (told : List SubscriptionId) : Evolves engine (Round.run listen engine told).engine :=
  .trans (Evolves.foldl (evolves_notify listen) told { engine }) (evolves_close _)

theorem evolves_drain (listen : Listen κ σ) (budget : Nat) (queue : List WriteRequest)
    (engine : Engine κ σ) : Evolves engine (drain listen budget queue engine).1 := by
  fun_induction drain listen budget queue engine with
  | case1 => exact .refl
  | case2 => exact .refl
  | case3 budget request rest engine error failed final journal drained ih =>
      rw [drained] at ih
      exact ih
  | case4 budget request rest engine owner tree written changed round final journal drained ih =>
      rw [drained] at ih
      exact .trans (.trans (.single (.write written)) (evolves_round listen changed _)) ih

theorem evolves_settle (listen : Listen κ σ) (engine : Engine κ σ)
    (told : List SubscriptionId) : Evolves engine (settle listen engine told).1 :=
  .trans (evolves_round listen engine told) (evolves_drain listen _ _ _)

/-! ### The openings of operations -/

/-- What an operation does before it tells anybody. -/
inductive Opening : Engine κ σ → Engine κ σ → Prop where
  | idle (engine : Engine κ σ) : Opening engine engine
  | change {before after : Engine κ σ} : Change before after → Opening before after
  | attach {engine : Engine κ σ} {parent : Option NodeId} :
      (∀ above, parent = some above → engine.tree.contains above = true) →
        Opening engine { engine with tree := engine.tree.grown parent }
  | put {engine : Engine κ σ} {node : NodeId} (context : Context) :
      engine.tree.contains node = true →
        Opening engine { engine with tree := engine.tree.withContext node context }
  | take {engine : Engine κ σ} {node : NodeId} {name : String} {context : Context} :
      engine.tree.context? node name = some context →
        Opening engine { engine with tree := engine.tree.withoutContext node name }
  | setImplicit {engine : Engine κ σ} {node : NodeId} {sender : SenderId} {context : Context}
      {tree : Tree} : engine.tree.setImplicit node sender context = .ok tree →
        Opening engine { engine with tree }
  | clearImplicit (engine : Engine κ σ) (sender : SenderId) :
      Opening engine { engine with tree := engine.tree.clearImplicit sender }
  | subscribe {engine : Engine κ σ} {subscription : Subscription κ} :
      engine.tree.contains subscription.node = true → subscription.watched.IsReadable →
        Opening engine { engine with subscriptions := engine.subscriptions.add subscription }

theorem opening_of_bindsOrNot {node : NodeId} {watched : Watched} {listener : κ}
    {step : Step κ σ (Except Tree.Error Bound)}
    (binds : engine.BindsOrNot node watched listener step) : Opening engine step.engine := by
  obtain ⟨-, ⟨same, -⟩ | ⟨live, readable, result, -⟩⟩ := binds
  · rw [same]
    exact .idle engine
  · rw [result]
    exact .subscribe live readable

/-- An operation opens with a step that calls nobody.  Then it is over, or else a cascade
follows. -/
theorem perform_cases (listen : Listen κ σ) (engine : Engine κ σ) (request : Request κ) :
    ∃ opened, Opening engine opened ∧
      (((engine.perform listen request).engine = opened ∧
          engine.performCalls listen request = []) ∨
        ∃ told, (engine.perform listen request).engine = (settle listen opened told).1 ∧
          engine.performCalls listen request = opened.settleCalls listen told) := by
  cases request with
  | attach parent =>
      refine ⟨_, ?_, .inl ⟨rfl, rfl⟩⟩
      rw [perform, Step.map, Engine.attach]
      cases done : engine.tree.attach parent with
      | error => exact .idle engine
      | ok result =>
          obtain ⟨known, rfl⟩ := Tree.attach_eq_ok_iff.mp done
          exact .attach known
  | detach node => exact ⟨_, .change (.detach engine node), .inl ⟨rfl, rfl⟩⟩
  | declare node context =>
      rw [perform, Step.map, Engine.declare, performCalls]
      cases declared : engine.tree.declare node context with
      | error => exact ⟨engine, .idle engine, .inl ⟨rfl, rfl⟩⟩
      | ok result =>
          obtain ⟨live, rfl⟩ := Tree.declare_eq_ok_iff.mp declared
          exact ⟨_, .put context live, .inr ⟨_, rfl, rfl⟩⟩
  | removeContext node name =>
      rw [perform, Step.map, Engine.removeContext, performCalls]
      cases removed : engine.tree.removeContext node name with
      | none => exact ⟨engine, .idle engine, .inl ⟨rfl, rfl⟩⟩
      | some result =>
          obtain ⟨context, tree⟩ := result
          obtain ⟨declared, rfl⟩ := Tree.removeContext_eq_some_iff.mp removed
          exact ⟨_, .take declared, .inr ⟨_, rfl, rfl⟩⟩
  | addImplicit node sender context =>
      refine ⟨_, ?_, .inl ⟨rfl, rfl⟩⟩
      rw [perform, Step.map, Engine.addImplicit]
      cases done : engine.tree.setImplicit node sender context with
      | error => exact .idle engine
      | ok tree => exact .setImplicit done
  | clearImplicit sender => exact ⟨_, .clearImplicit engine sender, .inl ⟨rfl, rfl⟩⟩
  | bind node text listener =>
      exact ⟨_, opening_of_bindsOrNot (engine.bind_bindsOrNot node text listener),
        .inl ⟨rfl, rfl⟩⟩
  | bindTemplate node text listener =>
      exact ⟨_, opening_of_bindsOrNot (engine.bindTemplate_bindsOrNot node text listener),
        .inl ⟨rfl, rfl⟩⟩
  | rebind id text => exact ⟨_, .change (.rebind engine id text), .inl ⟨rfl, rfl⟩⟩
  | unbind id => exact ⟨_, .change (.unbind engine id), .inl ⟨rfl, rfl⟩⟩
  | write request =>
      rw [perform, Step.map, Engine.write, performCalls]
      cases written : engine.writeTree request with
      | error => exact ⟨engine, .idle engine, .inl ⟨rfl, rfl⟩⟩
      | ok result =>
          obtain ⟨owner, tree⟩ := result
          exact ⟨_, .change (.write written), .inr ⟨_, rfl, rfl⟩⟩

/-! ### What the changes keep -/

theorem get?_unbind (engine : Engine κ σ) (id other : SubscriptionId) :
    (engine.unbind id).engine.subscriptions.get? other =
      if other = id then none else engine.subscriptions.get? other :=
  Subscriptions.get?_remove engine.subscriptions id other

/-- Detaching ends the subscriptions in the subtree. -/
theorem get?_detach_eq_some_iff (sound : engine.Sound) {node : NodeId} {id : SubscriptionId}
    {subscription : Subscription κ} :
    (engine.detach node).engine.subscriptions.get? id = some subscription ↔
      engine.subscriptions.get? id = some subscription ∧
        node ∉ engine.tree.ancestors subscription.node := by
  change (engine.subscriptions.removeOn (engine.tree.subtree node)).get? id = _ ↔ _
  rw [Subscriptions.get?_removeOn_eq_some_iff sound.store]
  refine and_congr_right fun found => not_congr ?_
  rw [sound.tree.mem_subtree]
  exact and_iff_right (sound.onNodes id subscription found)

/-- Those that outlive it keep their values. -/
theorem evaluateOn_detach (sound : engine.Sound) {node : NodeId} {id : SubscriptionId}
    {subscription : Subscription κ}
    (found : (engine.detach node).engine.subscriptions.get? id = some subscription) :
    (engine.detach node).engine.evaluateOn subscription.node subscription.watched =
      engine.evaluateOn subscription.node subscription.watched := by
  obtain ⟨live, outside⟩ := (get?_detach_eq_some_iff sound).mp found
  have sameScope : (engine.tree.detach node).2.scope subscription.node =
      engine.tree.scope subscription.node := by
    apply Tree.scope_detach sound.tree (sound.onNodes id subscription live)
    intro member
    exact outside (sound.tree.mem_subtree.mp member).2
  exact congrArg (subscription.watched.evaluate engine.registry) sameScope

/-- What a rebinding leaves of a subscription: its node and its listener, and what it watches
unless it is the one that was rebound. -/
theorem get?_rebind {id other : SubscriptionId} {text : String} {subscription : Subscription κ}
    (found : (engine.rebind id text).engine.subscriptions.get? other = some subscription) :
    ∃ old, engine.subscriptions.get? other = some old ∧ old.node = subscription.node ∧
      old.listener = subscription.listener ∧
      (subscription.watched = old.watched ∨ subscription.watched.IsReadable) := by
  obtain ⟨-, result⟩ | ⟨current, warnings, live, -, ⟨watched, -, readable, result⟩ |
    ⟨value, result⟩⟩ := engine.rebind_cases id text
  all_goals rw [result] at found
  · exact ⟨subscription, found, rfl, rfl, .inl rfl⟩
  · simp only [Subscriptions.get?_retarget, live, Option.map_some] at found
    split at found
    · next same =>
        cases found
        exact ⟨current, same ▸ live, rfl, rfl, .inr readable⟩
    · exact ⟨subscription, found, rfl, rfl, .inl rfl⟩
  · simp only [Subscriptions.get?_remove] at found
    split at found
    · contradiction
    · exact ⟨subscription, found, rfl, rfl, .inl rfl⟩

theorem ordered_rebind (ordered : engine.subscriptions.Ordered) (id : SubscriptionId)
    (text : String) : (engine.rebind id text).engine.subscriptions.Ordered := by
  obtain ⟨-, result⟩ | ⟨_, _, _, -, ⟨watched, -, -, result⟩ | ⟨_, result⟩⟩ :=
    engine.rebind_cases id text
  all_goals rw [result]
  · exact ordered
  · exact ordered.retarget id watched
  · exact ordered.remove id

theorem Sound.unbind (sound : engine.Sound) (id : SubscriptionId) :
    (engine.unbind id).engine.Sound := by
  refine sound.of_fewer sound.tree (sound.store.remove id) fun other subscription found => ?_
  rw [get?_unbind] at found
  split at found
  · contradiction
  · exact ⟨found, sound.onNodes other subscription found⟩

theorem Sound.detach (sound : engine.Sound) (node : NodeId) :
    (engine.detach node).engine.Sound := by
  refine sound.of_fewer (sound.tree.detach node) (sound.store.removeOn _) ?_
  intro id subscription found
  obtain ⟨found, outside⟩ := (get?_detach_eq_some_iff sound).mp found
  have live := sound.onNodes id subscription found
  refine ⟨found, (Tree.contains_detach sound.tree node _).mpr ⟨live, fun member => outside ?_⟩⟩
  exact (sound.tree.mem_subtree.mp member).2

/-- Those who outlive the detaching of some nodes were below none of them. -/
theorem get?_detachAll (sound : engine.Sound) (nodes : List NodeId) {id : SubscriptionId}
    {subscription : Subscription κ}
    (found : (nodes.foldl (fun engine node => (engine.detach node).engine)
      engine).subscriptions.get? id = some subscription) :
    engine.subscriptions.get? id = some subscription ∧
      ∀ node ∈ nodes, node ∉ engine.tree.ancestors subscription.node := by
  induction nodes generalizing engine with
  | nil => exact ⟨found, fun _ impossible => nomatch impossible⟩
  | cons node rest ih =>
      obtain ⟨later, outsideRest⟩ := ih (sound.detach node) found
      obtain ⟨live, outside⟩ := (get?_detach_eq_some_iff sound).mp later
      have sameAncestors := Tree.ancestors_detach sound.tree
        (sound.onNodes id subscription live)
        fun member => outside (sound.tree.mem_subtree.mp member).2
      refine ⟨live, fun other listed => ?_⟩
      obtain rfl | listed := List.mem_cons.mp listed
      · exact outside
      · rw [← sameAncestors]
        exact outsideRest other listed

theorem Sound.rebind (sound : engine.Sound) (id : SubscriptionId) (text : String) :
    (engine.rebind id text).engine.Sound where
  tree := by
    rw [tree_rebind]
    exact sound.tree
  store := ordered_rebind sound.store id text
  onNodes other subscription found := by
    obtain ⟨old, oldFound, sameNode, -⟩ := get?_rebind found
    rw [tree_rebind, ← sameNode]
    exact sound.onNodes other old oldFound
  readable other subscription found := by
    obtain ⟨old, oldFound, -, -, same | readable⟩ := get?_rebind found
    · rw [same]
      exact sound.readable other old oldFound
    · exact readable

theorem Sound.withContext (sound : engine.Sound) (node : NodeId) (context : Context) :
    Sound { engine with tree := engine.tree.withContext node context } :=
  sound.withTree (sound.tree.withContext node context) fun id live =>
    ((Tree.sameShape_withContext _ _ _).contains id).trans live

theorem Sound.withoutContext (sound : engine.Sound) (node : NodeId) (name : String) :
    Sound { engine with tree := engine.tree.withoutContext node name } :=
  sound.withTree (sound.tree.withoutContext node name) fun id live =>
    ((Tree.sameShape_withoutContext _ _ _).contains id).trans live

theorem Sound.change (sound : before.Sound) (change : Change before after) : after.Sound := by
  cases change with
  | remember memory => exact ⟨sound.tree, sound.store, sound.onNodes, sound.readable⟩
  | unbind id => exact sound.unbind id
  | rebind id text => exact sound.rebind id text
  | detach node => exact sound.detach node
  | write written =>
      obtain ⟨path, context, value, -, -, -, -, rfl⟩ := writeTree_eq_ok_iff.mp written
      exact sound.withContext _ _

/-- Cascades keep engines sound. -/
theorem Sound.evolves (sound : before.Sound) (changes : Evolves before after) : after.Sound := by
  induction changes with
  | refl => exact sound
  | tail _ change ih => exact ih.change change

/-! ### Whole operations -/

theorem Sound.settle (sound : engine.Sound) (listen : Listen κ σ)
    (told : List SubscriptionId) : (settle listen engine told).1.Sound :=
  sound.evolves (evolves_settle listen engine told)

theorem Sound.add (sound : engine.Sound) {subscription : Subscription κ}
    (live : engine.tree.contains subscription.node = true)
    (readable : subscription.watched.IsReadable) :
    Sound { engine with subscriptions := engine.subscriptions.add subscription } := by
  refine ⟨sound.tree, sound.store.add _, fun id other found => ?_, fun id other found => ?_⟩
  all_goals
    rw [Subscriptions.get?_add sound.store] at found
    split at found
  · cases found
    exact live
  · exact sound.onNodes id other found
  · cases found
    exact readable
  · exact sound.readable id other found

theorem Sound.opening (sound : before.Sound) (opening : Opening before after) : after.Sound := by
  cases opening with
  | idle => exact sound
  | change change => exact sound.change change
  | attach known =>
      exact sound.withTree (sound.tree.grown known) fun id live =>
        (Tree.contains_grown sound.tree known id).mpr (.inr live)
  | put context live => exact sound.withContext _ context
  | take declared => exact sound.withoutContext _ _
  | setImplicit done =>
      exact sound.withTree (sound.tree.setImplicit done) fun id live =>
        ((Tree.sameContexts_setImplicit done).contains id).trans live
  | clearImplicit sender =>
      exact sound.withTree (sound.tree.clearImplicit sender) fun id live =>
        ((Tree.sameContexts_clearImplicit _ sender).contains id).trans live
  | subscribe live readable => exact sound.add live readable

/-- Every operation leaves a sound engine sound. -/
theorem Sound.perform (sound : engine.Sound) (listen : Listen κ σ) (request : Request κ) :
    (engine.perform listen request).engine.Sound := by
  obtain ⟨opened, opening, ⟨result, -⟩ | ⟨told, result, -⟩⟩ := engine.perform_cases listen request
  · rw [result]
    exact sound.opening opening
  · rw [result]
    exact (sound.opening opening).settle listen told

/-- Every run leaves a sound engine sound. -/
theorem Sound.run (sound : engine.Sound) (listen : Listen κ σ) (requests : List (Request κ)) :
    (engine.run listen requests).Sound := by
  induction requests generalizing engine with
  | nil => exact sound
  | cons request rest ih => exact ih (sound.perform listen request)

end Engine

end LiveBinding
