import LiveBinding.Proofs.Engine.Lifetimes

/-!
# Nobody is told who was cancelled

A listener may ask for the end of a subscription, or for the detaching of a node with everything
below it.  From then on no listener of these is called: in the rest of the round because they are
cancelled or gone, and after it because what is gone does not come back.
-/

namespace LiveBinding

variable {κ σ : Type} {engine before after : Engine κ σ} {round now : Round κ σ}
variable {call later : Call κ σ} {id : SubscriptionId} {bound : Nat} {listen : Listen κ σ}

/-! ### What a call ends -/

namespace Call

/-- The nodes that a call takes away: those for which it asks, and the nodes below them. -/
def Removes (call : Call κ σ) (node : NodeId) : Prop :=
  ∃ top, .detach top ∈ call.effects ∧ node ∈ call.engine.tree.subtree top

/-- The subscriptions that a call ends: those for which it asks, and those on the nodes that it
takes away. -/
def Ends (call : Call κ σ) (id : SubscriptionId) : Prop :=
  (.unbind id ∈ call.effects ∧ id.number ≤ call.engine.subscriptions.issued) ∨
    ∃ subscription, call.engine.subscriptions.get? id = some subscription ∧
      call.Removes subscription.node

/-- A later call is not of a subscription that a call ended, nor on a node that it took away. -/
def Silences (call later : Call κ σ) : Prop :=
  ¬call.Ends later.notification.subscription ∧ ¬call.Removes later.notification.node

/-- The subscription that is told is live, and stands on the node that is named. -/
def IsLive (call : Call κ σ) : Prop :=
  ∃ subscription, call.engine.subscriptions.get? call.notification.subscription =
    some subscription ∧ subscription.node = call.notification.node

/-- What a call ended is over for good. -/
structure IsCarriedOut (call : Call κ σ) (engine : Engine κ σ) : Prop where
  removed : ∀ node, call.Removes node → engine.tree.IsSpent node
  ended : ∀ id, call.Ends id → engine.IsOver id

namespace IsCarriedOut

theorem evolves (done : call.IsCarriedOut before) (young : before.Young bound)
    (small : bound < 2 ^ 32) (changes : Engine.Evolves before after) :
    call.IsCarriedOut after where
  removed node removed := Engine.isSpent_evolves (done.removed node removed) young small changes
  ended id ended := (done.ended id ended).evolves young.sound changes

theorem opening (done : call.IsCarriedOut before) (young : before.Young bound)
    (small : bound < 2 ^ 32) (opening : Engine.Opening before after) :
    call.IsCarriedOut after where
  removed node removed := Engine.isSpent_opening (done.removed node removed) young small opening
  ended id ended := (done.ended id ended).opening young.sound opening

/-- Whoever is called afterwards is somebody else. -/
theorem silences (done : call.IsCarriedOut later.engine) (sound : later.engine.Sound)
    (live : later.IsLive) : call.Silences later := by
  obtain ⟨subscription, found, sameNode⟩ := live
  constructor
  · intro ended
    rw [(done.ended _ ended).2] at found
    contradiction
  · intro removed
    refine (done.removed _ removed).not_contains ?_
    rw [← sameNode]
    exact sound.onNodes _ subscription found

end IsCarriedOut

end Call

/-! ### In one round -/

namespace Round

/-- How a round goes on while it tells its subscriptions. -/
structure Leads (before after : Round κ σ) : Prop where
  evolves : Engine.Evolves before.engine after.engine
  tree : after.engine.tree = before.engine.tree
  fewer : ∀ id subscription, after.engine.subscriptions.get? id = some subscription →
    before.engine.subscriptions.get? id = some subscription
  detaches : before.detaches ⊆ after.detaches

theorem Leads.refl (round : Round κ σ) : Leads round round :=
  ⟨.refl, rfl, fun _ _ found => found, List.Subset.refl _⟩

theorem Leads.trans {first second third : Round κ σ} (left : Leads first second)
    (right : Leads second third) : Leads first third where
  evolves := left.evolves.trans right.evolves
  tree := right.tree.trans left.tree
  fewer id subscription found := left.fewer id subscription (right.fewer id subscription found)
  detaches := List.Subset.trans left.detaches right.detaches

theorem leads_take (round : Round κ σ) (effect : Effect) : Leads round (round.take effect) := by
  refine ⟨Engine.evolves_take round effect, ?_, fun id subscription found => ?_, ?_⟩
  · cases effect <;> rfl
  · cases effect with
    | unbind other =>
        rw [take, Engine.get?_unbind] at found
        split at found
        · contradiction
        · exact found
    | write | detach | rebind => exact found
  · cases effect with
    | detach node => exact List.subset_append_left _ _
    | write | unbind | rebind => exact List.Subset.refl _

theorem leads_takeAll (round : Round κ σ) (effects : List Effect) :
    Leads round (effects.foldl take round) := by
  induction effects generalizing round with
  | nil => exact .refl round
  | cons effect rest ih => exact (leads_take round effect).trans (ih (round.take effect))

theorem leads_afterTelling (round : Round κ σ) (notification : Notification) (memory : σ) :
    Leads round (round.afterTelling notification memory) :=
  ⟨.single (.remember round.engine memory), rfl, fun _ _ found => found, List.Subset.refl _⟩

theorem leads_notify (listen : Listen κ σ) (round : Round κ σ) (id : SubscriptionId) :
    Leads round (round.notify listen id) := by
  obtain ⟨-, -, same⟩ | ⟨subscription, effects, memory, -, -, -, told⟩ :=
    round.notify_cases listen id
  · rw [same]
    exact .refl round
  · rw [told]
    exact (leads_afterTelling round _ memory).trans (leads_takeAll _ effects)

theorem leads_notifyAll (listen : Listen κ σ) (round : Round κ σ)
    (told : List SubscriptionId) : Leads round (told.foldl (notify listen) round) := by
  induction told generalizing round with
  | nil => exact .refl round
  | cons id rest ih => exact (leads_notify listen round id).trans (ih _)

/-- Whoever stands on a node that is to be detached, or below it, is cancelled. -/
structure Barring (round : Round κ σ) : Prop where
  sound : round.engine.Sound
  barred : ∀ node ∈ round.detaches, ∀ id subscription,
    round.engine.subscriptions.get? id = some subscription →
      node ∈ round.engine.tree.ancestors subscription.node → id ∈ round.cancelled

namespace Barring

theorem opening (sound : engine.Sound) : Barring { engine } :=
  ⟨sound, fun _ impossible => nomatch impossible⟩

theorem take (barring : round.Barring) (effect : Effect) : (round.take effect).Barring := by
  have ⟨sound, barred⟩ := barring
  cases effect with
  | write | rebind => exact ⟨sound, barred⟩
  | unbind other =>
      refine ⟨sound.unbind other, fun node listed id subscription found above => ?_⟩
      have earlier := (leads_take round (.unbind other)).fewer id subscription found
      exact List.mem_cons_of_mem other (barred node listed id subscription earlier above)
  | detach top =>
      refine ⟨sound, fun node listed id subscription found above => ?_⟩
      obtain earlier | new := List.mem_append.mp listed
      · exact List.mem_append_right _ (barred node earlier id subscription found above)
      · rw [List.mem_singleton] at new
        subst new
        have live := sound.onNodes id subscription found
        refine List.mem_append_left _ ((Subscriptions.mem_idsOn sound.store).mpr ?_)
        exact ⟨subscription, found, sound.tree.mem_subtree.mpr ⟨live, above⟩⟩

theorem takeAll (barring : round.Barring) (effects : List Effect) :
    (effects.foldl Round.take round).Barring := by
  induction effects generalizing round with
  | nil => exact barring
  | cons effect rest ih => exact ih (barring.take effect)

theorem notify (barring : round.Barring) (listen : Listen κ σ) (id : SubscriptionId) :
    (round.notify listen id).Barring := by
  obtain ⟨-, -, same⟩ | ⟨subscription, effects, memory, -, -, -, told⟩ :=
    round.notify_cases listen id
  · rw [same]
    exact barring
  · have telling : (round.afterTelling (round.due id subscription) memory).Barring :=
      ⟨barring.sound.change (.remember round.engine memory), barring.barred⟩
    rw [told]
    exact telling.takeAll effects

end Barring

/-- A round has taken in what was asked for in a call of it. -/
structure Heeds (round : Round κ σ) (call : Call κ σ) : Prop where
  sound : call.engine.Sound
  evolves : Engine.Evolves call.engine round.engine
  tree : round.engine.tree = call.engine.tree
  fewer : ∀ id subscription, round.engine.subscriptions.get? id = some subscription →
    call.engine.subscriptions.get? id = some subscription
  detaches : ∀ node, .detach node ∈ call.effects → node ∈ round.detaches
  unbound : ∀ id, .unbind id ∈ call.effects → round.engine.subscriptions.get? id = none

theorem Heeds.leads (heeds : round.Heeds call) (leads : Leads round now) : now.Heeds call where
  sound := heeds.sound
  evolves := heeds.evolves.trans leads.evolves
  tree := leads.tree.trans heeds.tree
  fewer id subscription found := heeds.fewer id subscription (leads.fewer id subscription found)
  detaches node asked := leads.detaches (heeds.detaches node asked)
  unbound id asked := by
    cases found : now.engine.subscriptions.get? id with
    | none => rfl
    | some subscription =>
        have earlier := leads.fewer id subscription found
        rw [heeds.unbound id asked] at earlier
        contradiction

theorem mem_detaches_takeAll (round : Round κ σ) {effects : List Effect} {node : NodeId}
    (asked : .detach node ∈ effects) : node ∈ (effects.foldl take round).detaches := by
  induction effects generalizing round with
  | nil => contradiction
  | cons effect rest ih =>
      obtain rfl | later := List.mem_cons.mp asked
      · refine (leads_takeAll (round.take (.detach node)) rest).detaches ?_
        exact List.mem_append_right _ List.mem_cons_self
      · exact ih (round.take effect) later

theorem get?_takeAll_of_unbind (round : Round κ σ) {effects : List Effect}
    (asked : .unbind id ∈ effects) :
    (effects.foldl take round).engine.subscriptions.get? id = none := by
  induction effects generalizing round with
  | nil => contradiction
  | cons effect rest ih =>
      obtain rfl | later := List.mem_cons.mp asked
      · cases found : (rest.foldl take (round.take (.unbind id))).engine.subscriptions.get? id with
        | none => exact found
        | some subscription =>
            have earlier := (leads_takeAll (round.take (.unbind id)) rest).fewer _ _ found
            rw [take, Engine.get?_unbind, if_pos rfl] at earlier
            contradiction
      · exact ih (round.take effect) later

/-- A call is made of a live subscription that is not cancelled, and heeded at once. -/
theorem call?_eq_some (sound : round.engine.Sound) (called : round.call? listen id = some call) :
    call.engine = round.engine ∧ call.notification.subscription = id ∧ id ∉ round.cancelled ∧
      call.IsLive ∧ (round.notify listen id).Heeds call := by
  obtain ⟨-, silent, -⟩ | ⟨subscription, effects, memory, active, live, call', told⟩ :=
    round.notify_cases listen id
  · rw [silent] at called
    contradiction
  · rw [call', Option.some.injEq] at called
    subst called
    refine ⟨rfl, rfl, active, ⟨subscription, live, rfl⟩, ?_⟩
    have leads := leads_notify listen round id
    refine ⟨sound, leads.evolves, leads.tree, leads.fewer, fun node asked => ?_,
      fun other asked => ?_⟩
    · rw [told]
      exact mem_detaches_takeAll _ asked
    · rw [told]
      exact get?_takeAll_of_unbind _ asked

/-- In the round that heeded a call, whoever is called is somebody else. -/
theorem Heeds.silences (heeds : now.Heeds call) (barring : now.Barring)
    (called : now.call? listen id = some later) : call.Silences later := by
  obtain ⟨sameEngine, rfl, active, ⟨subscription, found, sameNode⟩, -⟩ :=
    call?_eq_some barring.sound called
  rw [sameEngine] at found
  have kept : ¬call.Removes later.notification.node := by
    rintro ⟨top, asked, below⟩
    refine active (barring.barred top (heeds.detaches top asked) _ subscription found ?_)
    rw [sameNode, heeds.tree]
    exact (heeds.sound.tree.mem_subtree.mp below).2
  refine ⟨?_, kept⟩
  rintro (⟨asked, -⟩ | ⟨earlier, earlierFound, removed⟩)
  · rw [heeds.unbound _ asked] at found
    contradiction
  · rw [heeds.fewer _ subscription found, Option.some.injEq] at earlierFound
    rw [← earlierFound, sameNode] at removed
    exact kept removed

/-- The calls of a round are made one after the other, in rounds that bar who is cancelled. -/
theorem exists_call?_of_mem_calls (barring : round.Barring) {told : List SubscriptionId}
    (member : call ∈ round.calls listen told) :
    ∃ now id, Leads round now ∧ now.Barring ∧ now.call? listen id = some call ∧
      Leads (now.notify listen id) (told.foldl (Round.notify listen) round) := by
  induction told generalizing round with
  | nil => contradiction
  | cons id rest ih =>
      rw [calls] at member
      obtain here | there := List.mem_append.mp member
      · exact ⟨round, id, .refl round, barring, Option.mem_toList.mp here,
          leads_notifyAll listen _ rest⟩
      · obtain ⟨now, other, leads, barringNow, called, final⟩ := ih (barring.notify listen id) there
        exact ⟨now, other, (leads_notify listen round id).trans leads, barringNow, called, final⟩

theorem calls_pairwise (barring : round.Barring) (told : List SubscriptionId) :
    (round.calls listen told).Pairwise Call.Silences := by
  induction told generalizing round with
  | nil => exact .nil
  | cons id rest ih =>
      rw [calls, List.pairwise_append]
      refine ⟨?_, ih (barring.notify listen id), fun call here later there => ?_⟩
      · cases round.call? listen id with
        | none => exact .nil
        | some call => exact List.pairwise_singleton _ _
      · obtain ⟨-, -, -, -, heeds⟩ := call?_eq_some barring.sound (Option.mem_toList.mp here)
        obtain ⟨now, other, leads, barringNow, called, -⟩ :=
          exists_call?_of_mem_calls (barring.notify listen id) there
        exact (heeds.leads leads).silences barringNow called

/-- When a round is closed, what was asked for in it is carried out, whatever was to be rebound. -/
theorem Heeds.close (heeds : round.Heeds call) (young : round.engine.Young bound)
    (small : bound < 2 ^ 32) : call.IsCarriedOut round.close.engine := by
  have rebinding := Engine.evolves_rebindAll round.rebinds round
  have sameTree : (round.rebinds.foldl rebindOne round).engine.tree = call.engine.tree :=
    (round.tree_rebindAll round.rebinds).trans heeds.tree
  have closing := Engine.evolves_close round
  rw [Round.close, engine_detachAll] at closing ⊢
  generalize round.rebinds.foldl rebindOne round = rebound at *
  have youngRebound := young.evolves small rebinding
  constructor
  · rintro node ⟨top, asked, below⟩
    rw [← sameTree] at below
    exact Engine.isSpent_detachAll youngRebound small (heeds.detaches top asked) below
  · rintro id (⟨asked, issued⟩ | ⟨subscription, live, top, asked, below⟩)
    · have ended : round.engine.IsOver id :=
        ⟨(Engine.issued_evolves heeds.evolves).symm ▸ issued, heeds.unbound id asked⟩
      exact ended.evolves young.sound closing
    · have issued := heeds.sound.store.number_le live
      refine ⟨(Engine.issued_evolves (heeds.evolves.trans closing)).symm ▸ issued, ?_⟩
      cases found : (round.detaches.foldl (fun engine node => (engine.detach node).engine)
        rebound.engine).subscriptions.get? id with
      | none => rfl
      | some survivor =>
          obtain ⟨stayed, outside⟩ := Engine.get?_detachAll youngRebound.sound _ found
          obtain ⟨old, oldFound, sameNode, -⟩ :=
            Engine.get?_evolves young.sound.store rebinding stayed
          rw [heeds.fewer id old oldFound, Option.some.injEq] at live
          refine absurd ?_ (outside top (heeds.detaches top asked))
          rw [← sameNode, live, sameTree]
          exact (heeds.sound.tree.mem_subtree.mp below).2

end Round

/-! ### In cascades and runs -/

/-- Calls of which none is made on behalf of those whom an earlier one ended, and which are all
carried out in an engine. -/
structure Respected (calls : List (Call κ σ)) (engine : Engine κ σ) : Prop where
  silent : calls.Pairwise Call.Silences
  carriedOut : ∀ call ∈ calls, call.IsCarriedOut engine

theorem Respected.nil (engine : Engine κ σ) : Respected [] engine :=
  ⟨.nil, fun _ impossible => nomatch impossible⟩

/-- Earlier calls are carried out before later ones are made. -/
theorem Respected.append {earlier later : List (Call κ σ)} {middle : Engine κ σ}
    (first : Respected earlier middle) (second : Respected later after)
    (kept : ∀ call : Call κ σ, call.IsCarriedOut middle →
      call.IsCarriedOut after ∧ ∀ other ∈ later, call.Silences other) :
    Respected (earlier ++ later) after where
  silent := List.pairwise_append.mpr ⟨first.silent, second.silent,
    fun call member => (kept call (first.carriedOut call member)).2⟩
  carriedOut call member := by
    obtain here | there := List.mem_append.mp member
    · exact (kept call (first.carriedOut call here)).1
    · exact second.carriedOut call there

/-- The calls that an engine leads to are of live subscriptions, in engines that it becomes. -/
def Engine.LeadsTo (engine : Engine κ σ) (calls : List (Call κ σ)) : Prop :=
  ∀ call ∈ calls, engine.Evolves call.engine ∧ call.IsLive

/-- What is carried out when a cascade goes on is respected by the calls that follow in it. -/
theorem Engine.LeadsTo.silences {calls : List (Call κ σ)} (leads : engine.LeadsTo calls)
    (done : call.IsCarriedOut engine) (young : engine.Young bound) (small : bound < 2 ^ 32) :
    ∀ other ∈ calls, call.Silences other := by
  intro other member
  obtain ⟨changes, live⟩ := leads other member
  exact (done.evolves young small changes).silences (young.sound.evolves changes) live

namespace Engine

theorem leadsTo_roundCalls (sound : engine.Sound) (told : List SubscriptionId) :
    engine.LeadsTo (Round.calls listen { engine } told) := by
  intro call member
  obtain ⟨now, id, leads, barring, called, -⟩ :=
    Round.exists_call?_of_mem_calls (.opening sound) member
  obtain ⟨sameEngine, -, -, live, -⟩ := Round.call?_eq_some barring.sound called
  exact ⟨sameEngine ▸ leads.evolves, live⟩

theorem respected_roundCalls (young : engine.Young bound) (small : bound < 2 ^ 32)
    (told : List SubscriptionId) :
    Respected (Round.calls listen { engine } told) (Round.run listen engine told).engine where
  silent := Round.calls_pairwise (.opening young.sound) told
  carriedOut call member := by
    obtain ⟨now, id, -, barring, called, final⟩ :=
      Round.exists_call?_of_mem_calls (.opening young.sound) member
    obtain ⟨-, -, -, -, heeds⟩ := Round.call?_eq_some barring.sound called
    have leads := Round.leads_notifyAll listen { engine } told
    exact (heeds.leads final).close (young.evolves small leads.evolves) small

theorem leadsTo_drainCalls (sound : engine.Sound) (budget : Nat) (queue : List WriteRequest) :
    engine.LeadsTo (drainCalls listen budget queue engine) := by
  fun_induction drainCalls listen budget queue engine with
  | case1 | case2 => exact fun _ impossible => nomatch impossible
  | case3 budget request rest engine error failed ih => exact ih sound
  | case4 budget request rest engine owner tree written changed told round ih =>
      have change : Change engine changed := .write written
      have soundChanged := sound.change change
      have closing := evolves_round listen changed told
      intro call member
      obtain here | there := List.mem_append.mp member
      · obtain ⟨changes, live⟩ := leadsTo_roundCalls soundChanged told call here
        exact ⟨changes.head change, live⟩
      · obtain ⟨changes, live⟩ := ih (soundChanged.evolves closing) call there
        exact ⟨(closing.trans changes).head change, live⟩

theorem leadsTo_settleCalls (sound : engine.Sound) (told : List SubscriptionId) :
    engine.LeadsTo (settleCalls listen engine told) := by
  have closing := evolves_round listen engine told
  intro call member
  obtain here | there := List.mem_append.mp member
  · exact leadsTo_roundCalls sound told call here
  · obtain ⟨changes, live⟩ := leadsTo_drainCalls (sound.evolves closing) _ _ call there
    exact ⟨closing.trans changes, live⟩

theorem respected_drainCalls (young : engine.Young bound) (small : bound < 2 ^ 32)
    (budget : Nat) (queue : List WriteRequest) :
    Respected (drainCalls listen budget queue engine) (drain listen budget queue engine).1 := by
  fun_induction drainCalls listen budget queue engine with
  | case1 | case2 => exact .nil _
  | case3 budget request rest engine error failed ih =>
      rw [drain, failed]
      exact ih young
  | case4 budget request rest engine owner tree written changed told round ih =>
      have youngChanged : changed.Young bound := young.change small (.write written)
      have youngAfter := youngChanged.evolves small (evolves_round listen changed told)
      rw [drain, written]
      refine (respected_roundCalls youngChanged small told).append (ih youngAfter) ?_
      intro call done
      exact ⟨done.evolves youngAfter small (evolves_drain listen _ _ _),
        (leadsTo_drainCalls youngAfter.sound _ _).silences done youngAfter small⟩

theorem respected_settleCalls (young : engine.Young bound) (small : bound < 2 ^ 32)
    (told : List SubscriptionId) :
    Respected (settleCalls listen engine told) (settle listen engine told).1 := by
  have youngAfter := young.evolves small (evolves_round listen engine told)
  refine (respected_roundCalls young small told).append
    (respected_drainCalls youngAfter small _ _) fun call done => ?_
  exact ⟨done.evolves youngAfter small (evolves_drain listen _ _ _),
    (leadsTo_drainCalls youngAfter.sound _ _).silences done youngAfter small⟩

theorem respected_performCalls (young : engine.Young bound) (small : bound + 1 < 2 ^ 32)
    (request : Request κ) :
    Respected (engine.performCalls listen request) (engine.perform listen request).engine := by
  obtain ⟨opened, opening, ⟨-, silent⟩ | ⟨told, result, calls⟩⟩ :=
    engine.perform_cases listen request
  · rw [silent]
    exact .nil _
  · rw [calls, result]
    exact respected_settleCalls (young.opening (Nat.lt_of_succ_lt small) opening) small told

/-- What is carried out before an operation stays so, and is respected by the calls of it. -/
theorem carriedOut_perform (done : call.IsCarriedOut engine) (young : engine.Young bound)
    (small : bound + 1 < 2 ^ 32) (request : Request κ) :
    call.IsCarriedOut (engine.perform listen request).engine ∧
      ∀ other ∈ engine.performCalls listen request, call.Silences other := by
  have smaller : bound < 2 ^ 32 := Nat.lt_of_succ_lt small
  obtain ⟨opened, opening, outcome⟩ := engine.perform_cases listen request
  have doneOpened := done.opening young smaller opening
  have youngOpened := young.opening smaller opening
  obtain ⟨result, silent⟩ | ⟨told, result, calls⟩ := outcome
  · rw [result, silent]
    exact ⟨doneOpened, fun _ impossible => nomatch impossible⟩
  · rw [result, calls]
    exact ⟨doneOpened.evolves youngOpened small (evolves_settle listen opened told),
      (leadsTo_settleCalls youngOpened.sound told).silences doneOpened youngOpened small⟩

theorem carriedOut_run (done : call.IsCarriedOut engine) (young : engine.Young bound)
    (requests : List (Request κ)) (small : bound + requests.length < 2 ^ 32) :
    call.IsCarriedOut (engine.run listen requests) ∧
      ∀ other ∈ engine.runCalls listen requests, call.Silences other := by
  induction requests generalizing engine bound with
  | nil => exact ⟨done, fun _ impossible => nomatch impossible⟩
  | cons request rest ih =>
      rw [List.length_cons] at small
      have smallFirst : bound + 1 < 2 ^ 32 := by omega
      obtain ⟨doneFirst, silentFirst⟩ := carriedOut_perform done young smallFirst request
      obtain ⟨doneRest, silentRest⟩ :=
        ih doneFirst (young.perform smallFirst listen request) (by omega)
      refine ⟨doneRest, fun other member => ?_⟩
      obtain here | there := List.mem_append.mp member
      · exact silentFirst other here
      · exact silentRest other there

theorem respected_runCalls (young : engine.Young bound) (requests : List (Request κ))
    (small : bound + requests.length < 2 ^ 32) :
    Respected (engine.runCalls listen requests) (engine.run listen requests) := by
  induction requests generalizing engine bound with
  | nil => exact .nil _
  | cons request rest ih =>
      rw [List.length_cons] at small
      have smallFirst : bound + 1 < 2 ^ 32 := by omega
      have youngAfter := young.perform smallFirst listen request
      have smallRest : bound + 1 + rest.length < 2 ^ 32 := by omega
      exact (respected_performCalls young smallFirst request).append (ih youngAfter smallRest)
        fun call done => carriedOut_run done youngAfter rest smallRest

end Engine

/-- In a run of fewer than `2 ^ 32` operations from an engine without nodes, the journals tell of
the calls of listeners, all of them and in their order.  No listener is called for a subscription
that an earlier call ended, nor on a node that an earlier call took away.  After the run none of
these nodes is in the tree and none of these subscriptions in the store. -/
theorem Call.silences_of_run (listen : Listen κ σ) (settings : Settings) (registry : Registry)
    (memory : σ) (requests : List (Request κ)) (few : requests.length < 2 ^ 32) :
    let engine := Engine.initial settings registry memory
    (engine.steps listen requests).flatMap (fun step => Event.notifications step.journal) =
        (engine.runCalls listen requests).map notification ∧
      (engine.runCalls listen requests).Pairwise Silences ∧
      ∀ call ∈ engine.runCalls listen requests,
        (∀ node, call.Removes node → (engine.run listen requests).tree.contains node = false) ∧
          ∀ id, call.Ends id → (engine.run listen requests).subscriptions.get? id = none := by
  intro engine
  have young : engine.Young 0 := ⟨.initial settings registry memory, .empty 0⟩
  have respected : Respected (engine.runCalls listen requests) (engine.run listen requests) :=
    Engine.respected_runCalls young requests (by rwa [Nat.zero_add])
  obtain ⟨silent, carriedOut⟩ := respected
  refine ⟨engine.notifications_run listen requests, silent,
    fun call member => ⟨fun node removed => ?_, fun id ended => ?_⟩⟩
  · exact Bool.eq_false_iff.mpr ((carriedOut call member).removed node removed).not_contains
  · exact ((carriedOut call member).ended id ended).2

/-- A listener detaches a node on which somebody waits for the same change. -/
theorem Call.silences_of_run_detach :
    let listen : Listen Bool Unit := fun detaches _ memory =>
      (if detaches then [.detach ⟨1, 0⟩] else [], memory)
    let engine : Engine Bool Unit := Engine.initial {} .empty ()
    let requests : List (Request Bool) :=
      [.attach none, .attach (some ⟨0, 0⟩), .bind ⟨0, 0⟩ "a" true, .bind ⟨1, 0⟩ "a" false,
        .declare ⟨0, 0⟩ ⟨"a", .null⟩]
    requests.length < 2 ^ 32 ∧
      (engine.steps listen requests).flatMap (fun step => Event.notifications step.journal) =
        (engine.runCalls listen requests).map notification ∧
      (engine.runCalls listen requests).Pairwise Silences ∧
      ∃ call ∈ engine.runCalls listen requests, call.Removes ⟨1, 0⟩ ∧
        (engine.run listen requests).tree.contains ⟨1, 0⟩ = false := by
  intro listen engine requests
  have few : requests.length < 2 ^ 32 := by decide
  obtain ⟨told, silent, carriedOut⟩ := silences_of_run listen {} .empty () requests few
  have asked : (engine.runCalls listen requests).any (fun call =>
      call.effects.contains (.detach ⟨1, 0⟩) &&
        (call.engine.tree.subtree ⟨1, 0⟩).contains ⟨1, 0⟩) = true := by decide +kernel
  obtain ⟨call, member, removes⟩ := List.any_eq_true.mp asked
  simp only [Bool.and_eq_true, List.contains_iff_mem] at removes
  have removed : call.Removes ⟨1, 0⟩ := ⟨⟨1, 0⟩, removes.1, removes.2⟩
  exact ⟨few, told, silent, call, member, removed, (carriedOut call member).1 ⟨1, 0⟩ removed⟩

end LiveBinding
