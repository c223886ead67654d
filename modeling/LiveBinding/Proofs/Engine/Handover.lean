import LiveBinding.Proofs.Engine.Views

/-!
# Taking listeners out of the store and putting them back

While a listener runs, it is not in the store.  Here the store has a place for the listener of each
subscription, which is empty during the call: the listener is taken out, called, and put back
before its effects are done.  A subscription whose place is empty is passed over.  As long as
listeners are only ever missing during their own calls this comes to the same as leaving them where
they are, and between the operations no place is empty.
-/

namespace LiveBinding

variable {κ σ : Type}

/-! ### Places for listeners -/

namespace Subscriptions

/-- Fill or empty the place for the listener of a subscription. -/
def putListener (id : SubscriptionId) (listener : Option κ) :
    List (SubscriptionId × Subscription (Option κ)) →
      List (SubscriptionId × Subscription (Option κ))
  | [] => []
  | entry :: rest =>
    if id = entry.1 then (entry.1, { entry.2 with listener }) :: rest
    else entry :: putListener id listener rest

/-- Take the listener of a subscription out of the store, if it is there. -/
def takeListener (store : Subscriptions (Option κ)) (id : SubscriptionId) :
    Option κ × Subscriptions (Option κ) :=
  ((store.get? id).bind (·.listener), { store with live := putListener id none store.live })

/-- Put the listener of a subscription back, unless the subscription is gone. -/
def restoreListener (store : Subscriptions (Option κ)) (id : SubscriptionId) (listener : κ) :
    Subscriptions (Option κ) :=
  { store with live := putListener id (some listener) store.live }

/-- A listener that is put back is where it was. -/
theorem restoreListener_takeListener {store : Subscriptions (Option κ)} {id : SubscriptionId}
    {listener : κ} (taken : (store.takeListener id).1 = some listener) :
    (store.takeListener id).2.restoreListener id listener = store := by
  obtain ⟨issued, live⟩ := store
  change (live.lookup id).bind (·.listener) = some listener at taken
  refine congrArg (Subscriptions.mk issued) ?_
  change putListener id (some listener) (putListener id none live) = live
  induction live with
  | nil => rfl
  | cons entry rest ih =>
      by_cases here : id = entry.1
      · subst here
        rw [List.lookup_cons_self, Option.bind_some] at taken
        rw [putListener, if_pos rfl, putListener, if_pos rfl, ← taken]
      · rw [List.lookup_cons, beq_eq_false_iff_ne.mpr here] at taken
        rw [putListener, if_neg here, putListener, if_neg here, ih taken]

end Subscriptions

/-! ### Calling out -/

namespace Round

/-- Take the listener of a subscription out of the store, tell it its value, put it back and take
in its effects, unless the subscription was cancelled in this round or is gone, or the listener is
not there. -/
def handOver (listen : Listen κ σ) (round : Round (Option κ) σ) (id : SubscriptionId) :
    Round (Option κ) σ :=
  if round.cancelled.contains id then round
  else
    match round.engine.subscriptions.get? id with
    | none => round
    | some subscription =>
      let value := round.engine.evaluateOn subscription.node subscription.watched
      let (taken, store) := round.engine.subscriptions.takeListener id
      match taken with
      | none => round
      | some listener =>
        let notification : Notification := ⟨id, subscription.node, value⟩
        let (effects, memory) := listen listener notification round.engine.memory
        let told := { round with
          engine :=
            { round.engine with memory, subscriptions := store.restoreListener id listener }
          journal := round.journal ++ [.notified notification] }
        effects.foldl take told

/-- The round that tells some subscriptions, each by calling its listener out of the store. -/
def runHandingOver (listen : Listen κ σ) (engine : Engine (Option κ) σ)
    (told : List SubscriptionId) : Round (Option κ) σ :=
  (told.foldl (handOver listen) { engine }).close

end Round

/-- Do what is requested, calling listeners out of the store. -/
def Engine.performHandingOver (listen : Listen κ σ) (engine : Engine (Option κ) σ)
    (request : Request (Option κ)) : Step (Option κ) σ Answer :=
  engine.performBy (Round.runHandingOver listen) request

/-! ### Every listener in its place -/

/-- The view in which every listener is in its place. -/
def View.holding : View κ (Option κ) where
  tree := id
  listener := some
  sees _ := true

namespace View

theorem faithful_holding : (holding : View κ (Option κ)).Faithful where
  contains _ _ := rfl
  size _ := rfl
  parent? _ _ := rfl
  children _ _ := rfl
  subtree _ _ := rfl
  declared _ _ := rfl
  scope _ _ := rfl
  implicit? _ _ _ _ := rfl
  scopeFor _ _ _ _ := rfl
  attach tree parent := by
    change tree.attach parent = _
    cases tree.attach parent <;> rfl
  detach _ _ := rfl
  declare tree node context := by
    change tree.declare node context = _
    cases tree.declare node context <;> rfl
  removeContext tree node name := by
    change tree.removeContext node name = _
    cases tree.removeContext node name <;> rfl
  writeContext tree node name change := Option.map_id_apply.symm
  setImplicit tree node sender context _ := by
    change tree.setImplicit node sender context = _
    cases tree.setImplicit node sender context <;> rfl
  clearImplicit _ _ _ := rfl
  countImplicit _ _ _ := rfl

/-- When every listener is in its place, calling one out of the store is telling it. -/
theorem handOver_holding (listen : Listen κ σ) (round : Round κ σ) (id : SubscriptionId) :
    (holding.round round).handOver listen id = holding.round (round.notify listen id) := by
  have found : (holding.round round).engine.subscriptions.get? id =
      (round.engine.subscriptions.get? id).map fun subscription =>
        ⟨subscription.node, subscription.watched, some subscription.listener⟩ :=
    Subscriptions.get?_mapListeners some round.engine.subscriptions id
  rw [Round.handOver, Round.notify, found]
  change (if round.cancelled.contains id then _ else _) = _
  split
  · rfl
  · cases live : round.engine.subscriptions.get? id with
    | none => rfl
    | some subscription =>
        rw [live] at found
        have taken : ((holding.round round).engine.subscriptions.takeListener id).1 =
            some subscription.listener := by
          rw [Subscriptions.takeListener, found]
          rfl
        have restored := Subscriptions.restoreListener_takeListener taken
        let notification := round.due id subscription
        let called := listen subscription.listener notification round.engine.memory
        simp only [Option.map_some, taken, restored]
        exact faithful_holding.round_takeAll (round.afterTelling notification called.2) called.1

theorem shows_holding (listen : Listen κ σ) :
    holding.Shows (Round.run listen) (Round.runHandingOver listen) :=
  faithful_holding.shows (handOver_holding listen)

/-- Calling listeners out of the store leaves all of them in their places. -/
theorem agrees_holding (listen : Listen κ σ) :
    holding.Agrees (Engine.perform listen) fun engine (request : Request κ) =>
      engine.performHandingOver listen (holding.request request) := by
  intro engine request seen
  have shown := faithful_holding.performBy (shows_holding listen) engine request seen
  rw [Engine.performBy_run] at shown
  exact shown

end View

end LiveBinding
