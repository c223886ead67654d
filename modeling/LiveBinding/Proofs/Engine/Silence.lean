import LiveBinding.Proofs.Engine.Freshness

/-!
# Listeners that ask for nothing

Where no listener ever asks for anything, a change of a context leads to one round and to nothing
else: everybody whom it concerns is told once, in the order of the numbers, and has then the value
that is due in the tree after the change.
-/

namespace LiveBinding

variable {κ σ : Type} {listen : Listen κ σ} {engine : Engine κ σ}

/-! ### What a subscription is told -/

namespace Event

/-- What a subscription was told, in order. -/
def toldTo (id : SubscriptionId) (journal : List Event) : List Notification :=
  (notifications journal).filter (·.subscription = id)

theorem toldTo_append (id : SubscriptionId) (earlier later : List Event) :
    toldTo id (earlier ++ later) = toldTo id earlier ++ toldTo id later := by
  rw [toldTo, notifications_append, List.filter_append, toldTo, toldTo]

theorem notifications_map_notified (told : List Notification) :
    notifications (told.map .notified) = told := by
  rw [notifications, List.filterMap_map]
  exact List.filterMap_some

theorem countNotified_map_notified (told : List Notification) :
    countNotified (told.map .notified) = told.length := by
  rw [countNotified, List.countP_map]
  exact congrFun List.countP_true told

end Event

/-! ### Rounds -/

namespace Engine

/-- No listener of a live subscription ever asks for anything. -/
def Silent (listen : Listen κ σ) (engine : Engine κ σ) : Prop :=
  ∀ id subscription, engine.subscriptions.get? id = some subscription →
    ∀ notification memory, (listen subscription.listener notification memory).1 = []

/-- What a subscription is told when its turn comes. -/
def due? (engine : Engine κ σ) (id : SubscriptionId) : Option Notification :=
  (engine.subscriptions.get? id).map fun subscription =>
    ⟨id, subscription.node, engine.evaluateOn subscription.node subscription.watched⟩

end Engine

namespace Round

/-- A listener that asks for nothing is told what is due to it, and remembers something. -/
theorem notify_of_silent (silent : engine.Silent listen) (id : SubscriptionId)
    (journal : List Event) :
    ∃ memory, notify listen { engine, journal } id =
      { engine := { engine with memory }
        journal := journal ++ (engine.due? id).toList.map .notified } := by
  cases live : engine.subscriptions.get? id with
  | none => exact ⟨engine.memory, by simp [notify, Engine.due?, live]⟩
  | some subscription =>
      have nothing := silent id subscription live
      exact ⟨_, by simp [notify, Engine.due?, live, nothing]; rfl⟩

/-- Listeners that ask for nothing are told one after the other, and nothing changes but what they
remember. -/
theorem notifyAll_of_silent_listeners (silent : engine.Silent listen)
    (told : List SubscriptionId) (journal : List Event) :
    ∃ memory, told.foldl (notify listen) { engine, journal } =
      { engine := { engine with memory }
        journal := journal ++ (told.filterMap engine.due?).map .notified } := by
  induction told generalizing engine journal with
  | nil => exact ⟨engine.memory, by simp⟩
  | cons id rest ih =>
      obtain ⟨remembered, first⟩ := notify_of_silent silent id journal
      have stillSilent : Engine.Silent listen { engine with memory := remembered } := silent
      obtain ⟨memory, others⟩ := ih stillSilent (journal ++ (engine.due? id).toList.map .notified)
      refine ⟨memory, ?_⟩
      rw [List.foldl_cons, first, others, List.append_assoc, ← List.map_append]
      cases due : engine.due? id with
      | none => rw [List.filterMap_cons_none due]; rfl
      | some notification => rw [List.filterMap_cons_some due]; rfl

end Round

namespace Engine

/-- A change among silent listeners leads to no other one. -/
theorem settle_of_silent_listeners (silent : engine.Silent listen) (told : List SubscriptionId) :
    ∃ memory, settle listen engine told =
      ({ engine with memory }, (told.filterMap engine.due?).map .notified) := by
  obtain ⟨memory, result⟩ := Round.notifyAll_of_silent_listeners silent told []
  refine ⟨memory, ?_⟩
  rw [settle, Round.run, result]
  cases limit : engine.settings.maxSettleWrites <;> simp [Round.close, drain]

/-! ### Who is told -/

theorem nodup_affected (sound : engine.Sound) (owner : NodeId) (name : String) :
    (engine.affected owner name).Nodup := by
  refine (ascending_affected sound owner name).imp fun below same => ?_
  rw [same] at below
  exact Nat.lt_irrefl _ below

theorem subscription_of_due? {id : SubscriptionId} {notification : Notification}
    (due : engine.due? id = some notification) : notification.subscription = id := by
  obtain ⟨subscription, -, rfl⟩ := Option.map_eq_some_iff.mp due
  rfl

/-- Of what several subscriptions are due, each one is told its own. -/
theorem toldTo_due? {ids : List SubscriptionId} (distinct : ids.Nodup) (id : SubscriptionId) :
    Event.toldTo id ((ids.filterMap engine.due?).map .notified) =
      if id ∈ ids then (engine.due? id).toList else [] := by
  rw [Event.toldTo, Event.notifications_map_notified]
  induction ids with
  | nil => rfl
  | cons head rest ih =>
      obtain ⟨fresh, distinctRest⟩ := List.nodup_cons.mp distinct
      by_cases here : id = head
      · subst here
        have others := ih distinctRest
        rw [if_neg fresh] at others
        rw [if_pos List.mem_cons_self]
        cases due : engine.due? id with
        | none => rw [List.filterMap_cons_none due, others]; rfl
        | some notification =>
            rw [List.filterMap_cons_some due,
              List.filter_cons_of_pos (by simpa using subscription_of_due? due), others]
            rfl
      · simp only [List.mem_cons, here, false_or, ← ih distinctRest]
        cases due : engine.due? head with
        | none => rw [List.filterMap_cons_none due]
        | some notification =>
            have elsewhere : ¬notification.subscription = id := fun same =>
              here (same.symm.trans (subscription_of_due? due))
            rw [List.filterMap_cons_some due, List.filter_cons_of_neg (by simpa using elsewhere)]

theorem length_due? (sound : engine.Sound) (owner : NodeId) (name : String) :
    ((engine.affected owner name).filterMap engine.due?).length =
      (engine.affected owner name).length := by
  rw [List.length_filterMap_eq_countP, List.countP_eq_length]
  intro id member
  obtain ⟨subscription, live, -⟩ := (mem_affected sound).mp member
  rw [due?, live]
  rfl

end Engine

end LiveBinding
