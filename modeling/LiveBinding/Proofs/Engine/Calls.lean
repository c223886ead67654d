import LiveBinding.Proofs.Engine.Steps

/-!
# The calls of a run

The journal of an operation tells who was notified.  Here the calls of listeners are listed with
more detail, in the order in which they happen: with the engine as it was, and with the effects
that the listener asked for.  The notifications among the events of a journal are those of the
calls.
-/

namespace LiveBinding

variable {κ σ : Type}

/-- The calls of a round that tells some subscriptions. -/
def Round.calls (listen : Listen κ σ) :
    Round κ σ → (told : List SubscriptionId) → List (Call κ σ)
  | _, [] => []
  | round, id :: rest =>
    (round.call? listen id).toList ++ calls listen (round.notify listen id) rest

namespace Engine

/-- The calls that queued writes lead to. -/
def drainCalls (listen : Listen κ σ) :
    (budget : Nat) → List WriteRequest → Engine κ σ → List (Call κ σ)
  | _, [], _ => []
  | 0, _ :: _, _ => []
  | budget + 1, request :: rest, engine =>
    match engine.writeTree request with
    | .error _ => drainCalls listen budget rest engine
    | .ok (owner, tree) =>
      let changed := { engine with tree }
      let told := changed.affected owner request.contextId
      let round := Round.run listen changed told
      Round.calls listen { engine := changed } told ++
        drainCalls listen budget (rest ++ round.queue) round.engine

/-- The calls of a cascade. -/
def settleCalls (listen : Listen κ σ) (engine : Engine κ σ) (told : List SubscriptionId) :
    List (Call κ σ) :=
  let round := Round.run listen engine told
  Round.calls listen { engine } told ++
    drainCalls listen engine.settings.maxSettleWrites round.queue round.engine

/-- The calls of an operation: only those that change a context lead to any. -/
def performCalls (listen : Listen κ σ) (engine : Engine κ σ) : Request κ → List (Call κ σ)
  | .write request =>
    match engine.writeTree request with
    | .error _ => []
    | .ok (owner, tree) =>
      let changed := { engine with tree }
      settleCalls listen changed (changed.affected owner request.contextId)
  | .declare node context =>
    match engine.tree.declare node context with
    | .error _ => []
    | .ok (_, tree) =>
      let changed := { engine with tree }
      settleCalls listen changed (changed.affected node context.id)
  | .removeContext node id =>
    match engine.tree.removeContext node id with
    | none => []
    | some (_, tree) => settleCalls listen { engine with tree } (engine.affected node id)
  | _ => []

/-- The calls of a run. -/
def runCalls (listen : Listen κ σ) : Engine κ σ → List (Request κ) → List (Call κ σ)
  | _, [] => []
  | engine, request :: rest =>
    performCalls listen engine request ++
      runCalls listen (engine.perform listen request).engine rest

end Engine

/-! ### Calls and journals -/

/-- What a listener was told in an event. -/
def Event.notification? : Event → Option Notification
  | .notified notification => some notification
  | _ => none

/-- What listeners were told, in order. -/
def Event.notifications (journal : List Event) : List Notification :=
  journal.filterMap notification?

namespace Event

theorem notifications_append (earlier later : List Event) :
    notifications (earlier ++ later) = notifications earlier ++ notifications later :=
  List.filterMap_append

theorem notifications_of_isAboutText {journal : List Event}
    (aboutText : ∀ event ∈ journal, event.isAboutText = true) : notifications journal = [] := by
  rw [notifications, List.filterMap_eq_nil_iff]
  intro event member
  have about := aboutText event member
  cases event with
  | notified => contradiction
  | unreadable | unreadablePart | rebound | queued | written | refused | limitReached => rfl

end Event

namespace Round

theorem notifications_takeAll (round : Round κ σ) (effects : List Effect) :
    Event.notifications (effects.foldl take round).journal =
      Event.notifications round.journal := by
  induction effects generalizing round with
  | nil => rfl
  | cons effect rest ih =>
      rw [List.foldl_cons, ih]
      cases effect with
      | write request =>
          rw [take, Event.notifications_append]
          exact List.append_nil _
      | unbind | detach | rebind => rfl

theorem notifications_notify (listen : Listen κ σ) (round : Round κ σ) (id : SubscriptionId) :
    Event.notifications (round.notify listen id).journal =
      Event.notifications round.journal ++
        (round.call? listen id).toList.map Call.notification := by
  obtain ⟨-, silent, same⟩ | ⟨subscription, effects, memory, -, -, call, told⟩ :=
    round.notify_cases listen id
  · rw [silent, same]
    exact (List.append_nil _).symm
  · rw [call, told, notifications_takeAll, afterTelling, Event.notifications_append]
    rfl

theorem notifications_notifyAll (listen : Listen κ σ) (round : Round κ σ)
    (told : List SubscriptionId) :
    Event.notifications (told.foldl (notify listen) round).journal =
      Event.notifications round.journal ++ (round.calls listen told).map Call.notification := by
  induction told generalizing round with
  | nil => exact (List.append_nil _).symm
  | cons id rest ih =>
      rw [List.foldl_cons, ih, notifications_notify, calls, List.map_append, List.append_assoc]

theorem notifications_rebindOne (round : Round κ σ) (rebinding : SubscriptionId × String) :
    Event.notifications (round.rebindOne rebinding).journal =
      Event.notifications round.journal := by
  rw [rebindOne, Event.notifications_append]
  obtain ⟨-, result⟩ | ⟨_, warnings, -, aboutText, ⟨_, -, -, result⟩ | ⟨_, result⟩⟩ :=
    round.engine.rebind_cases rebinding.1 rebinding.2
  all_goals rw [result]
  · exact List.append_nil _
  · rw [Event.notifications_append, Event.notifications_of_isAboutText aboutText]
    exact List.append_nil _
  · rw [Event.notifications_of_isAboutText aboutText]
    exact List.append_nil _

theorem notifications_close (round : Round κ σ) :
    Event.notifications round.close.journal = Event.notifications round.journal := by
  rw [close, journal_detachAll]
  generalize round.rebinds = rebindings
  induction rebindings generalizing round with
  | nil => rfl
  | cons rebinding rest ih => rw [List.foldl_cons, ih, notifications_rebindOne]

theorem notifications_run (listen : Listen κ σ) (engine : Engine κ σ)
    (told : List SubscriptionId) :
    Event.notifications (run listen engine told).journal =
      (Round.calls listen { engine } told).map Call.notification := by
  rw [run, notifications_close, notifications_notifyAll]
  exact List.nil_append _

end Round

namespace Engine

theorem notifications_drain (listen : Listen κ σ) (budget : Nat) (queue : List WriteRequest)
    (engine : Engine κ σ) :
    Event.notifications (drain listen budget queue engine).2 =
      (drainCalls listen budget queue engine).map Call.notification := by
  fun_induction drain listen budget queue engine with
  | case1 | case2 => simp [drainCalls, Event.notifications, Event.notification?]
  | case3 budget request rest engine error failed final journal drained ih =>
      rw [drained] at ih
      rw [drainCalls, failed]
      exact ih
  | case4 budget request rest engine owner tree written changed round final journal drained ih =>
      rw [drained] at ih
      rw [drainCalls, written, List.map_append, ← ih, ← Round.notifications_run,
        ← Event.notifications_append]
      rfl

theorem notifications_settle (listen : Listen κ σ) (engine : Engine κ σ)
    (told : List SubscriptionId) :
    Event.notifications (settle listen engine told).2 =
      (settleCalls listen engine told).map Call.notification := by
  rw [settle, settleCalls, Event.notifications_append, List.map_append,
    ← Round.notifications_run, ← notifications_drain]

/-- The journal of an operation has the notifications of its calls. -/
theorem notifications_perform (listen : Listen κ σ) (engine : Engine κ σ)
    (request : Request κ) :
    Event.notifications (engine.perform listen request).journal =
      (engine.performCalls listen request).map Call.notification := by
  cases request with
  | attach parent =>
      rw [perform, Step.map, attach]
      cases engine.tree.attach parent <;> rfl
  | declare node context =>
      rw [perform, Step.map, declare, performCalls]
      cases engine.tree.declare node context with
      | error => rfl
      | ok => exact notifications_settle listen _ _
  | removeContext node id =>
      rw [perform, Step.map, removeContext, performCalls]
      cases engine.tree.removeContext node id with
      | none => rfl
      | some => exact notifications_settle listen _ _
  | addImplicit node sender context =>
      rw [perform, Step.map, addImplicit]
      cases engine.tree.setImplicit node sender context <;> rfl
  | detach | clearImplicit | unbind => rfl
  | bind node text listener =>
      exact Event.notifications_of_isAboutText (engine.bind_bindsOrNot node text listener).1
  | bindTemplate node text listener =>
      exact Event.notifications_of_isAboutText
        (engine.bindTemplate_bindsOrNot node text listener).1
  | rebind id text => exact Round.notifications_rebindOne { engine } (id, text)
  | write request =>
      rw [perform, Step.map, write, performCalls]
      cases engine.writeTree request with
      | error => rfl
      | ok => exact notifications_settle listen _ _

/-- The journals of a run have the notifications of its calls. -/
theorem notifications_run (listen : Listen κ σ) (engine : Engine κ σ)
    (requests : List (Request κ)) :
    (engine.steps listen requests).flatMap (fun step => Event.notifications step.journal) =
      (engine.runCalls listen requests).map Call.notification := by
  induction requests generalizing engine with
  | nil => rfl
  | cons request rest ih =>
      rw [steps, runCalls, List.flatMap_cons, List.map_append, notifications_perform, ih]

end Engine

end LiveBinding
