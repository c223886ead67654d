import LiveBinding.Proofs.Context.Resolution
import LiveBinding.Proofs.Engine.Atomicity
import LiveBinding.Proofs.Engine.Detachment
import LiveBinding.Proofs.Engine.Freshness

/-!
# One round of notifications

A change of a context opens a round.  In it those subscriptions are told that read the context and
see the one that was changed, in the order of their numbers, but for those that a listener ended or
took away earlier in the same round.  Everybody is told the value in the tree as the change left
it: nothing that a listener asks for shows in what the rest of the round tells.
-/

namespace LiveBinding

variable {κ σ : Type} {listen : Listen κ σ}

/-! ### Changes of contexts -/

/-- A change of a context that is declared on a node, with the engine before it and the tree after
it. -/
structure Alteration (κ σ : Type) where
  before : Engine κ σ
  tree : Tree
  owner : NodeId
  name : String
  isRemoval : Bool

namespace Alteration

/-- The engine in which the round of a change opens. -/
def after (change : Alteration κ σ) : Engine κ σ := { change.before with tree := change.tree }

/-- The tree that tells who sees the context.  A context that is gone was seen before. -/
def seenIn (change : Alteration κ σ) : Tree :=
  if change.isRemoval then change.before.tree else change.tree

/-- The subscriptions that are told of a change. -/
def told (change : Alteration κ σ) : List SubscriptionId :=
  Engine.affected { change.before with tree := change.seenIn } change.owner change.name

/-- The calls of the round that a change opens. -/
def calls (listen : Listen κ σ) (change : Alteration κ σ) : List (Call κ σ) :=
  Round.calls listen { engine := change.after } change.told

end Alteration

namespace Engine

variable {engine : Engine κ σ}

/-- The change with which an operation begins, if it is one that changes a context. -/
def alteration? (engine : Engine κ σ) : Request κ → Option (Alteration κ σ)
  | .write request =>
    match engine.writeTree request with
    | .error _ => none
    | .ok (owner, tree) => some ⟨engine, tree, owner, request.contextId, false⟩
  | .declare node context =>
    match engine.tree.declare node context with
    | .error _ => none
    | .ok (_, tree) => some ⟨engine, tree, node, context.id, false⟩
  | .removeContext node id =>
    match engine.tree.removeContext node id with
    | none => none
    | some (_, tree) => some ⟨engine, tree, node, id, true⟩
  | _ => none

/-- The changes during an operation: the one with which it begins, and those of the queued writes
that are done after its round. -/
def alterations (listen : Listen κ σ) (engine : Engine κ σ) (request : Request κ) :
    List (Alteration κ σ) :=
  match engine.alteration? request with
  | none => []
  | some first =>
    let opened := (Round.run listen first.after first.told).engine
    let queued := (engine.performCalls listen request).flatMap Call.writes
    first :: (opened.attempts listen (queued.take engine.settings.maxSettleWrites)).filterMap
      fun attempt => attempt.before.alteration? (.write attempt.request)

theorem opened?_eq_alteration? (engine : Engine κ σ) (request : Request κ) :
    engine.opened? request =
      (engine.alteration? request).map fun change => (change.after, change.told) := by
  cases request with
  | write request =>
      rw [opened?, alteration?]
      cases engine.writeTree request <;> rfl
  | declare node context =>
      rw [opened?, alteration?]
      cases engine.tree.declare node context <;> rfl
  | removeContext node id =>
      rw [opened?, alteration?]
      cases engine.tree.removeContext node id <;> rfl
  | _ => rfl

/-- An attempt has the calls of the change that it makes, if it makes one. -/
theorem calls_attempt (listen : Listen κ σ) (engine : Engine κ σ) (request : WriteRequest) :
    (engine.attempt listen request).calls =
      (engine.alteration? (.write request)).toList.flatMap (Alteration.calls listen) := by
  rw [attempt, alteration?]
  cases engine.writeTree request with
  | error => rfl
  | ok => exact (List.append_nil _).symm

theorem calls_attempts (listen : Listen κ σ) (engine : Engine κ σ)
    (requests : List WriteRequest) :
    (engine.attempts listen requests).flatMap Attempt.calls =
      ((engine.attempts listen requests).filterMap fun attempt =>
        attempt.before.alteration? (.write attempt.request)).flatMap
          (Alteration.calls listen) := by
  induction requests generalizing engine with
  | nil => rfl
  | cons request rest ih =>
      obtain ⟨before, asked⟩ := engine.request_attempt listen request
      rw [attempts, List.flatMap_cons, ih, calls_attempt, List.filterMap_cons, before, asked]
      cases engine.alteration? (.write request) with
      | none => rfl
      | some change =>
          rw [Option.toList_some, List.flatMap_singleton, List.flatMap_cons]

/-- The calls of an operation are those of the rounds of its changes, one round after the other. -/
theorem performCalls_eq_alterations (listen : Listen κ σ) (engine : Engine κ σ)
    (request : Request κ) :
    engine.performCalls listen request =
      (engine.alterations listen request).flatMap (Alteration.calls listen) := by
  have opens := engine.opened?_eq_alteration? request
  rw [alterations]
  cases begins : engine.alteration? request with
  | none =>
      rw [begins] at opens
      exact ((perform_opened listen engine request).2 opens).calls
  | some first =>
      rw [begins] at opens
      have cascade := (perform_opened listen engine request).1 _ _ opens
      have limit : engine.settings.maxSettleWrites = first.after.settings.maxSettleWrites := by
        rw [cascade.settings]
      dsimp only
      rw [List.flatMap_cons, ← calls_attempts, cascade.calls, writes_settleCalls, settleCalls,
        drainCalls_eq_attempts, limit]
      rfl

theorem Sound.attempt (sound : engine.Sound) (listen : Listen κ σ) (request : WriteRequest) :
    (engine.attempt listen request).after.Sound := by
  rw [Engine.attempt]
  cases written : engine.writeTree request with
  | error => exact sound
  | ok => exact (sound.change (.write written)).evolves (evolves_round listen _ _)

theorem sound_of_mem_attempts (sound : engine.Sound) {requests : List WriteRequest}
    {attempt : Attempt κ σ} (member : attempt ∈ engine.attempts listen requests) :
    attempt.before.Sound := by
  induction requests generalizing engine with
  | nil => contradiction
  | cons request rest ih =>
      obtain here | later := List.mem_cons.mp member
      · rw [here, (engine.request_attempt listen request).1]
        exact sound
      · exact ih (sound.attempt listen request) later

/-- A change of a sound engine leaves a well-formed tree with the nodes that were there. -/
theorem sound_of_alteration? (sound : engine.Sound) {request : Request κ}
    {change : Alteration κ σ} (changes : engine.alteration? request = some change) :
    change.before.Sound ∧ change.after.Sound := by
  cases request with
  | write request =>
      rw [alteration?] at changes
      cases written : engine.writeTree request with
      | error => simp [written] at changes
      | ok result =>
          simp only [written, Option.some.injEq] at changes
          subst changes
          exact ⟨sound, sound.change (.write written)⟩
  | declare node context =>
      rw [alteration?] at changes
      cases declared : engine.tree.declare node context with
      | error => simp [declared] at changes
      | ok result =>
          simp only [declared, Option.some.injEq] at changes
          subst changes
          obtain ⟨-, rfl⟩ := Tree.declare_eq_ok_iff.mp declared
          exact ⟨sound, sound.withContext node context⟩
  | removeContext node id =>
      rw [alteration?] at changes
      cases removed : engine.tree.removeContext node id with
      | none => simp [removed] at changes
      | some result =>
          simp only [removed, Option.some.injEq] at changes
          subst changes
          obtain ⟨context, tree⟩ := result
          obtain ⟨-, rfl⟩ := Tree.removeContext_eq_some_iff.mp removed
          exact ⟨sound, sound.withoutContext node id⟩
  | _ => contradiction

theorem sound_of_mem_alterations (sound : engine.Sound) {request : Request κ}
    {change : Alteration κ σ} (member : change ∈ engine.alterations listen request) :
    change.before.Sound ∧ change.after.Sound := by
  rw [alterations] at member
  cases begins : engine.alteration? request with
  | none => simp [begins] at member
  | some first =>
      have soundFirst := sound_of_alteration? sound begins
      simp only [begins] at member
      obtain rfl | later := List.mem_cons.mp member
      · exact soundFirst
      · obtain ⟨attempt, attempted, changes⟩ := List.mem_filterMap.mp later
        have soundOpened := soundFirst.2.evolves (evolves_round listen first.after first.told)
        exact sound_of_alteration? (sound_of_mem_attempts soundOpened attempted) changes

end Engine

/-! ### What has been asked for in a round -/

/-- A call tells a subscription the value of its text in the engine with which the round opened,
and answers with what its listener asks for. -/
structure Call.IsMadeFor (listen : Listen κ σ) (start : Engine κ σ) (id : SubscriptionId)
    (subscription : Subscription κ) (call : Call κ σ) : Prop where
  notification : call.notification =
    ⟨id, subscription.node, start.evaluateOn subscription.node subscription.watched⟩
  effects : call.effects =
    (listen subscription.listener call.notification call.engine.memory).1

/-- Effects cancel a subscription on a node: they end it, or they detach the node or one above. -/
def Effect.Cancel (tree : Tree) (effects : List Effect) (id : SubscriptionId) (node : NodeId) :
    Prop :=
  .unbind id ∈ effects ∨ ∃ top, .detach top ∈ effects ∧ tree.IsBelow node top

theorem Effect.cancel_append {tree : Tree} {asked effects : List Effect} {id : SubscriptionId}
    {node : NodeId} : Cancel tree (asked ++ effects) id node ↔
      Cancel tree asked id node ∨ Cancel tree effects id node := by
  simp only [Cancel, List.mem_append, or_and_right, exists_or]
  exact or_or_or_comm

namespace Round

variable {start : Engine κ σ} {asked : List Effect} {round : Round κ σ} {id : SubscriptionId}
  {subscription : Subscription κ}

/-- Where a round is that opened with an engine and took some effects: the tree and the operations
are untouched, and who was cancelled is passed over from now on. -/
structure HasTaken (start : Engine κ σ) (asked : List Effect) (round : Round κ σ) : Prop where
  tree : round.engine.tree = start.tree
  registry : round.engine.registry = start.registry
  ordered : round.engine.subscriptions.Ordered
  get? : ∀ id, round.engine.subscriptions.get? id =
    if .unbind id ∈ asked then none else start.subscriptions.get? id
  cancelled : ∀ id subscription, start.subscriptions.get? id = some subscription →
    (id ∈ round.cancelled ↔ Effect.Cancel start.tree asked id subscription.node)

namespace HasTaken

theorem opening (sound : start.Sound) : HasTaken start [] { engine := start } where
  tree := rfl
  registry := rfl
  ordered := sound.store
  get? _ := (if_neg List.not_mem_nil).symm
  cancelled _ _ _ := by simp [Effect.Cancel]

theorem take (taken : round.HasTaken start asked) (sound : start.Sound) (effect : Effect) :
    (round.take effect).HasTaken start (asked ++ [effect]) := by
  have ⟨tree, registry, ordered, get?, cancelled⟩ := taken
  cases effect with
  | write | rebind =>
      refine ⟨tree, registry, ordered, fun id => ?_, fun id subscription live => ?_⟩
      · simpa [Round.take] using get? id
      · rw [Effect.cancel_append]
        simpa [Round.take, Effect.Cancel] using cancelled id subscription live
  | unbind other =>
      refine ⟨tree, registry, ordered.remove other, fun id => ?_, fun id subscription live => ?_⟩
      · rw [Round.take, Engine.get?_unbind, get?]
        by_cases same : id = other
        · simp [same]
        · simp [same]
      · rw [Effect.cancel_append, Round.take, List.mem_cons, cancelled id subscription live]
        simp [Effect.Cancel, or_comm]
  | detach top =>
      refine ⟨tree, registry, ordered, fun id => ?_, fun id subscription live => ?_⟩
      · simpa [Round.take] using get? id
      · have onNode := sound.onNodes id subscription live
        have inside : subscription.node ∈ round.engine.tree.subtree top ↔
            start.tree.IsBelow subscription.node top := by
          rw [tree, sound.tree.mem_subtree,
            Tree.mem_ancestors_iff_isBelow sound.tree onNode, and_iff_right onNode]
        rw [Effect.cancel_append, Round.take, List.mem_append, cancelled id subscription live,
          Subscriptions.mem_idsOn ordered, get? id]
        -- a subscription that was ended is cancelled, whether or not the store still has it
        by_cases ended : .unbind id ∈ asked
        · exact iff_of_true (.inr (.inl ended)) (.inl (.inl ended))
        · rw [if_neg ended]
          simp [live, inside, Effect.Cancel, or_comm]

theorem takeAll (taken : round.HasTaken start asked) (sound : start.Sound)
    (effects : List Effect) :
    (effects.foldl Round.take round).HasTaken start (asked ++ effects) := by
  induction effects generalizing round asked with
  | nil => rwa [List.append_nil]
  | cons effect rest ih =>
      have all := ih (taken.take sound effect)
      rwa [List.append_assoc] at all

/-- Whoever is concerned is passed over if it was cancelled, and else is told its value in the
engine with which the round opened. -/
theorem notify (taken : round.HasTaken start asked) (sound : start.Sound) (listen : Listen κ σ)
    (live : start.subscriptions.get? id = some subscription) :
    (Effect.Cancel start.tree asked id subscription.node ∧ round.call? listen id = none ∧
        (round.notify listen id).HasTaken start asked) ∨
      ∃ call, ¬Effect.Cancel start.tree asked id subscription.node ∧
        round.call? listen id = some call ∧ call.IsMadeFor listen start id subscription ∧
        (round.notify listen id).HasTaken start (asked ++ call.effects) := by
  obtain ⟨skipped, silent, same⟩ | ⟨current, effects, memory, active, found, called, told⟩ :=
    round.notify_cases listen id
  · refine .inl ⟨?_, silent, same.symm ▸ taken⟩
    obtain listed | gone := skipped
    · exact (taken.cancelled id subscription live).mp listed
    · rw [taken.get?] at gone
      split at gone
      · next ended => exact .inl ended
      · rw [live] at gone
        contradiction
  · obtain rfl : current = subscription := by
      rw [taken.get?] at found
      split at found
      · contradiction
      · exact Option.some.inj (found.symm.trans live)
    have sameValue : round.due id current =
        ⟨id, current.node, start.evaluateOn current.node current.watched⟩ := by
      rw [due, Engine.evaluateOn, Engine.evaluateOn, taken.tree, taken.registry]
    have heard : effects =
        (listen current.listener (round.due id current) round.engine.memory).1 := by
      have unlisted : ¬round.cancelled.contains id = true := by simpa using active
      rw [call?, if_neg unlisted, found] at called
      exact (congrArg Call.effects (Option.some.inj called)).symm
    have telling : (round.afterTelling (round.due id current) memory).HasTaken start asked :=
      ⟨taken.tree, taken.registry, taken.ordered, taken.get?, taken.cancelled⟩
    refine .inr ⟨_, mt (taken.cancelled id current live).mpr active, called,
      ⟨sameValue, heard⟩, ?_⟩
    rw [told]
    exact telling.takeAll sound effects

end HasTaken

/-! ### Whole rounds -/

theorem subscription_of_call? {round : Round κ σ} {call : Call κ σ}
    (called : round.call? listen id = some call) : call.notification.subscription = id := by
  obtain ⟨-, silent, -⟩ | ⟨current, effects, memory, -, -, made, -⟩ := round.notify_cases listen id
  · rw [silent] at called
    contradiction
  · rw [made, Option.some.injEq] at called
    rw [← called, due]

/-- Nobody is called out of turn. -/
theorem subscriptions_calls (listen : Listen κ σ) (round : Round κ σ)
    (told : List SubscriptionId) :
    ((round.calls listen told).map (·.notification.subscription)).Sublist told := by
  induction told generalizing round with
  | nil => exact .slnil
  | cons id rest ih =>
      rw [calls, List.map_append]
      cases called : round.call? listen id with
      | none => exact (ih _).cons id
      | some call =>
          have first := subscription_of_call? called
          rw [Option.toList_some, List.map_singleton, first]
          exact (ih _).cons_cons id

theorem mem_told_of_mem_calls {round : Round κ σ} {told : List SubscriptionId} {call : Call κ σ}
    (member : call ∈ round.calls listen told) : call.notification.subscription ∈ told :=
  (subscriptions_calls listen round told).subset (List.mem_map_of_mem member)

/-- Whoever is called is told the value in the engine with which the round opened. -/
theorem HasTaken.isMadeFor_of_mem_calls (taken : round.HasTaken start asked) (sound : start.Sound)
    {told : List SubscriptionId} (live : ∀ id ∈ told, (start.subscriptions.get? id).isSome)
    {call : Call κ σ} (member : call ∈ round.calls listen told) :
    ∃ id ∈ told, ∃ subscription, start.subscriptions.get? id = some subscription ∧
      call.IsMadeFor listen start id subscription := by
  induction told generalizing round asked with
  | nil => contradiction
  | cons id rest ih =>
      obtain ⟨subscription, found⟩ := Option.isSome_iff_exists.mp (live id List.mem_cons_self)
      have liveRest := fun other listed => live other (List.mem_cons_of_mem id listed)
      rw [calls] at member
      obtain ⟨-, silent, next⟩ | ⟨first, -, called, made, next⟩ := taken.notify sound listen found
      · rw [silent] at member
        obtain ⟨other, listed, rest⟩ := ih next liveRest member
        exact ⟨other, List.mem_cons_of_mem id listed, rest⟩
      · rw [called, Option.toList_some, List.singleton_append, List.mem_cons] at member
        obtain rfl | later := member
        · exact ⟨id, List.mem_cons_self, subscription, found, made⟩
        · obtain ⟨other, listed, rest⟩ := ih next liveRest later
          exact ⟨other, List.mem_cons_of_mem id listed, rest⟩

/-- Whoever is to be told is called, unless what was asked for before the turn came cancels it. -/
theorem HasTaken.called_iff (taken : round.HasTaken start asked) (sound : start.Sound)
    (listen : Listen κ σ) {told : List SubscriptionId}
    (live : ∀ id ∈ told, (start.subscriptions.get? id).isSome)
    (ascending : told.Pairwise (·.number < ·.number)) (listed : id ∈ told)
    (found : start.subscriptions.get? id = some subscription) :
    (∃ call ∈ round.calls listen told, call.notification.subscription = id) ↔
      ¬Effect.Cancel start.tree asked id subscription.node ∧
        ∀ call ∈ round.calls listen told, call.notification.subscription.number < id.number →
          ¬Effect.Cancel start.tree call.effects id subscription.node := by
  induction told generalizing round asked with
  | nil => contradiction
  | cons head rest ih =>
      obtain ⟨headSubscription, headFound⟩ := Option.isSome_iff_exists.mp
        (live head List.mem_cons_self)
      have liveRest := fun other listed => live other (List.mem_cons_of_mem head listed)
      obtain ⟨below, ascendingRest⟩ := List.pairwise_cons.mp ascending
      have later : ∀ {round : Round κ σ}, ∀ call ∈ round.calls listen rest,
          head.number < call.notification.subscription.number :=
        fun call member => below _ (mem_told_of_mem_calls member)
      have step := taken.notify sound listen headFound
      rw [calls]
      obtain rfl | listedRest := List.mem_cons.mp listed
      · cases headFound.symm.trans found
        obtain ⟨cancelled, silent, -⟩ | ⟨first, active, called, made, -⟩ := step
        · refine iff_of_false ?_ (fun spared => spared.1 cancelled)
          rw [silent]
          rintro ⟨call, member, same⟩
          exact absurd (same ▸ later call member) (Nat.lt_irrefl _)
        · rw [called, Option.toList_some, List.singleton_append]
          refine iff_of_true ⟨first, List.mem_cons_self, by rw [made.notification]⟩
            ⟨active, fun call member earlier => ?_⟩
          obtain rfl | member := List.mem_cons.mp member
          · rw [made.notification] at earlier
            exact absurd earlier (Nat.lt_irrefl _)
          · exact absurd earlier (Nat.lt_asymm (later call member))
      · have behind := below id listedRest
        obtain ⟨-, silent, next⟩ | ⟨first, -, called, made, next⟩ := step
        · rw [silent]
          exact ih next liveRest ascendingRest listedRest
        · have isHead : first.notification.subscription = head := by rw [made.notification]
          have different : ¬head = id := fun same => Nat.lt_irrefl _ (same ▸ behind)
          rw [called, Option.toList_some, List.singleton_append, List.exists_mem_cons_iff,
            List.forall_mem_cons, isHead, ih next liveRest ascendingRest listedRest,
            Effect.cancel_append]
          simp only [different, behind, false_or, forall_const, not_or, and_assoc]

end Round

/-! ### What a change leads to -/

namespace Alteration

variable {change : Alteration κ σ}

/-- Whom a change concerns: the live subscriptions that read the context and see the one on its
node. -/
structure Concerns (change : Alteration κ σ) (id : SubscriptionId)
    (subscription : Subscription κ) : Prop where
  live : change.before.subscriptions.get? id = some subscription
  reads : subscription.watched.references change.name = true
  sees : change.seenIn.IsNearest subscription.node change.name change.owner

/-- A change is announced by the calls of its round. -/
structure IsAnnounced (listen : Listen κ σ) (change : Alteration κ σ)
    (calls : List (Call κ σ)) : Prop where
  /-- The calls are in the order of the numbers, and nobody is called twice. -/
  ascending : (calls.map (·.notification.subscription)).Pairwise (·.number < ·.number)
  /-- Whoever is called is concerned, and is told the value of its text after the change. -/
  told : ∀ call ∈ calls, ∃ id subscription, change.Concerns id subscription ∧
    call.IsMadeFor listen change.after id subscription
  /-- Whoever is concerned is called, unless an earlier call ends it or detaches its node. -/
  called_iff : ∀ id subscription, change.Concerns id subscription →
    ((∃ call ∈ calls, call.notification.subscription = id) ↔
      ∀ call ∈ calls, call.notification.subscription.number < id.number →
        ¬Effect.Cancel change.tree call.effects id subscription.node)

section

variable (sound : change.before.Sound) (soundAfter : change.after.Sound)

include sound soundAfter

theorem sound_seenIn : Engine.Sound { change.before with tree := change.seenIn } := by
  rw [seenIn]
  split
  · exact sound
  · exact soundAfter

theorem mem_told {id : SubscriptionId} :
    id ∈ change.told ↔ ∃ subscription, change.Concerns id subscription := by
  have soundSeen := sound_seenIn sound soundAfter
  rw [told, Engine.mem_affected soundSeen]
  refine exists_congr fun subscription => ?_
  constructor
  · rintro ⟨live, reads, sees⟩
    exact ⟨live, reads, (Tree.owner?_eq_some_iff soundSeen.tree).mp sees⟩
  · rintro ⟨live, reads, sees⟩
    exact ⟨live, reads, (Tree.owner?_eq_some_iff soundSeen.tree).mpr sees⟩

theorem isAnnounced_calls (listen : Listen κ σ) :
    change.IsAnnounced listen (change.calls listen) := by
  have opening := Round.HasTaken.opening soundAfter
  have ascending : change.told.Pairwise (·.number < ·.number) :=
    Engine.ascending_affected (sound_seenIn sound soundAfter) _ _
  have live : ∀ id ∈ change.told, (change.after.subscriptions.get? id).isSome := by
    intro id member
    obtain ⟨subscription, concerned⟩ := (mem_told sound soundAfter).mp member
    exact Option.isSome_iff_exists.mpr ⟨subscription, concerned.live⟩
  refine ⟨ascending.sublist (Round.subscriptions_calls listen _ _), fun call member => ?_,
    fun id subscription concerned => ?_⟩
  · obtain ⟨id, listed, subscription, found, made⟩ :=
      opening.isMadeFor_of_mem_calls soundAfter live member
    obtain ⟨current, concerned⟩ := (mem_told sound soundAfter).mp listed
    cases concerned.live.symm.trans found
    exact ⟨id, subscription, concerned, made⟩
  · have listed := (mem_told sound soundAfter).mpr ⟨subscription, concerned⟩
    have called := opening.called_iff soundAfter listen live ascending listed concerned.live
    have unasked : ¬Effect.Cancel change.after.tree [] id subscription.node := by
      simp [Effect.Cancel]
    exact called.trans (and_iff_right unasked)

end

end Alteration

namespace Engine

/-- What listeners are told during an operation is what the calls of its changes tell, round after
round.  In each round those are called whom the change concerns, in the order of their numbers, but
for those that an earlier call of the round ended or whose node it detached, and each is told the
value of its text right after the change. -/
theorem rounds_of_reached {engine : Engine κ σ} (reached : Reached listen engine)
    (request : Request κ) :
    let changes := engine.alterations listen request
    Event.notifications (engine.perform listen request).journal =
        (changes.flatMap (Alteration.calls listen)).map Call.notification ∧
      ∀ change ∈ changes, change.IsAnnounced listen (change.calls listen) := by
  intro changes
  refine ⟨?_, fun change member => ?_⟩
  · rw [notifications_perform, performCalls_eq_alterations]
  · obtain ⟨sound, soundAfter⟩ := sound_of_mem_alterations reached.sound member
    exact Alteration.isAnnounced_calls sound soundAfter listen

/-- The first of four listeners ends the second one, takes the node of the third one away, has the
fourth one watch something else, and asks for another write. -/
theorem rounds_of_reached_four :
    let root : NodeId := ⟨0, 0⟩
    let below : NodeId := ⟨1, 0⟩
    let listen : Listen (List Effect) Unit := fun effects _ memory => (effects, memory)
    let write (name : String) (value : Int64) : WriteRequest := ⟨root, name, "", .int value, none⟩
    let engine := (Engine.new {} () : Engine (List Effect) Unit).run listen
      [.attach none, .attach (some root), .declare root ⟨"c", .int 1⟩,
        .declare root ⟨"d", .int 1⟩,
        .bind root "sum(c, c)" [.unbind ⟨2⟩, .detach below, .rebind ⟨4⟩ "d", .write (write "d" 7)],
        .bind root "c" [], .bind below "c" [], .bind root "c" [], .bind root "d" []]
    let request : Request (List Effect) := .write (write "c" 5)
    let changes := engine.alterations listen request
    Reached listen engine ∧
      (∀ change ∈ changes, change.IsAnnounced listen (change.calls listen)) ∧
      changes.map (fun change => (change.calls listen).map (·.notification.subscription.number)) =
        [[1, 4], [4, 5]] ∧
      Event.notifications (engine.perform listen request).journal =
        [⟨⟨1⟩, root, .int 10⟩, ⟨⟨4⟩, root, .int 5⟩, ⟨⟨4⟩, root, .int 7⟩, ⟨⟨5⟩, root, .int 7⟩] := by
  intro root below listen write engine request changes
  have reached : Reached listen engine := (Reached.new {} ()).run _
  obtain ⟨told, announced⟩ := rounds_of_reached reached request
  have numbers : changes.map (fun change =>
      (change.calls listen).map (·.notification.subscription.number)) = [[1, 4], [4, 5]] := by
    decide +kernel
  exact ⟨reached, announced, numbers, told.trans (by decide +kernel)⟩

end Engine

end LiveBinding
