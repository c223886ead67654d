import LiveBinding.Proofs.Engine.Sessions

/-!
# Views of an engine

A view shows an engine with part of its tree left out and with other listeners in its store.  If
every operation on the tree can be done in the part that is shown, and a round of notifications
looks the same from both sides, then so does every request that is about what is shown: the view of
the engine after it is the engine after it in the view, with the same answer and journal.

The cascades are given here with the way of delivering a round as a parameter, since the listeners
of a view may be called in another manner.
-/

namespace LiveBinding

/-! ### Cascades that deliver in any way -/

/-- A way of telling some subscriptions in one round. -/
abbrev Delivers (κ σ : Type) := Engine κ σ → (told : List SubscriptionId) → Round κ σ

namespace Engine

variable {κ σ : Type}

/-- Do queued writes, at most `budget` of them, each with its round. -/
def drainBy (delivers : Delivers κ σ) :
    (budget : Nat) → List WriteRequest → Engine κ σ → Engine κ σ × List Event
  | _, [], engine => (engine, [])
  | 0, request :: rest, engine =>
    (engine, [.limitReached engine.settings.maxSettleWrites (request :: rest).length])
  | budget + 1, request :: rest, engine =>
    match engine.writeTree request with
    | .error error =>
      let (final, journal) := drainBy delivers budget rest engine
      (final, .refused request error :: journal)
    | .ok (owner, tree) =>
      let changed := { engine with tree }
      let round := delivers changed (changed.affected owner request.contextId)
      let (final, journal) := drainBy delivers budget (rest ++ round.queue) round.engine
      (final, .written request owner :: round.journal ++ journal)

theorem drainBy_of_ok {delivers : Delivers κ σ} {engine : Engine κ σ} {request : WriteRequest}
    {owner : NodeId} {tree : Tree} {round : Round κ σ}
    (written : engine.writeTree request = .ok (owner, tree))
    (delivered : delivers { engine with tree }
      (affected { engine with tree } owner request.contextId) = round)
    (budget : Nat) (rest : List WriteRequest) :
    drainBy delivers (budget + 1) (request :: rest) engine =
      ((drainBy delivers budget (rest ++ round.queue) round.engine).1,
        .written request owner :: round.journal ++
          (drainBy delivers budget (rest ++ round.queue) round.engine).2) := by
  rw [drainBy, written, ← delivered]

/-- The cascade that starts by telling some subscriptions. -/
def settleBy (delivers : Delivers κ σ) (engine : Engine κ σ) (told : List SubscriptionId) :
    Engine κ σ × List Event :=
  let round := delivers engine told
  let (final, journal) :=
    drainBy delivers engine.settings.maxSettleWrites round.queue round.engine
  (final, round.journal ++ journal)

/-- Do what is requested, with rounds that are delivered in some way. -/
def performBy (delivers : Delivers κ σ) (engine : Engine κ σ) : Request κ → Step κ σ Answer
  | .attach parent => (engine.attach parent).map .attached
  | .detach node => (engine.detach node).map .detached
  | .declare node context =>
    match engine.tree.declare node context with
    | .error error => ⟨engine, .declared (.error error), []⟩
    | .ok (_, tree) =>
      let changed := { engine with tree }
      let (final, journal) := settleBy delivers changed (changed.affected node context.id)
      ⟨final, .declared (.ok (Event.countNotified journal)), journal⟩
  | .removeContext node id =>
    match engine.tree.removeContext node id with
    | none => ⟨engine, .removed none, []⟩
    | some (_, tree) =>
      let (final, journal) := settleBy delivers { engine with tree } (engine.affected node id)
      ⟨final, .removed (some (Event.countNotified journal)), journal⟩
  | .addImplicit node sender context =>
    (engine.addImplicit node sender context).map .implicitAdded
  | .clearImplicit sender => (engine.clearImplicit sender).map .implicitCleared
  | .bind node text listener => (engine.bind node text listener).map .bound
  | .bindTemplate node text listener => (engine.bindTemplate node text listener).map .bound
  | .rebind subscription text => (engine.rebind subscription text).map .rebound
  | .unbind subscription => (engine.unbind subscription).map .unbound
  | .write request =>
    match engine.writeTree request with
    | .error error => ⟨engine, .written (.error error), []⟩
    | .ok (owner, tree) =>
      let changed := { engine with tree }
      let (final, journal) := settleBy delivers changed (changed.affected owner request.contextId)
      ⟨final, .written (.ok ⟨owner, Event.countNotified journal⟩), journal⟩

theorem drainBy_run (listen : Listen κ σ) (budget : Nat) (queue : List WriteRequest)
    (engine : Engine κ σ) :
    drainBy (Round.run listen) budget queue engine = drain listen budget queue engine := by
  fun_induction drain listen budget queue engine with
  | case1 | case2 => simp only [drainBy]
  | case3 budget request rest engine error failed final journal drained ih =>
      rw [drainBy, failed, ih, drained]
  | case4 budget request rest engine owner tree written changed round final journal drained ih =>
      rw [drainBy, written]
      change ((drainBy (Round.run listen) budget (rest ++ round.queue) round.engine).1, _) = _
      rw [ih, drained]

theorem settleBy_run (listen : Listen κ σ) (engine : Engine κ σ) (told : List SubscriptionId) :
    settleBy (Round.run listen) engine told = settle listen engine told := by
  rw [settleBy, settle, drainBy_run]

/-- The requests of an engine deliver by telling each listener in its turn. -/
theorem performBy_run (listen : Listen κ σ) :
    (performBy (Round.run listen) : Performs κ κ σ) = perform listen := by
  funext engine request
  cases request with
  | declare node context =>
      rw [performBy, perform, Engine.declare]
      cases engine.tree.declare node context with
      | error => rfl
      | ok result =>
          simp only [settleBy_run]
          rfl
  | removeContext node id =>
      rw [performBy, perform, Engine.removeContext]
      cases engine.tree.removeContext node id with
      | none => rfl
      | some result =>
          simp only [settleBy_run]
          rfl
  | write request =>
      rw [performBy, perform, Engine.write]
      cases engine.writeTree request with
      | error => rfl
      | ok result =>
          simp only [settleBy_run]
          rfl
  | attach | detach | addImplicit | clearImplicit | bind | bindTemplate | rebind | unbind => rfl

end Engine

/-! ### The store with other listeners -/

namespace Subscriptions

variable {κ κ' : Type}

/-- The subscriptions with other listeners. -/
def mapListeners (change : κ → κ') (subscriptions : Subscriptions κ) : Subscriptions κ' where
  issued := subscriptions.issued
  live := subscriptions.live.map fun entry =>
    (entry.1, ⟨entry.2.node, entry.2.watched, change entry.2.listener⟩)

variable (change : κ → κ') (store : Subscriptions κ)

theorem get?_mapListeners (id : SubscriptionId) :
    (store.mapListeners change).get? id = (store.get? id).map fun subscription =>
      ⟨subscription.node, subscription.watched, change subscription.listener⟩ := by
  unfold mapListeners get?
  induction store.live with
  | nil => rfl
  | cons entry rest ih =>
      rw [List.map_cons, List.lookup_cons, List.lookup_cons, ih]
      cases id == entry.1 <;> rfl

theorem add_mapListeners (subscription : Subscription κ) :
    (store.mapListeners change).add
        ⟨subscription.node, subscription.watched, change subscription.listener⟩ =
      (store.add subscription).mapListeners change := by
  simp only [mapListeners, add, nextId, List.map_append, List.map_cons, List.map_nil]

theorem remove_mapListeners (id : SubscriptionId) :
    (store.mapListeners change).remove id = (store.remove id).mapListeners change := by
  simp only [mapListeners, remove, List.filter_map]
  rfl

theorem removeOn_mapListeners (nodes : List NodeId) :
    (store.mapListeners change).removeOn nodes = (store.removeOn nodes).mapListeners change := by
  simp only [mapListeners, removeOn, List.filter_map]
  rfl

theorem idsOn_mapListeners (nodes : List NodeId) :
    (store.mapListeners change).idsOn nodes = store.idsOn nodes := by
  simp only [mapListeners, idsOn, List.filter_map, List.map_map]
  rfl

theorem retarget_mapListeners (id : SubscriptionId) (watched : Watched) :
    (store.mapListeners change).retarget id watched =
      (store.retarget id watched).mapListeners change := by
  simp only [mapListeners, retarget, List.map_map]
  congr 1
  refine List.map_congr_left fun entry _ => ?_
  by_cases same : entry.1 = id <;> simp [same]

theorem size_mapListeners : (store.mapListeners change).size = store.size := List.length_map _

theorem mapListeners_id : store.mapListeners id = store := by
  simp only [mapListeners, id]
  exact congrArg (Subscriptions.mk store.issued) (List.map_id _)

end Subscriptions

/-! ### Views -/

/-- What a view shows: of a tree some part, of a listener its image, and of the senders those whose
implicit contexts are in the part of the tree. -/
structure View (κ κ' : Type) where
  tree : Tree → Tree
  listener : κ → κ'
  sees : SenderId → Bool

namespace View

variable {κ κ' σ α : Type}

/-- An engine as it is shown. -/
def engine (view : View κ κ') (engine : Engine κ σ) : Engine κ' σ where
  tree := view.tree engine.tree
  registry := engine.registry
  subscriptions := engine.subscriptions.mapListeners view.listener
  settings := engine.settings
  memory := engine.memory

/-- A step as it is shown. -/
def step (view : View κ κ') (step : Step κ σ α) : Step κ' σ α :=
  ⟨view.engine step.engine, step.answer, step.journal⟩

/-- A round as it is shown. -/
def round (view : View κ κ') (round : Round κ σ) : Round κ' σ where
  engine := view.engine round.engine
  cancelled := round.cancelled
  rebinds := round.rebinds
  detaches := round.detaches
  queue := round.queue
  journal := round.journal

/-- A request as it is shown. -/
def request (view : View κ κ') : Request κ → Request κ'
  | .attach parent => .attach parent
  | .detach node => .detach node
  | .declare node context => .declare node context
  | .removeContext node id => .removeContext node id
  | .addImplicit node sender context => .addImplicit node sender context
  | .clearImplicit sender => .clearImplicit sender
  | .bind node text listener => .bind node text (view.listener listener)
  | .bindTemplate node text listener => .bindTemplate node text (view.listener listener)
  | .rebind subscription text => .rebind subscription text
  | .unbind subscription => .unbind subscription
  | .write request => .write request

end View

/-- The sender whose implicit contexts a request is about. -/
def Request.sender? {κ : Type} : Request κ → Option SenderId
  | .addImplicit _ sender _ => some sender
  | .clearImplicit sender => some sender
  | _ => none

/-- The sender whose implicit contexts a query is about. -/
def Query.sender? : Query → Option SenderId
  | .implicit _ sender => some sender
  | .scopeFor _ sender => some sender
  | .evaluateFor _ sender _ => some sender
  | _ => none

/-- The sender whose implicit contexts a turn is about. -/
def Act.sender? {ι : Type} : Act ι → Option SenderId
  | .request requested => requested.sender?
  | .query asked => asked.sender?
  | .register .. => none
  | .unregister _ => none

namespace View

variable {κ κ' σ α : Type} {view : View κ κ'}

/-- All that can be done with a tree can be done in the part that is shown, and comes to the
same. -/
structure Faithful (view : View κ κ') : Prop where
  contains : ∀ tree node, (view.tree tree).contains node = tree.contains node
  size : ∀ tree, (view.tree tree).size = tree.size
  parent? : ∀ tree node, (view.tree tree).parent? node = tree.parent? node
  children : ∀ tree node, (view.tree tree).children node = tree.children node
  subtree : ∀ tree node, (view.tree tree).subtree node = tree.subtree node
  declared : ∀ tree node, (view.tree tree).declared node = tree.declared node
  scope : ∀ tree node, (view.tree tree).scope node = tree.scope node
  implicit? : ∀ tree node sender, view.sees sender = true →
    (view.tree tree).implicit? node sender = tree.implicit? node sender
  scopeFor : ∀ tree node sender, view.sees sender = true →
    (view.tree tree).scopeFor node sender = tree.scopeFor node sender
  attach : ∀ tree parent,
    (view.tree tree).attach parent = (tree.attach parent).map (Prod.map id view.tree)
  detach : ∀ tree node,
    (view.tree tree).detach node = Prod.map id view.tree (tree.detach node)
  declare : ∀ tree node context,
    (view.tree tree).declare node context =
      (tree.declare node context).map (Prod.map id view.tree)
  removeContext : ∀ tree node name,
    (view.tree tree).removeContext node name =
      (tree.removeContext node name).map (Prod.map id view.tree)
  writeContext : ∀ tree node name change,
    (view.tree tree).writeContext node name change =
      (tree.writeContext node name change).map view.tree
  setImplicit : ∀ tree node sender context, view.sees sender = true →
    (view.tree tree).setImplicit node sender context =
      (tree.setImplicit node sender context).map view.tree
  clearImplicit : ∀ tree sender, view.sees sender = true →
    (view.tree tree).clearImplicit sender = view.tree (tree.clearImplicit sender)
  countImplicit : ∀ tree sender, view.sees sender = true →
    (view.tree tree).countImplicit sender = tree.countImplicit sender

theorem engine_unbind (view : View κ κ') (engine : Engine κ σ) (id : SubscriptionId) :
    (view.engine engine).unbind id = view.step (engine.unbind id) := by
  simp only [Engine.unbind, View.step, View.engine, Subscriptions.remove_mapListeners,
    Subscriptions.contains, Subscriptions.get?_mapListeners, Option.isSome_map]

namespace Faithful

variable (faithful : view.Faithful) (engine : Engine κ σ)

include faithful

/-! ### Steps that tell nobody -/

theorem evaluateOn (node : NodeId) (watched : Watched) :
    (view.engine engine).evaluateOn node watched = engine.evaluateOn node watched := by
  rw [Engine.evaluateOn, View.engine, faithful.scope]
  rfl

theorem owner? (tree : Tree) (node : NodeId) (name : String) :
    (view.tree tree).owner? node name = tree.owner? node name := by
  rw [Tree.owner?, faithful.scope]
  rfl

theorem engine_detach (node : NodeId) :
    (view.engine engine).detach node = view.step (engine.detach node) := by
  rw [Engine.detach, View.engine, faithful.detach]
  simp only [Prod.map, id, Subscriptions.removeOn_mapListeners]
  rfl

theorem engine_attach (parent : Option NodeId) :
    (view.engine engine).attach parent = view.step (engine.attach parent) := by
  rw [Engine.attach, Engine.attach, View.engine, faithful.attach]
  cases engine.tree.attach parent <;> rfl

theorem engine_rebind (id : SubscriptionId) (text : String) :
    (view.engine engine).rebind id text = view.step (engine.rebind id text) := by
  have found : (view.engine engine).subscriptions.get? id =
      (engine.subscriptions.get? id).map fun subscription =>
        ⟨subscription.node, subscription.watched, view.listener subscription.listener⟩ :=
    Subscriptions.get?_mapListeners view.listener engine.subscriptions id
  rw [Engine.rebind, Engine.rebind, found]
  cases engine.subscriptions.get? id with
  | none => rfl
  | some subscription =>
      simp only [Option.map_some, faithful.evaluateOn]
      split
      · simp only [View.step, View.engine, Subscriptions.retarget_mapListeners]
        rfl
      · split
        · simp only [View.step, View.engine, Subscriptions.remove_mapListeners]
          rfl
        · simp only [View.step, View.engine, Subscriptions.retarget_mapListeners]
          rfl

theorem engine_subscribe (node : NodeId) (watched : Watched) (listener : κ)
    (journal : List Event) :
    (view.engine engine).subscribe node watched (view.listener listener) journal =
      view.step (engine.subscribe node watched listener journal) := by
  have added := engine.subscriptions.add_mapListeners view.listener ⟨node, watched, listener⟩
  have contains : (view.engine engine).tree.contains node = engine.tree.contains node :=
    faithful.contains engine.tree node
  rw [Engine.subscribe, Engine.subscribe, contains, faithful.evaluateOn]
  split
  · simp only [View.step, View.engine, added]
    rfl
  · rfl

theorem engine_bind (node : NodeId) (text : String) (listener : κ) :
    (view.engine engine).bind node text (view.listener listener) =
      view.step (engine.bind node text listener) := by
  rw [Engine.bind, Engine.bind]
  split
  · rfl
  · exact faithful.engine_subscribe engine node _ listener _

theorem engine_bindTemplate (node : NodeId) (text : String) (listener : κ) :
    (view.engine engine).bindTemplate node text (view.listener listener) =
      view.step (engine.bindTemplate node text listener) := by
  have contains : (view.engine engine).tree.contains node = engine.tree.contains node :=
    faithful.contains engine.tree node
  rw [Engine.bindTemplate, Engine.bindTemplate, contains]
  split
  · exact faithful.engine_subscribe engine node _ listener _
  · split <;> rfl

theorem engine_addImplicit (node : NodeId) {sender : SenderId} (context : Context)
    (seen : view.sees sender = true) :
    (view.engine engine).addImplicit node sender context =
      view.step (engine.addImplicit node sender context) := by
  rw [Engine.addImplicit, Engine.addImplicit, View.engine,
    faithful.setImplicit engine.tree node sender context seen]
  cases engine.tree.setImplicit node sender context <;> rfl

theorem engine_clearImplicit {sender : SenderId} (seen : view.sees sender = true) :
    (view.engine engine).clearImplicit sender = view.step (engine.clearImplicit sender) := by
  rw [Engine.clearImplicit, Engine.clearImplicit, View.engine,
    faithful.clearImplicit engine.tree sender seen, faithful.countImplicit engine.tree sender seen]
  rfl

theorem ask (query : Query) (seen : ∀ sender ∈ query.sender?, view.sees sender = true) :
    (view.engine engine).ask query = view.step (engine.ask query) := by
  cases query with
  | implicit node sender =>
      have same := faithful.implicit? engine.tree node sender (seen sender rfl)
      simp only [Engine.ask, View.step, View.engine, same]
  | scopeFor node sender =>
      have same := faithful.scopeFor engine.tree node sender (seen sender rfl)
      simp only [Engine.ask, View.step, View.engine, same]
  | evaluateFor node sender text =>
      have same := faithful.scopeFor engine.tree node sender (seen sender rfl)
      simp only [Engine.ask, Step.map, Engine.evaluateForSender, View.step, View.engine, same]
      rfl
  | evaluate node text =>
      simp only [Engine.ask, Step.map, Engine.evaluateText, faithful.evaluateOn]
      rfl
  | evaluateTemplate node text =>
      simp only [Engine.ask, Step.map, Engine.evaluateTemplateText, faithful.evaluateOn]
      rfl
  | contains | size | parent | children | subtree | declared | scope | subscriptionCount
  | operations | settings =>
      simp only [Engine.ask, View.step, View.engine, faithful.contains, faithful.size,
        faithful.parent?, faithful.children, faithful.subtree, faithful.declared, faithful.scope,
        Subscriptions.size_mapListeners]

/-! ### Rounds -/

theorem round_take (round : Round κ σ) (effect : Effect) :
    (view.round round).take effect = view.round (round.take effect) := by
  cases effect with
  | write | rebind => rfl
  | unbind id =>
      have unbound := congrArg Step.engine (view.engine_unbind round.engine id)
      simp only [Round.take, View.round, unbound]
      rfl
  | detach node =>
      have listed : (view.round round).engine.subscriptions.idsOn
          ((view.round round).engine.tree.subtree node) =
            round.engine.subscriptions.idsOn (round.engine.tree.subtree node) := by
        change (round.engine.subscriptions.mapListeners view.listener).idsOn
          ((view.tree round.engine.tree).subtree node) = _
        rw [faithful.subtree, Subscriptions.idsOn_mapListeners]
      rw [Round.take, listed]
      rfl

theorem round_takeAll (round : Round κ σ) (effects : List Effect) :
    effects.foldl Round.take (view.round round) = view.round (effects.foldl Round.take round) := by
  induction effects generalizing round with
  | nil => rfl
  | cons effect rest ih =>
      rw [List.foldl_cons, faithful.round_take]
      exact ih (round.take effect)

theorem round_rebindAll (round : Round κ σ) (rebindings : List (SubscriptionId × String)) :
    rebindings.foldl Round.rebindOne (view.round round) =
      view.round (rebindings.foldl Round.rebindOne round) := by
  induction rebindings generalizing round with
  | nil => rfl
  | cons rebinding rest ih =>
      have first : (view.round round).rebindOne rebinding =
          view.round (round.rebindOne rebinding) := by
        have rebound := faithful.engine_rebind round.engine rebinding.1 rebinding.2
        simp only [Round.rebindOne, View.round, rebound]
        rfl
      rw [List.foldl_cons, first]
      exact ih (round.rebindOne rebinding)

theorem round_detachAll (round : Round κ σ) (nodes : List NodeId) :
    nodes.foldl Round.detachOne (view.round round) =
      view.round (nodes.foldl Round.detachOne round) := by
  induction nodes generalizing round with
  | nil => rfl
  | cons node rest ih =>
      have first : (view.round round).detachOne node = view.round (round.detachOne node) := by
        have detached := faithful.engine_detach round.engine node
        simp only [Round.detachOne, View.round, detached]
        rfl
      rw [List.foldl_cons, first]
      exact ih (round.detachOne node)

theorem round_close (round : Round κ σ) :
    (view.round round).close = view.round round.close := by
  change (view.round round).detaches.foldl Round.detachOne
    (round.rebinds.foldl Round.rebindOne (view.round round)) = _
  rw [faithful.round_rebindAll]
  exact faithful.round_detachAll _ round.detaches

end Faithful

/-! ### Whole requests -/

/-- Rounds that are delivered in one way are shown as rounds that are delivered in another. -/
def Shows (view : View κ κ') (delivers : Delivers κ σ) (shown : Delivers κ' σ) : Prop :=
  ∀ engine told, shown (view.engine engine) told = view.round (delivers engine told)

/-- If each telling is shown, so are whole rounds of them. -/
theorem Faithful.shows (faithful : view.Faithful)
    {tell : Round κ σ → SubscriptionId → Round κ σ}
    {tellShown : Round κ' σ → SubscriptionId → Round κ' σ}
    (each : ∀ round id, tellShown (view.round round) id = view.round (tell round id)) :
    view.Shows (fun engine told => (told.foldl tell { engine }).close)
      (fun engine told => (told.foldl tellShown { engine }).close) := by
  intro engine told
  have together : ∀ round : Round κ σ,
      told.foldl tellShown (view.round round) = view.round (told.foldl tell round) := by
    induction told with
    | nil => exact fun _ => rfl
    | cons id rest ih =>
        intro round
        rw [List.foldl_cons, each]
        exact ih (tell round id)
  have closed := faithful.round_close (told.foldl tell { engine })
  rw [← together] at closed
  exact closed

variable {delivers : Delivers κ σ} {shown : Delivers κ' σ}

namespace Faithful

variable (faithful : view.Faithful) (shows : view.Shows delivers shown) (engine : Engine κ σ)

include faithful

theorem writeTree (request : WriteRequest) :
    (view.engine engine).writeTree request =
      (engine.writeTree request).map (Prod.map id view.tree) := by
  rw [Engine.writeTree, Engine.writeTree]
  cases Path.read request.path with
  | error => rfl
  | ok path =>
      have sameOwner : (view.engine engine).tree.owner? request.origin request.contextId =
          engine.tree.owner? request.origin request.contextId :=
        faithful.owner? engine.tree request.origin request.contextId
      rw [sameOwner]
      cases engine.tree.owner? request.origin request.contextId with
      | none => rfl
      | some owner =>
          have written := faithful.writeContext engine.tree owner request.contextId
            (Value.write? (request.policy.getD engine.settings.defaultPolicy) path request.value)
          dsimp only [View.engine]
          rw [written]
          cases engine.tree.writeContext owner request.contextId _ <;> rfl

theorem affected (owner : NodeId) (id : String) :
    (view.engine engine).affected owner id = engine.affected owner id := by
  have live : (view.engine engine).subscriptions.live = engine.subscriptions.live.map fun entry =>
      (entry.1, ⟨entry.2.node, entry.2.watched, view.listener entry.2.listener⟩) := rfl
  have sameOwner := faithful.owner? engine.tree
  rw [Engine.affected, Engine.affected, live, List.filter_map, List.map_map]
  simp only [Function.comp_def, View.engine, sameOwner]

include shows

/-- After a change those who are concerned are told the same. -/
theorem delivered (owner : NodeId) (name : String) :
    shown (view.engine engine) ((view.engine engine).affected owner name) =
      view.round (delivers engine (engine.affected owner name)) := by
  rw [faithful.affected, shows]

theorem drainBy (budget : Nat) (queue : List WriteRequest) :
    Engine.drainBy shown budget queue (view.engine engine) =
      Prod.map view.engine id (Engine.drainBy delivers budget queue engine) := by
  induction budget generalizing queue engine with
  | zero => cases queue <;> rfl
  | succ budget ih =>
      cases queue with
      | nil => rfl
      | cons request rest =>
          have sameWrite := faithful.writeTree engine request
          cases written : engine.writeTree request with
          | error error =>
              rw [written] at sameWrite
              have failed : (view.engine engine).writeTree request = .error error := sameWrite
              have later := ih engine rest
              simp only [Engine.drainBy, written, failed, later]
              rfl
          | ok result =>
              obtain ⟨owner, tree⟩ := result
              rw [written] at sameWrite
              have done : (view.engine engine).writeTree request = .ok (owner, view.tree tree) :=
                sameWrite
              have delivered := faithful.delivered shows { engine with tree } owner
                request.contextId
              rw [Engine.drainBy_of_ok done delivered, Engine.drainBy_of_ok written rfl]
              simp only [View.round, ih]
              rfl

theorem settleBy (told : List SubscriptionId) :
    Engine.settleBy shown (view.engine engine) told =
      Prod.map view.engine id (Engine.settleBy delivers engine told) := by
  have later := faithful.drainBy shows (delivers engine told).engine
    engine.settings.maxSettleWrites (delivers engine told).queue
  rw [Engine.settleBy, Engine.settleBy, shows]
  simp only [View.round]
  rw [show (view.engine engine).settings = engine.settings from rfl, later]
  rfl

/-- After a change the cascade is the same. -/
theorem settledBy (owner : NodeId) (name : String) :
    Engine.settleBy shown (view.engine engine) ((view.engine engine).affected owner name) =
      Prod.map view.engine id (Engine.settleBy delivers engine (engine.affected owner name)) := by
  rw [faithful.affected, faithful.settleBy shows]

/-- Every request that is about what is shown comes to the same in the view. -/
theorem performBy (request : Request κ)
    (seen : ∀ sender ∈ request.sender?, view.sees sender = true) :
    Engine.performBy shown (view.engine engine) (view.request request) =
      view.step (Engine.performBy delivers engine request) := by
  cases request with
  | attach parent =>
      exact congrArg (Step.map Answer.attached) (faithful.engine_attach engine parent)
  | detach node => exact congrArg (Step.map Answer.detached) (faithful.engine_detach engine node)
  | addImplicit node sender context =>
      exact congrArg (Step.map Answer.implicitAdded)
        (faithful.engine_addImplicit engine node context (seen sender rfl))
  | clearImplicit sender =>
      exact congrArg (Step.map Answer.implicitCleared)
        (faithful.engine_clearImplicit engine (seen sender rfl))
  | bind node text listener =>
      exact congrArg (Step.map Answer.bound) (faithful.engine_bind engine node text listener)
  | bindTemplate node text listener =>
      exact congrArg (Step.map Answer.bound)
        (faithful.engine_bindTemplate engine node text listener)
  | rebind id text =>
      exact congrArg (Step.map Answer.rebound) (faithful.engine_rebind engine id text)
  | unbind id => exact congrArg (Step.map Answer.unbound) (view.engine_unbind engine id)
  | declare node context =>
      have same := faithful.declare engine.tree node context
      cases declared : engine.tree.declare node context with
      | error error =>
          rw [declared] at same
          have failed : (view.engine engine).tree.declare node context = .error error := same
          simp only [View.request, Engine.performBy, declared, failed]
          rfl
      | ok result =>
          obtain ⟨old, tree⟩ := result
          rw [declared] at same
          have done : (view.engine engine).tree.declare node context = .ok (old, view.tree tree) :=
            same
          have settled := faithful.settledBy shows { engine with tree } node context.id
          simp only [View.request, Engine.performBy, declared, done]
          exact congrArg (fun outcome => (⟨outcome.1,
            .declared (.ok (Event.countNotified outcome.2)), outcome.2⟩ : Step κ' σ Answer)) settled
  | removeContext node name =>
      have same := faithful.removeContext engine.tree node name
      cases removed : engine.tree.removeContext node name with
      | none =>
          rw [removed] at same
          have nothing : (view.engine engine).tree.removeContext node name = none := same
          simp only [View.request, Engine.performBy, removed, nothing]
          rfl
      | some result =>
          obtain ⟨context, tree⟩ := result
          rw [removed] at same
          have done : (view.engine engine).tree.removeContext node name =
            some (context, view.tree tree) := same
          have settled := faithful.settleBy shows { engine with tree } (engine.affected node name)
          simp only [View.request, Engine.performBy, removed, done, faithful.affected]
          exact congrArg (fun outcome => (⟨outcome.1,
            .removed (some (Event.countNotified outcome.2)), outcome.2⟩ : Step κ' σ Answer)) settled
  | write request =>
      have same := faithful.writeTree engine request
      cases written : engine.writeTree request with
      | error error =>
          rw [written] at same
          have failed : (view.engine engine).writeTree request = .error error := same
          simp only [View.request, Engine.performBy, written, failed]
          rfl
      | ok result =>
          obtain ⟨owner, tree⟩ := result
          rw [written] at same
          have done : (view.engine engine).writeTree request = .ok (owner, view.tree tree) := same
          have settled := faithful.settledBy shows { engine with tree } owner request.contextId
          simp only [View.request, Engine.performBy, written, done]
          exact congrArg (fun outcome => (⟨outcome.1,
            .written (.ok ⟨owner, Event.countNotified outcome.2⟩), outcome.2⟩ :
              Step κ' σ Answer)) settled

end Faithful

/-! ### Whole sessions -/

/-- What is shown of requests that are done in one way are those that are done in another. -/
def Agrees {ι : Type} (view : View κ κ') (performs : Performs ι κ σ) (shown : Performs ι κ' σ) :
    Prop :=
  ∀ engine request, (∀ sender ∈ request.sender?, view.sees sender = true) →
    shown (view.engine engine) request = view.step (performs engine request)

/-- A turn as it is shown. -/
def turn {ι : Type} (view : View κ κ') (turn : Turn ι κ σ) : Turn ι κ' σ :=
  ⟨turn.act, view.step turn.step⟩

variable {ι : Type} {performs : Performs ι κ σ} {shown : Performs ι κ' σ}

theorem Faithful.act (faithful : view.Faithful) (agrees : view.Agrees performs shown)
    (engine : Engine κ σ) (act : Act ι) (seen : ∀ sender ∈ act.sender?, view.sees sender = true) :
    (view.engine engine).act shown act = view.step (engine.act performs act) := by
  cases act with
  | request request => exact congrArg (Step.map Reply.done) (agrees engine request seen)
  | query query => exact faithful.ask engine query seen
  | register name operation =>
      rw [Engine.act, Engine.act, Engine.register, Engine.register]
      simp only [View.engine]
      cases engine.registry.register name operation <;> rfl
  | unregister name => rfl

/-- A session that is only about what is shown takes the same turns in the view. -/
theorem Faithful.session (faithful : view.Faithful) (agrees : view.Agrees performs shown)
    (engine : Engine κ σ) (acts : List (Act ι))
    (seen : ∀ act ∈ acts, ∀ sender ∈ act.sender?, view.sees sender = true) :
    (view.engine engine).session shown acts = (engine.session performs acts).map view.turn := by
  induction acts generalizing engine with
  | nil => rfl
  | cons act rest ih =>
      have first := faithful.act agrees engine act (seen act List.mem_cons_self)
      have later := ih (engine.act performs act).engine fun other member =>
        seen other (List.mem_cons_of_mem act member)
      rw [Engine.session, Engine.session, first, List.map_cons]
      exact congrArg (List.cons _) later

/-- Such a session ends with what is shown of the engine at its end. -/
theorem Faithful.afterSession (faithful : view.Faithful) (agrees : view.Agrees performs shown)
    (engine : Engine κ σ) (acts : List (Act ι))
    (seen : ∀ act ∈ acts, ∀ sender ∈ act.sender?, view.sees sender = true) :
    (view.engine engine).afterSession shown acts =
      view.engine (engine.afterSession performs acts) := by
  induction acts generalizing engine with
  | nil => rfl
  | cons act rest ih =>
      have first := faithful.act agrees engine act (seen act List.mem_cons_self)
      have later := ih (engine.act performs act).engine fun other member =>
        seen other (List.mem_cons_of_mem act member)
      rw [Engine.afterSession, List.foldl_cons, first]
      exact later

end View

end LiveBinding
