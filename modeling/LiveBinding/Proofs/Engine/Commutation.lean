import LiveBinding.Proofs.Engine.ReadBack
import LiveBinding.Proofs.Engine.Silence

/-!
# Writes that commute

Two writes that go into different contexts may change places if the listeners ask for nothing.
Each of them finds the other's context as it was, so it comes to the same in both orders; the tree
has both new values in the end; and a subscription is told two different sequences of values only
if it reads both contexts, and then the last value is the same.
-/

namespace LiveBinding

/-! ### In trees -/

namespace Tree

variable {tree : Tree} {id left right : NodeId} {node : Node} {name : String}

/-- Two contexts of different names take their places in either order, if one of them has a place
already.  Otherwise they would be appended in the order in which they come. -/
theorem putContext_comm {first second : Context} {contexts : List Context}
    (different : first.id ≠ second.id) (declared : first.id ∈ contexts.map Context.id) :
    putContext first (putContext second contexts) =
      putContext second (putContext first contexts) := by
  induction contexts with
  | nil => exact absurd declared List.not_mem_nil
  | cons head rest ih =>
      by_cases isFirst : head.id = first.id
      · have notSecond : ¬head.id = second.id := isFirst ▸ different
        simp [putContext, isFirst, different]
      · have later : first.id ∈ rest.map Context.id :=
          (List.mem_cons.mp declared).resolve_left (Ne.symm isFirst)
        by_cases isSecond : head.id = second.id
        · simp [putContext, isSecond, Ne.symm different]
        · simp [putContext, isFirst, isSecond, ih later]

/-- A change of a node depends on what it makes of this node alone. -/
theorem modifyNode_congr {change other : Node → Node} (reached : tree.node? id = some node)
    (same : change node = other node) : tree.modifyNode id change = tree.modifyNode id other := by
  have slot := node?_eq_some_iff.mp reached
  have live : tree.contains id = true := contains_of_node? reached
  rw [modifyNode, modifyNode, if_pos live, if_pos live, List.modify_eq_set_getElem?,
    List.modify_eq_set_getElem?, slot]
  simp only [Option.map_eq_map, Option.map_some, same]

theorem modifyNode_modifyNode (tree : Tree) (id : NodeId) (change other : Node → Node) :
    (tree.modifyNode id change).modifyNode id other =
      tree.modifyNode id fun node => other (change node) := by
  by_cases live : tree.contains id = true
  · have still : (tree.modifyNode id change).contains id = true :=
      (contains_modifyNode tree id id change).trans live
    rw [modifyNode, if_pos still, modifyNode, modifyNode, if_pos live, if_pos live]
    simp only [List.modify_modify_eq, Function.comp_def, Option.map_map]
  · simp only [modifyNode, if_neg live]

theorem modifyNode_comm {change other : Node → Node} (different : left ≠ right)
    (leftLive : tree.contains left = true) (rightLive : tree.contains right = true) :
    (tree.modifyNode left change).modifyNode right other =
      (tree.modifyNode right other).modifyNode left change := by
  have slots : left.index ≠ right.index := fun same =>
    different (eq_of_index_eq leftLive rightLive same)
  have leftStill : (tree.modifyNode right other).contains left = true :=
    (contains_modifyNode tree right left other).trans leftLive
  have rightStill : (tree.modifyNode left change).contains right = true :=
    (contains_modifyNode tree left right change).trans rightLive
  rw [modifyNode, if_pos rightStill, modifyNode, if_pos leftLive, modifyNode, if_pos leftStill,
    modifyNode, if_pos rightLive]
  exact congrArg (Tree.mk · tree.free) (List.modify_modify_ne _ _ tree.slots slots)

/-- Two declared contexts get their new values in either order. -/
theorem withContext_comm {first second : Context}
    (apart : left = right → first.id ≠ second.id)
    (firstDeclared : (tree.context? left first.id).isSome)
    (secondDeclared : (tree.context? right second.id).isSome) :
    (tree.withContext left first).withContext right second =
      (tree.withContext right second).withContext left first := by
  have leftLive := contains_of_declares firstDeclared
  by_cases same : left = right
  · subst same
    obtain ⟨node, reached⟩ := contains_iff.mp leftLive
    have listed : first.id ∈ node.contexts.map Context.id :=
      declared_eq reached ▸ mem_ids_of_declares firstDeclared
    rw [withContext, withContext, modifyNode_modifyNode, withContext, withContext,
      modifyNode_modifyNode]
    refine modifyNode_congr reached ?_
    simp only [putContext_comm (apart rfl) listed]
  · exact modifyNode_comm same leftLive (contains_of_declares secondDeclared)

end Tree

variable {κ σ : Type} {listen : Listen κ σ} {engine : Engine κ σ}

/-- Of a journal that only tells, a ledger takes in the last value that each subscription is
told. -/
theorem Ledger.noteAll_map_notified (ledger : Ledger) (told : List Notification)
    (id : SubscriptionId) :
    ledger.noteAll (told.map .notified) id =
      (Event.toldTo id (told.map .notified)).getLast?.elim (ledger id) fun last =>
        (ledger id).map fun standing => { standing with reported := some last.value } := by
  rw [Event.toldTo, Event.notifications_map_notified]
  induction told using List.reverseRecOn with
  | nil => rfl
  | append_singleton earlier last ih =>
      rw [List.map_append, noteAll_append, List.map_singleton, noteAll_cons, noteAll_nil, note,
        amend, ih, List.filter_append, List.getLast?_append, List.filter_singleton]
      by_cases here : last.subscription = id
      · rw [if_pos here.symm, decide_eq_true here]
        cases (earlier.filter (·.subscription = id)).getLast? with
        | none => rfl
        | some before => exact Option.map_map _ _ _
      · rw [if_neg (Ne.symm here), decide_eq_false here]
        rfl

namespace Engine

variable {request : WriteRequest} {owner : NodeId} {name : String} {value : Value}

/-! ### What a write comes to -/

/-- What a write comes to: why it fails, or the node that declares the context and the value that
the context gets. -/
def outcome (engine : Engine κ σ) (request : WriteRequest) :
    Except WriteError (NodeId × Value) :=
  match Path.read request.path with
  | .error error => .error (.invalidPath request.path error)
  | .ok path =>
    match engine.tree.owner? request.origin request.contextId with
    | none => .error (.targetMissing request.contextId request.origin)
    | some owner =>
      let policy := request.policy.getD engine.settings.defaultPolicy
      match (engine.tree.context? owner request.contextId).bind fun context =>
          Value.write? policy path request.value context.value with
      | none => .error (.pathUnreachable request.contextId path)
      | some value => .ok (owner, value)

/-- The engine in which a declared context has a new value. -/
def assigned (engine : Engine κ σ) (owner : NodeId) (context : Context) : Engine κ σ :=
  { engine with tree := engine.tree.withContext owner context }

theorem writeTree_eq_outcome (engine : Engine κ σ) (request : WriteRequest) :
    engine.writeTree request = (engine.outcome request).map fun done =>
      (done.1, engine.tree.withContext done.1 ⟨request.contextId, done.2⟩) := by
  rw [writeTree, outcome]
  cases Path.read request.path with
  | error error => rfl
  | ok path =>
      cases engine.tree.owner? request.origin request.contextId with
      | none => rfl
      | some owner =>
          simp only [Tree.writeContext]
          cases engine.tree.context? owner request.contextId with
          | none => rfl
          | some context =>
              simp only [Option.bind_some]
              cases Value.write? (request.policy.getD engine.settings.defaultPolicy) path
                request.value context.value with
              | none => rfl
              | some value => rfl

/-- Who a write goes to, if it is done. -/
theorem owner?_of_outcome (done : engine.outcome request = .ok (owner, value)) :
    engine.tree.owner? request.origin request.contextId = some owner ∧
      (engine.tree.context? owner request.contextId).isSome := by
  rw [outcome] at done
  split at done
  · contradiction
  · split at done
    · contradiction
    · next found seen =>
        dsimp only at done
        split at done
        · contradiction
        · next written =>
            cases done
            obtain ⟨context, declared, -⟩ := Option.bind_eq_some_iff.mp written
            exact ⟨seen, declared ▸ rfl⟩

/-- Engines in which a write finds the same context do the same with it. -/
theorem outcome_congr {left right : Engine κ σ} (settings : left.settings = right.settings)
    (sameOwner : left.tree.owner? request.origin request.contextId =
      right.tree.owner? request.origin request.contextId)
    (sameContext : ∀ owner,
      right.tree.owner? request.origin request.contextId = some owner →
        left.tree.context? owner request.contextId = right.tree.context? owner request.contextId) :
    left.outcome request = right.outcome request := by
  rw [outcome, outcome, sameOwner, settings]
  cases Path.read request.path with
  | error error => rfl
  | ok path =>
      cases seen : right.tree.owner? request.origin request.contextId with
      | none => rfl
      | some owner => simp only [sameContext owner seen]

theorem write_of_outcome_error {error : WriteError}
    (failed : engine.outcome request = .error error) :
    engine.write listen request = ⟨engine, .error error, []⟩ := by
  rw [write, writeTree_eq_outcome, failed]
  rfl

/-! ### What an assignment leaves as it was -/

section Assignment

variable (sound : engine.Sound) (declares : (engine.tree.context? owner name).isSome)

include sound declares

theorem owner?_assigned (value : Value) (node : NodeId) (other : String) :
    (engine.assigned owner ⟨name, value⟩).tree.owner? node other =
      engine.tree.owner? node other :=
  (Tree.rewrites_withContext sound.tree declares value).owner? sound.tree
    (sound.tree.withContext owner ⟨name, value⟩) declares node other

/-- The same subscriptions are concerned as before. -/
theorem affected_assigned (value : Value) (node : NodeId) (other : String) :
    (engine.assigned owner ⟨name, value⟩).affected node other = engine.affected node other := by
  rw [affected, affected]
  simp only [owner?_assigned sound declares]
  rfl

/-- A write that goes into another context comes to the same as before. -/
theorem outcome_assigned (value : Value)
    (apart : engine.tree.owner? request.origin request.contextId = some owner →
      request.contextId ≠ name) :
    (engine.assigned owner ⟨name, value⟩).outcome request = engine.outcome request := by
  refine outcome_congr rfl (owner?_assigned sound declares value _ _) fun other seen => ?_
  refine (Tree.rewrites_withContext sound.tree declares value).context? other _ ?_
  by_cases same : other = owner
  · exact .inr (apart (same ▸ seen))
  · exact .inl same

/-- Whoever does not read the context is due what was due before. -/
theorem due?_assigned (value : Value) {id : SubscriptionId}
    (unconcerned : id ∉ engine.affected owner name) :
    (engine.assigned owner ⟨name, value⟩).due? id = engine.due? id := by
  rw [due?, due?]
  change (engine.subscriptions.get? id).map _ = _
  cases live : engine.subscriptions.get? id with
  | none => rfl
  | some subscription =>
      have differ := Tree.differOnlyAt_withContext engine.tree owner ⟨name, value⟩
      have sameValue : (engine.assigned owner ⟨name, value⟩).evaluateOn subscription.node
          subscription.watched = engine.evaluateOn subscription.node subscription.watched := by
        refine Watched.evaluate_congr engine.registry fun other referenced => ?_
        refine differ.find?_scope sound.tree (sound.tree.withContext owner ⟨name, value⟩) declares
          (sound.onNodes id subscription live) ?_
        rintro rfl seen
        exact unconcerned ((mem_affected sound).mpr ⟨subscription, live, referenced, seen⟩)
      rw [Option.map_some, Option.map_some, sameValue]

end Assignment

/-- A write that is done among silent listeners changes one context, and those who read it are told
what is due to them then. -/
theorem write_of_outcome_ok (sound : engine.Sound) (silent : engine.Silent listen)
    (done : engine.outcome request = .ok (owner, value)) :
    let after := engine.assigned owner ⟨request.contextId, value⟩
    let concerned := engine.affected owner request.contextId
    ∃ memory, engine.write listen request =
      ⟨{ after with memory }, .ok ⟨owner, concerned.length⟩,
        (concerned.filterMap after.due?).map .notified⟩ := by
  intro after concerned
  have declares := (owner?_of_outcome done).2
  have sameConcerned : after.affected owner request.contextId = concerned :=
    affected_assigned sound declares value owner request.contextId
  have stillSilent : after.Silent listen := silent
  obtain ⟨memory, settled⟩ := settle_of_silent_listeners stillSilent concerned
  refine ⟨memory, ?_⟩
  have written : engine.writeTree request = .ok (owner, after.tree) := by
    rw [writeTree_eq_outcome, done]
    rfl
  have soundAfter : after.Sound := sound.withContext owner ⟨request.contextId, value⟩
  have count : (concerned.filterMap after.due?).length = concerned.length :=
    sameConcerned ▸ length_due? soundAfter owner request.contextId
  have settled : settle listen { engine with tree := after.tree }
      (({ engine with tree := after.tree } : Engine κ σ).affected owner request.contextId) =
      ({ after with memory }, (concerned.filterMap after.due?).map .notified) :=
    sameConcerned ▸ settled
  simp only [write, written, settled, Event.countNotified_map_notified, count]

/-! ### Two writes -/

variable {first second : WriteRequest}

/-- Two writes do not go into the same context. -/
def Apart (engine : Engine κ σ) (first second : WriteRequest) : Prop :=
  ∀ owner, engine.tree.owner? first.origin first.contextId = some owner →
    engine.tree.owner? second.origin second.contextId = some owner →
      first.contextId ≠ second.contextId

theorem Apart.symm (apart : engine.Apart first second) : engine.Apart second first :=
  fun owner seen other => (apart owner other seen).symm

/-- A subscription reads the context that a write goes into. -/
structure Reads (engine : Engine κ σ) (subscription : Subscription κ) (request : WriteRequest) :
    Prop where
  references : subscription.watched.references request.contextId = true
  sees : (engine.tree.owner? subscription.node request.contextId).isSome
  owner? : engine.tree.owner? subscription.node request.contextId =
    engine.tree.owner? request.origin request.contextId

/-- After a write that was done, one that goes into another context comes to what it would have
come to before. -/
theorem outcome_after (sound : engine.Sound) (apart : engine.Apart first second)
    (done : engine.outcome first = .ok (owner, value)) (memory : σ) :
    ({ engine.assigned owner ⟨first.contextId, value⟩ with memory } : Engine κ σ).outcome second =
      engine.outcome second := by
  obtain ⟨seen, declares⟩ := owner?_of_outcome done
  exact outcome_assigned sound declares value fun other => (apart owner seen other).symm

theorem assigned_comm (apart : engine.Apart first second) {firstOwner secondOwner : NodeId}
    {firstValue secondValue : Value}
    (firstDone : engine.outcome first = .ok (firstOwner, firstValue))
    (secondDone : engine.outcome second = .ok (secondOwner, secondValue)) :
    (engine.assigned firstOwner ⟨first.contextId, firstValue⟩).assigned secondOwner
        ⟨second.contextId, secondValue⟩ =
      (engine.assigned secondOwner ⟨second.contextId, secondValue⟩).assigned firstOwner
        ⟨first.contextId, firstValue⟩ := by
  obtain ⟨firstSeen, firstDeclares⟩ := owner?_of_outcome firstDone
  obtain ⟨secondSeen, secondDeclares⟩ := owner?_of_outcome secondDone
  have different : firstOwner = secondOwner → first.contextId ≠ second.contextId := by
    rintro rfl
    exact apart firstOwner firstSeen secondSeen
  have sameTree :
      (engine.tree.withContext firstOwner ⟨first.contextId, firstValue⟩).withContext secondOwner
          ⟨second.contextId, secondValue⟩ =
        (engine.tree.withContext secondOwner ⟨second.contextId, secondValue⟩).withContext firstOwner
          ⟨first.contextId, firstValue⟩ :=
    Tree.withContext_comm different firstDeclares secondDeclares
  exact congrArg (fun tree => { engine with tree }) sameTree

/-- What a subscription is told in a run, in order. -/
def heard (listen : Listen κ σ) (engine : Engine κ σ) (requests : List (Request κ))
    (id : SubscriptionId) : List Notification :=
  Event.toldTo id ((engine.steps listen requests).flatMap (·.journal))

/-- What it means that two writes may change places. -/
structure Interchange (listen : Listen κ σ) (engine : Engine κ σ)
    (first second : WriteRequest) : Prop where
  /-- Each of them is answered alike wherever it stands. -/
  answer : (engine.write listen first).answer =
    ((engine.write listen second).engine.write listen first).answer
  otherAnswer : (engine.write listen second).answer =
    ((engine.write listen first).engine.write listen second).answer
  /-- Both orders end in the same tree, and in the same engine but for what is remembered. -/
  final : ∃ memory, engine.run listen [.write first, .write second] =
    { engine.run listen [.write second, .write first] with memory }
  /-- Who reads at most one of the two contexts is told the same. -/
  heard : ∀ id subscription, engine.subscriptions.get? id = some subscription →
    ¬(engine.Reads subscription first ∧ engine.Reads subscription second) →
      engine.heard listen [.write first, .write second] id =
        engine.heard listen [.write second, .write first] id
  /-- Whatever was reported before, the values that were reported last are the same. -/
  reported : ∀ ledger : Ledger, ledger.noteRun listen engine [.write first, .write second] =
    ledger.noteRun listen engine [.write second, .write first]

theorem Interchange.symm (change : Interchange listen engine first second) :
    Interchange listen engine second first where
  answer := change.otherAnswer
  otherAnswer := change.answer
  final := by
    obtain ⟨memory, same⟩ := change.final
    exact ⟨(engine.run listen [.write second, .write first]).memory, by rw [same]⟩
  heard id subscription live notBoth :=
    (change.heard id subscription live fun both => notBoth both.symm).symm
  reported ledger := (change.reported ledger).symm

theorem run_writes (listen : Listen κ σ) (engine : Engine κ σ) (first second : WriteRequest) :
    engine.run listen [.write first, .write second] =
      ((engine.write listen first).engine.write listen second).engine := rfl

theorem heard_writes (listen : Listen κ σ) (engine : Engine κ σ) (first second : WriteRequest)
    (id : SubscriptionId) :
    engine.heard listen [.write first, .write second] id =
      Event.toldTo id ((engine.write listen first).journal ++
        ((engine.write listen first).engine.write listen second).journal) := by
  simp only [heard, steps, List.flatMap_cons, List.flatMap_nil, List.append_nil]
  rfl

theorem noteRun_writes (listen : Listen κ σ) (engine : Engine κ σ) (first second : WriteRequest)
    (ledger : Ledger) :
    ledger.noteRun listen engine [.write first, .write second] =
      ledger.noteAll ((engine.write listen first).journal ++
        ((engine.write listen first).engine.write listen second).journal) :=
  (ledger.noteAll_append _ _).symm

/-- After two writes that only told subscribers, a ledger has the last value that each one heard. -/
theorem noteRun_of_told {told : List Notification}
    (journal : (engine.write listen first).journal ++
      ((engine.write listen first).engine.write listen second).journal = told.map .notified)
    (ledger : Ledger) (id : SubscriptionId) :
    ledger.noteRun listen engine [.write first, .write second] id =
      (engine.heard listen [.write first, .write second] id).getLast?.elim (ledger id) fun last =>
        (ledger id).map fun standing => { standing with reported := some last.value } := by
  rw [noteRun_writes, heard_writes, journal, Ledger.noteAll_map_notified]

/-- A write that fails changes nothing, before another one as well as after it. -/
theorem interchange_of_outcome_error (sound : engine.Sound) (silent : engine.Silent listen)
    (apart : engine.Apart first second) {error : WriteError}
    (failed : engine.outcome second = .error error) : Interchange listen engine first second := by
  have before : engine.write listen second = ⟨engine, .error error, []⟩ :=
    write_of_outcome_error failed
  have after : (engine.write listen first).engine.write listen second =
      ⟨(engine.write listen first).engine, .error error, []⟩ := by
    cases outcome : engine.outcome first with
    | error other => rw [write_of_outcome_error outcome, before]
    | ok done =>
        obtain ⟨memory, written⟩ := write_of_outcome_ok sound silent outcome
        rw [written]
        refine write_of_outcome_error ?_
        rw [outcome_after sound apart outcome memory, failed]
  refine ⟨?_, ?_, ⟨(engine.write listen first).engine.memory, ?_⟩, fun id _ _ _ => ?_,
    fun ledger => ?_⟩
  · rw [before]
  · rw [before, after]
  · rw [run_writes, run_writes, before, after]
  · rw [heard_writes, heard_writes, before, after, List.append_nil, List.nil_append]
  · rw [noteRun_writes, noteRun_writes, before, after, List.append_nil, List.nil_append]

/-! ### Both writes are done -/

theorem assigned_withMemory (engine : Engine κ σ) (memory : σ) (owner : NodeId)
    (context : Context) : ({ engine with memory } : Engine κ σ).assigned owner context =
      { engine.assigned owner context with memory } := rfl

theorem due?_withMemory (engine : Engine κ σ) (memory : σ) :
    ({ engine with memory } : Engine κ σ).due? = engine.due? := rfl

section Done

variable {firstOwner secondOwner : NodeId} {firstValue secondValue : Value}
  (firstDone : engine.outcome first = .ok (firstOwner, firstValue))
  (secondDone : engine.outcome second = .ok (secondOwner, secondValue))

include firstDone secondDone

/-- Two writes into different contexts that are done one after the other. -/
theorem write_write (sound : engine.Sound) (silent : engine.Silent listen)
    (apart : engine.Apart first second) :
    let between := engine.assigned firstOwner ⟨first.contextId, firstValue⟩
    let after := between.assigned secondOwner ⟨second.contextId, secondValue⟩
    let readers := engine.affected firstOwner first.contextId
    let others := engine.affected secondOwner second.contextId
    ∃ middle final,
      engine.write listen first =
        ⟨{ between with memory := middle }, .ok ⟨firstOwner, readers.length⟩,
          (readers.filterMap between.due?).map .notified⟩ ∧
      (engine.write listen first).engine.write listen second =
        ⟨{ after with memory := final }, .ok ⟨secondOwner, others.length⟩,
          (others.filterMap after.due?).map .notified⟩ := by
  intro between after readers others
  have declares := (owner?_of_outcome firstDone).2
  obtain ⟨middle, written⟩ := write_of_outcome_ok sound silent firstDone
  have soundMiddle : ({ between with memory := middle } : Engine κ σ).Sound :=
    (sound.withContext _ _).change (.remember between middle)
  have silentMiddle : ({ between with memory := middle } : Engine κ σ).Silent listen := silent
  have done := (outcome_after sound apart firstDone middle).trans secondDone
  obtain ⟨final, next⟩ := write_of_outcome_ok soundMiddle silentMiddle done
  have sameOthers : ({ between with memory := middle } : Engine κ σ).affected secondOwner
      second.contextId = others :=
    affected_assigned sound declares firstValue secondOwner second.contextId
  refine ⟨middle, final, written, ?_⟩
  rw [written, next, sameOthers, assigned_withMemory, due?_withMemory]

/-- What a subscription is told by two writes: what is due to it after each of them that concerns
it. -/
theorem heard_write_write (sound : engine.Sound) (silent : engine.Silent listen)
    (apart : engine.Apart first second) (id : SubscriptionId) :
    let between := engine.assigned firstOwner ⟨first.contextId, firstValue⟩
    let after := between.assigned secondOwner ⟨second.contextId, secondValue⟩
    engine.heard listen [.write first, .write second] id =
      (if id ∈ engine.affected firstOwner first.contextId then (between.due? id).toList else []) ++
        if id ∈ engine.affected secondOwner second.contextId then (after.due? id).toList
        else [] := by
  intro between after
  obtain ⟨middle, final, written, next⟩ :=
    write_write firstDone secondDone sound silent apart
  rw [heard_writes, Event.toldTo_append, next, written]
  rw [toldTo_due? (nodup_affected sound _ _), toldTo_due? (nodup_affected sound _ _)]

/-- Whoever is not concerned by the second write is due what was due between the two. -/
theorem due?_after (sound : engine.Sound) (apart : engine.Apart first second)
    {id : SubscriptionId} (unconcerned : id ∉ engine.affected secondOwner second.contextId) :
    let between := engine.assigned firstOwner ⟨first.contextId, firstValue⟩
    (between.assigned secondOwner ⟨second.contextId, secondValue⟩).due? id = between.due? id := by
  intro between
  have declares := (owner?_of_outcome firstDone).2
  have done := (outcome_after sound apart firstDone between.memory).trans secondDone
  have soundBetween : between.Sound := sound.withContext _ _
  refine due?_assigned soundBetween (owner?_of_outcome done).2 secondValue ?_
  rwa [affected_assigned sound declares]

/-- Who is concerned by one of two writes at most is told the same in both orders. -/
theorem heard_comm (sound : engine.Sound) (silent : engine.Silent listen)
    (apart : engine.Apart first second) {id : SubscriptionId}
    (notBoth : ¬(id ∈ engine.affected firstOwner first.contextId ∧
      id ∈ engine.affected secondOwner second.contextId)) :
    engine.heard listen [.write first, .write second] id =
      engine.heard listen [.write second, .write first] id := by
  rw [heard_write_write firstDone secondDone sound silent apart,
    heard_write_write secondDone firstDone sound silent apart.symm]
  by_cases reads : id ∈ engine.affected secondOwner second.contextId
  · have unconcerned : id ∉ engine.affected firstOwner first.contextId := fun member =>
      notBoth ⟨member, reads⟩
    rw [if_neg unconcerned, if_neg unconcerned, List.append_nil, List.nil_append,
      assigned_comm apart firstDone secondDone,
      due?_after secondDone firstDone sound apart.symm unconcerned]
  · rw [if_neg reads, if_neg reads, List.append_nil, List.nil_append,
      ← assigned_comm apart firstDone secondDone,
      due?_after firstDone secondDone sound apart reads]

/-- Whoever is concerned by both writes is told in the end what is due after both. -/
theorem getLast?_heard_comm (sound : engine.Sound) (silent : engine.Silent listen)
    (apart : engine.Apart first second) (id : SubscriptionId) :
    (engine.heard listen [.write first, .write second] id).getLast? =
      (engine.heard listen [.write second, .write first] id).getLast? := by
  by_cases both : id ∈ engine.affected firstOwner first.contextId ∧
      id ∈ engine.affected secondOwner second.contextId
  · obtain ⟨subscription, live, -⟩ := (mem_affected sound).mp both.1
    have due : (((engine.assigned firstOwner ⟨first.contextId, firstValue⟩).assigned secondOwner
        ⟨second.contextId, secondValue⟩).due? id).isSome = true := by
      rw [due?, Option.isSome_map, assigned, assigned, live, Option.isSome_some]
    obtain ⟨last, due⟩ := Option.isSome_iff_exists.mp due
    rw [heard_write_write firstDone secondDone sound silent apart,
      heard_write_write secondDone firstDone sound silent apart.symm,
      ← assigned_comm apart firstDone secondDone, if_pos both.1, if_pos both.1, if_pos both.2,
      if_pos both.2, due, Option.toList_some, List.getLast?_concat, List.getLast?_concat]
  · rw [heard_comm firstDone secondDone sound silent apart both]

end Done

/-- Subscriptions that a write concerns read the context that it goes into. -/
theorem reads_of_mem_affected (sound : engine.Sound)
    (done : engine.outcome request = .ok (owner, value)) {id : SubscriptionId}
    {subscription : Subscription κ} (live : engine.subscriptions.get? id = some subscription)
    (concerned : id ∈ engine.affected owner request.contextId) :
    engine.Reads subscription request := by
  obtain ⟨found, sameLive, referenced, sees⟩ := (mem_affected sound).mp concerned
  cases live.symm.trans sameLive
  exact ⟨referenced, sees ▸ rfl, sees.trans (owner?_of_outcome done).1.symm⟩

/-- If no listener asks for anything, two writes that do not go into the same context are answered
alike and end in the same tree whichever comes first.  A subscription that reads at most one of the
two contexts is told the same values in both orders, and the value that is reported last to a
subscription is the same for all of them. -/
theorem writes_commute (reached : Reached listen engine) (silent : engine.Silent listen)
    (apart : engine.Apart first second) : Interchange listen engine first second := by
  have sound := reached.sound
  cases firstDone : engine.outcome first with
  | error error => exact (interchange_of_outcome_error sound silent apart.symm firstDone).symm
  | ok one =>
      cases secondDone : engine.outcome second with
      | error error => exact interchange_of_outcome_error sound silent apart secondDone
      | ok other =>
          obtain ⟨middle, final, written, next⟩ :=
            write_write firstDone secondDone sound silent apart
          obtain ⟨middle', final', written', next'⟩ :=
            write_write secondDone firstDone sound silent apart.symm
          refine ⟨?_, ?_, ⟨final, ?_⟩, ?_, fun ledger => ?_⟩
          · rw [written, next']
          · rw [written', next]
          · rw [run_writes, run_writes, next, next', assigned_comm apart firstDone secondDone]
          · intro id subscription live notBoth
            refine heard_comm firstDone secondDone sound silent apart fun both => notBoth ?_
            exact both.imp (reads_of_mem_affected sound firstDone live)
              (reads_of_mem_affected sound secondDone live)
          · funext id
            rw [noteRun_of_told (by rw [next, written, ← List.map_append]),
              noteRun_of_told (by rw [next', written', ← List.map_append]),
              getLast?_heard_comm firstDone secondDone sound silent apart]

/-- A context of the lower node hides one of the same name, and listeners that remember what they
are told.  The hidden context and the one that hides it may be written in either order, and so may
the one that hides it and another one that some subscription reads together with it: it is told two
different sequences with the same end. -/
theorem writes_commute_shadowed :
    let top : NodeId := ⟨0, 0⟩
    let low : NodeId := ⟨1, 0⟩
    let listen : Listen Unit (List Value) := fun _ notification memory =>
      ([], memory ++ [notification.value])
    let start : Engine Unit (List Value) := Engine.new {} []
    let engine := start.run listen
      [.attach none, .attach (some top), .declare top ⟨"c", .null⟩, .declare top ⟨"d", .null⟩,
        .declare low ⟨"c", .bool false⟩, .bind low "c" (), .bind low "condition(c, d, 'n')" (),
        .bind top "c" (), .bind top "d" ()]
    let inner : WriteRequest := ⟨low, "c", "", .bool true, none⟩
    let outer : WriteRequest := ⟨top, "c", "", .bool false, none⟩
    let beside : WriteRequest := ⟨low, "d", "", .string "x", none⟩
    let values := fun requests id =>
      (engine.heard listen requests ⟨id⟩).map Notification.value
    (Reached listen engine ∧ engine.Silent listen) ∧
      (engine.Apart inner outer ∧ engine.Interchange listen inner outer) ∧
      (engine.Apart inner beside ∧ engine.Interchange listen inner beside) ∧
      values [.write inner, .write outer] 3 = [.bool false] ∧
      values [.write inner, .write beside] 2 = [.null, .string "x"] ∧
      values [.write beside, .write inner] 2 = [.string "n", .string "x"] := by
  intro top low listen start engine inner outer beside values
  have reached : Reached listen engine := (Reached.new {} []).run _
  have silent : engine.Silent listen := fun _ _ _ _ _ => rfl
  have innerOwner : engine.tree.owner? low "c" = some low := by decide +kernel
  have outerOwner : engine.tree.owner? top "c" = some top := by decide +kernel
  have apart : engine.Apart inner outer := by
    intro owner seen other
    have same := (innerOwner.symm.trans seen).trans (outerOwner.symm.trans other).symm
    exact absurd same (by decide)
  have apartByName : engine.Apart inner beside := fun _ _ _ => by decide
  refine ⟨⟨reached, silent⟩, ⟨apart, writes_commute reached silent apart⟩,
    ⟨apartByName, writes_commute reached silent apartByName⟩, ?_, ?_, ?_⟩
  all_goals decide +kernel

end Engine

end LiveBinding
