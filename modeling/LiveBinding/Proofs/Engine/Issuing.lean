import LiveBinding.Proofs.Engine.Cancellation
import LiveBinding.Proofs.Engine.Handover

/-!
# The store over a session

Numbers of subscriptions are given out in ascending order, one by each binding that subscribes.
Whatever is in the store was put there by one of them, on the node and for the listener that it
named, and what has left the store does not come back.
-/

namespace LiveBinding

/-- A subscription that was made: its number, its node and its listener. -/
structure Issue (κ : Type) where
  id : SubscriptionId
  node : NodeId
  listener : κ
  deriving DecidableEq

/-- The node and the listener that a request wants to bind. -/
def Request.binding? {κ : Type} : Request κ → Option (NodeId × κ)
  | .bind node _ listener => some (node, listener)
  | .bindTemplate node _ listener => some (node, listener)
  | _ => none

/-- The node and the listener that are to be bound in a turn. -/
def Act.binding? {κ : Type} : Act κ → Option (NodeId × κ)
  | .request requested => requested.binding?
  | _ => none

/-- The number of the subscription that a binding answers. -/
def Reply.subscription? : Reply → Option SubscriptionId
  | .done (.bound (.ok bound)) => bound.subscription
  | _ => none

/-- The subscription that was made in a turn: a binding that was done, and that is kept up to
date. -/
def Turn.issue? {ι κ σ : Type} (turn : Turn ι κ σ) : Option (Issue ι) :=
  turn.act.binding?.bind fun binding =>
    turn.step.answer.subscription?.map fun id => ⟨id, binding.1, binding.2⟩

variable {κ σ : Type} {engine before after : Engine κ σ} {listen : Listen κ σ}

namespace Engine

/-! ### Who makes subscriptions -/

/-- A request that binds nothing leaves the store as it is but for the changes of a cascade. -/
theorem evolves_of_binding?_eq_none (listen : Listen κ σ) (engine : Engine κ σ)
    {request : Request κ} (unbinding : request.binding? = none) :
    ∃ tree, Evolves { engine with tree } (engine.perform listen request).engine := by
  cases request with
  | attach parent =>
      rw [perform, Step.map, Engine.attach]
      cases engine.tree.attach parent with
      | error => exact ⟨engine.tree, .refl⟩
      | ok result => exact ⟨result.2, .refl⟩
  | detach node => exact ⟨engine.tree, .single (.detach engine node)⟩
  | declare node context =>
      rw [perform, Step.map, Engine.declare]
      cases engine.tree.declare node context with
      | error => exact ⟨engine.tree, .refl⟩
      | ok result => exact ⟨result.2, evolves_settle listen _ _⟩
  | removeContext node name =>
      rw [perform, Step.map, Engine.removeContext]
      cases engine.tree.removeContext node name with
      | none => exact ⟨engine.tree, .refl⟩
      | some result => exact ⟨result.2, evolves_settle listen _ _⟩
  | addImplicit node sender context =>
      rw [perform, Step.map, Engine.addImplicit]
      cases engine.tree.setImplicit node sender context with
      | error => exact ⟨engine.tree, .refl⟩
      | ok tree => exact ⟨tree, .refl⟩
  | clearImplicit sender => exact ⟨engine.tree.clearImplicit sender, .refl⟩
  | bind | bindTemplate => contradiction
  | rebind id text => exact ⟨engine.tree, .single (.rebind engine id text)⟩
  | unbind id => exact ⟨engine.tree, .single (.unbind engine id)⟩
  | write request =>
      rw [perform, Step.map, Engine.write]
      cases engine.writeTree request with
      | error => exact ⟨engine.tree, .refl⟩
      | ok result => exact ⟨result.2, evolves_settle listen _ _⟩

/-- What a turn does to the store: it makes no subscription and issues no number, or else it puts a
new one with the next number behind the others. -/
def IssuesOrNot (engine : Engine κ σ) (turn : Turn κ κ σ) : Prop :=
  (turn.issue? = none ∧ ∃ tree registry, Evolves { engine with tree, registry } turn.step.engine) ∨
    ∃ node watched listener,
      turn.issue? = some ⟨engine.subscriptions.nextId, node, listener⟩ ∧
        turn.step.engine.subscriptions = engine.subscriptions.add ⟨node, watched, listener⟩

theorem issuesOrNot_of_bindsOrNot {act : Act κ} {node : NodeId} {watched : Watched} {listener : κ}
    {bound : Step κ σ (Except Tree.Error Bound)} (binding : act.binding? = some (node, listener))
    (binds : engine.BindsOrNot node watched listener bound) :
    engine.IssuesOrNot ⟨act, (bound.map Answer.bound).map Reply.done⟩ := by
  obtain ⟨-, ⟨same, unsubscribed⟩ | ⟨-, -, result, answer⟩⟩ := binds
  · left
    constructor
    · rw [Turn.issue?, binding, Option.bind_some]
      simp only [Step.map]
      cases answer : bound.answer with
      | error => rfl
      | ok found =>
          rw [Reply.subscription?, unsubscribed found answer]
          rfl
    · refine ⟨engine.tree, engine.registry, ?_⟩
      rw [show ((bound.map Answer.bound).map Reply.done).engine = engine from same]
  · refine .inr ⟨node, watched, listener, ?_, congrArg subscriptions result⟩
    rw [Turn.issue?, binding, Option.bind_some]
    simp only [Step.map, answer]
    rfl

theorem act_issuesOrNot (listen : Listen κ σ) (engine : Engine κ σ) (act : Act κ) :
    engine.IssuesOrNot ⟨act, engine.act (perform listen) act⟩ := by
  cases unbinding : act.binding? with
  | none =>
      refine .inl ⟨by rw [Turn.issue?, unbinding, Option.bind_none], ?_⟩
      obtain ⟨request, rfl⟩ | ⟨registry, result⟩ := engine.act_cases (perform listen) act
      · obtain ⟨tree, changes⟩ := evolves_of_binding?_eq_none listen engine unbinding
        exact ⟨tree, engine.registry, changes⟩
      · refine ⟨engine.tree, registry, ?_⟩
        rw [show (engine.act (perform listen) act).engine = _ from result]
  | some binding =>
      cases act with
      | query | register | unregister => contradiction
      | request request =>
          cases request with
          | bind node text listener =>
              exact issuesOrNot_of_bindsOrNot rfl (engine.bind_bindsOrNot node text listener)
          | bindTemplate node text listener =>
              exact issuesOrNot_of_bindsOrNot rfl
                (engine.bindTemplate_bindsOrNot node text listener)
          | attach | detach | declare | removeContext | addImplicit | clearImplicit | rebind
          | unbind | write => contradiction

/-! ### The ledger of issued numbers -/

/-- The numbers issued so far ascend, and every live subscription was made under its number on its
node and for its listener. -/
structure Registers (issues : List (Issue κ)) (engine : Engine κ σ) : Prop where
  ordered : engine.subscriptions.Ordered
  ascending : issues.Pairwise fun earlier later => earlier.id.number < later.id.number
  issued : ∀ issue ∈ issues, issue.id.number ≤ engine.subscriptions.issued
  count : engine.subscriptions.issued = issues.length
  made : ∀ id subscription, engine.subscriptions.get? id = some subscription →
    ⟨id, subscription.node, subscription.listener⟩ ∈ issues

theorem Registers.new (settings : Settings) (memory : σ) :
    Registers [] (new settings memory : Engine κ σ) where
  ordered := .empty
  ascending := .nil
  issued _ impossible := absurd impossible List.not_mem_nil
  count := rfl
  made _ _ found := by contradiction

theorem ordered_evolves (ordered : before.subscriptions.Ordered) (changes : Evolves before after) :
    after.subscriptions.Ordered := by
  induction changes with
  | refl => exact ordered
  | tail _ change ih => exact ordered_change ih change

theorem Registers.turn {issues : List (Issue κ)} (registers : Registers issues engine)
    {turn : Turn κ κ σ} (outcome : engine.IssuesOrNot turn) :
    Registers (issues ++ turn.issue?.toList) turn.step.engine := by
  obtain ⟨none, tree, registry, changes⟩ | ⟨node, watched, listener, new, result⟩ := outcome
  · have ordered : ({ engine with tree, registry } : Engine κ σ).subscriptions.Ordered :=
      registers.ordered
    rw [none, Option.toList_none, List.append_nil]
    have sameIssued := issued_evolves changes
    refine ⟨ordered_evolves ordered changes, registers.ascending, ?_, ?_, ?_⟩
    · intro issue member
      rw [sameIssued]
      exact registers.issued issue member
    · rw [sameIssued]
      exact registers.count
    · intro id subscription found
      obtain ⟨old, oldFound, sameNode, sameListener⟩ := get?_evolves ordered changes found
      rw [← sameNode, ← sameListener]
      exact registers.made id old oldFound
  · rw [new, Option.toList_some]
    refine ⟨?_, ?_, ?_, ?_, ?_⟩
    · rw [result]
      exact registers.ordered.add _
    · rw [List.pairwise_append]
      refine ⟨registers.ascending, List.pairwise_singleton _ _, ?_⟩
      intro earlier member later isLater
      rw [List.mem_singleton.mp isLater]
      exact Nat.lt_succ_of_le (registers.issued earlier member)
    · intro issue member
      rw [result]
      obtain old | isNew := List.mem_append.mp member
      · exact Nat.le_succ_of_le (registers.issued issue old)
      · rw [List.mem_singleton.mp isNew]
        exact Nat.le_refl _
    · rw [result, List.length_append, List.length_singleton, ← registers.count]
      rfl
    · intro id subscription found
      rw [result, Subscriptions.get?_add registers.ordered] at found
      split at found
      · next isNew =>
          cases found
          rw [isNew]
          exact List.mem_append_right _ (List.mem_singleton.mpr rfl)
      · exact List.mem_append_left _ (registers.made id subscription found)

theorem Registers.session {issues : List (Issue κ)} (registers : Registers issues engine)
    (listen : Listen κ σ) (acts : List (Act κ)) :
    Registers (issues ++ (engine.session (perform listen) acts).filterMap Turn.issue?)
      (engine.afterSession (perform listen) acts) := by
  induction acts generalizing engine issues with
  | nil =>
      rw [Engine.session, List.filterMap_nil, List.append_nil]
      exact registers
  | cons act rest ih =>
      have first := registers.turn (engine.act_issuesOrNot listen act)
      have later := ih first
      rw [Engine.session, List.filterMap_cons]
      cases issue : (⟨act, engine.act (perform listen) act⟩ : Turn κ κ σ).issue? with
      | none =>
          rw [issue, Option.toList_none, List.append_nil] at later
          exact later
      | some issue' =>
          rw [issue, Option.toList_some, List.append_assoc] at later
          exact later

/-- Where the numbers of turns ascend, one turn gave out each of them. -/
theorem existsUnique_position {ι : Type} {turns : List (Turn ι κ σ)}
    (ascending : (turns.filterMap Turn.issue?).Pairwise
      fun earlier later => earlier.id.number < later.id.number)
    {made : Issue ι} (member : made ∈ turns.filterMap Turn.issue?) :
    ∃! position : Nat,
      ∃ issue, turns[position]?.bind Turn.issue? = some issue ∧ issue.id = made.id := by
  rw [List.pairwise_filterMap, List.pairwise_iff_getElem] at ascending
  -- of two different places the earlier one has the smaller number
  have apart : ∀ left right : Nat, ∀ issue other, turns[left]?.bind Turn.issue? = some issue →
      turns[right]?.bind Turn.issue? = some other → issue.id = other.id → ¬left < right := by
    intro left right issue other here there same before
    obtain ⟨turn, found, issued⟩ := Option.bind_eq_some_iff.mp here
    obtain ⟨later, foundLater, issuedLater⟩ := Option.bind_eq_some_iff.mp there
    obtain ⟨inside, rfl⟩ := List.getElem?_eq_some_iff.mp found
    obtain ⟨insideLater, rfl⟩ := List.getElem?_eq_some_iff.mp foundLater
    have less := ascending left right inside insideLater before issue issued other issuedLater
    rw [same] at less
    exact Nat.lt_irrefl _ less
  obtain ⟨turn, turnMember, issued⟩ := List.mem_filterMap.mp member
  obtain ⟨position, found⟩ := List.getElem?_of_mem turnMember
  have here : turns[position]?.bind Turn.issue? = some made := by
    rw [found, Option.bind_some, issued]
  refine ⟨position, ⟨made, here, rfl⟩, ?_⟩
  rintro other ⟨issue, there, same⟩
  have notAfter := apart position other made issue here there same.symm
  have notBefore := apart other position issue made there here same
  omega

/-! ### What is over stays over -/

/-- A sound engine leads to another one in which no number was taken back and no subscription that
was over is live again. -/
def Precedes (before after : Engine κ σ) : Prop :=
  before.Sound → after.Sound ∧ before.subscriptions.issued ≤ after.subscriptions.issued ∧
    ∀ id, before.IsOver id → after.IsOver id

namespace Precedes

theorem refl (engine : Engine κ σ) : engine.Precedes engine :=
  fun sound => ⟨sound, Nat.le_refl _, fun _ ended => ended⟩

theorem trans {middle : Engine κ σ} (first : before.Precedes middle)
    (second : middle.Precedes after) : before.Precedes after := by
  intro sound
  obtain ⟨soundMiddle, fewer, kept⟩ := first sound
  obtain ⟨soundAfter, fewerLater, keptLater⟩ := second soundMiddle
  exact ⟨soundAfter, Nat.le_trans fewer fewerLater, fun id ended => keptLater id (kept id ended)⟩

theorem of_evolves (changes : Evolves before after) : before.Precedes after := fun sound =>
  ⟨sound.evolves changes, Nat.le_of_eq (issued_evolves changes).symm,
    fun _ ended => ended.evolves sound changes⟩

theorem of_opening (opening : Opening before after) : before.Precedes after := by
  intro sound
  refine ⟨sound.opening opening, ?_, fun _ ended => ended.opening sound opening⟩
  cases opening with
  | change change => exact Nat.le_of_eq (issued_change change).symm
  | subscribe => exact Nat.le_succ _
  | idle | attach | put | take | setImplicit | clearImplicit => exact Nat.le_refl _

theorem withRegistry (engine : Engine κ σ) (registry : Registry) :
    engine.Precedes { engine with registry } :=
  fun sound => ⟨sound.withRegistry registry, Nat.le_refl _, fun _ ended => ended⟩

end Precedes

/-- Engines that are passed, in this order, on the way from one to another. -/
structure Passes (before : Engine κ σ) (moments : List (Engine κ σ)) (after : Engine κ σ) :
    Prop where
  whole : before.Precedes after
  inOrder : moments.Pairwise Precedes
  reached : ∀ moment ∈ moments, before.Precedes moment ∧ moment.Precedes after

namespace Passes

theorem nil (whole : before.Precedes after) : Passes before [] after :=
  ⟨whole, .nil, fun _ impossible => absurd impossible List.not_mem_nil⟩

theorem single {moment : Engine κ σ} (first : before.Precedes moment)
    (second : moment.Precedes after) : Passes before [moment] after := by
  refine ⟨first.trans second, List.pairwise_singleton _ _, fun other member => ?_⟩
  rw [List.mem_singleton.mp member]
  exact ⟨first, second⟩

theorem append {middle : Engine κ σ} {earlier later : List (Engine κ σ)}
    (first : Passes before earlier middle) (second : Passes middle later after) :
    Passes before (earlier ++ later) after where
  whole := first.whole.trans second.whole
  inOrder := List.pairwise_append.mpr ⟨first.inOrder, second.inOrder, fun moment member other
    memberLater => (first.reached moment member).2.trans (second.reached other memberLater).1⟩
  reached moment member := by
    obtain here | there := List.mem_append.mp member
    · exact ⟨(first.reached moment here).1, (first.reached moment here).2.trans second.whole⟩
    · exact ⟨first.whole.trans (second.reached moment there).1, (second.reached moment there).2⟩

/-- What is live at one moment and not at a later one is not live after that. -/
theorem stays_over {moments : List (Engine κ σ)} (passes : Passes before moments after)
    (sound : before.Sound) {first second third : Engine κ σ}
    (ordered : [first, second, third].Sublist moments) {id : SubscriptionId}
    (live : first.subscriptions.contains id = true)
    (gone : second.subscriptions.contains id = false) :
    third.subscriptions.contains id = false := by
  have inOrder := passes.inOrder.sublist ordered
  simp only [List.pairwise_cons, List.mem_cons, List.not_mem_nil, or_false, forall_eq_or_imp,
    forall_eq] at inOrder
  obtain ⟨⟨toSecond, -⟩, toThird, -⟩ := inOrder
  obtain ⟨soundFirst, -, -⟩ := (passes.reached first (ordered.subset List.mem_cons_self)).1 sound
  obtain ⟨soundSecond, grown, -⟩ := toSecond soundFirst
  obtain ⟨subscription, found⟩ := Option.isSome_iff_exists.mp live
  have issued : id.number ≤ second.subscriptions.issued :=
    Nat.le_trans (soundFirst.store.number_le found) grown
  have absent : second.subscriptions.get? id = none :=
    Option.isNone_iff_eq_none.mp (Option.isSome_eq_false_iff.mp gone)
  have endedLater := (toThird soundSecond).2.2 id ⟨issued, absent⟩
  rw [Subscriptions.contains, endedLater.2]
  rfl

end Passes

theorem passes_roundCalls (listen : Listen κ σ) (round : Round κ σ)
    (told : List SubscriptionId) :
    Passes round.engine ((round.calls listen told).map Call.engine)
      (told.foldl (Round.notify listen) round).engine := by
  induction told generalizing round with
  | nil => exact .nil (.refl _)
  | cons id rest ih =>
      rw [Round.calls, List.map_append, List.foldl_cons]
      refine Passes.append ?_ (ih (round.notify listen id))
      have notified : round.engine.Precedes (round.notify listen id).engine :=
        .of_evolves (evolves_notify listen round id)
      obtain ⟨-, silent, -⟩ | ⟨subscription, effects, memory, -, -, call, -⟩ :=
        round.notify_cases listen id
      · rw [silent]
        exact .nil notified
      · rw [call]
        exact .single (.refl _) notified

theorem passes_runCalls (listen : Listen κ σ) (engine : Engine κ σ)
    (told : List SubscriptionId) :
    Passes engine ((Round.calls listen { engine } told).map Call.engine)
      (Round.run listen engine told).engine := by
  have closed : Passes (told.foldl (Round.notify listen) { engine }).engine []
      (Round.run listen engine told).engine := .nil (.of_evolves (evolves_close _))
  have passed := (passes_roundCalls listen { engine } told).append closed
  rw [List.append_nil] at passed
  exact passed

theorem passes_drainCalls (listen : Listen κ σ) (budget : Nat) (queue : List WriteRequest)
    (engine : Engine κ σ) :
    Passes engine ((drainCalls listen budget queue engine).map Call.engine)
      (drain listen budget queue engine).1 := by
  fun_induction drainCalls listen budget queue engine with
  | case1 | case2 =>
      rw [drain]
      exact .nil (.refl _)
  | case3 budget request rest engine error failed ih =>
      rw [drain, failed]
      exact ih
  | case4 budget request rest engine owner tree written changed told round ih =>
      have opened : Passes engine [] changed := .nil (.of_evolves (.single (.write written)))
      rw [drain, written, List.map_append]
      exact opened.append ((passes_runCalls listen changed told).append ih)

theorem passes_settleCalls (listen : Listen κ σ) (engine : Engine κ σ)
    (told : List SubscriptionId) :
    Passes engine ((settleCalls listen engine told).map Call.engine)
      (settle listen engine told).1 := by
  rw [settleCalls, List.map_append]
  exact (passes_runCalls listen engine told).append (passes_drainCalls listen _ _ _)

/-- The calls of listeners in a turn. -/
def actCalls (listen : Listen κ σ) (engine : Engine κ σ) : Act κ → List (Call κ σ)
  | .request request => engine.performCalls listen request
  | _ => []

theorem passes_actCalls (listen : Listen κ σ) (engine : Engine κ σ) (act : Act κ) :
    Passes engine ((engine.actCalls listen act).map Call.engine)
      (engine.act (perform listen) act).engine := by
  cases act with
  | request request =>
      obtain ⟨opened, opening, ⟨result, silent⟩ | ⟨told, result, calls⟩⟩ :=
        engine.perform_cases listen request
      all_goals rw [actCalls, Engine.act, Step.map]
      · rw [silent, result]
        exact .nil (.of_opening opening)
      · rw [calls, result]
        exact (Passes.nil (.of_opening opening)).append (passes_settleCalls listen opened told)
  | query query =>
      rw [Engine.act, engine_ask]
      exact .nil (.refl engine)
  | register name operation =>
      rw [Engine.act, Step.map, Engine.register]
      cases engine.registry.register name operation with
      | error => exact .nil (.refl engine)
      | ok registry => exact .nil (.withRegistry engine registry)
  | unregister name => exact .nil (.withRegistry engine _)

/-- The engine at each moment of a session at which somebody sees it: when a listener is called,
and after each turn. -/
def moments (listen : Listen κ σ) : Engine κ σ → List (Act κ) → List (Engine κ σ)
  | _, [] => []
  | engine, act :: rest =>
    let after := (engine.act (perform listen) act).engine
    (engine.actCalls listen act).map Call.engine ++ after :: moments listen after rest

theorem passes_moments (listen : Listen κ σ) (engine : Engine κ σ) (acts : List (Act κ)) :
    Passes engine (engine.moments listen acts) (engine.afterSession (perform listen) acts) := by
  induction acts generalizing engine with
  | nil => exact .nil (.refl engine)
  | cons act rest ih =>
      have last : Passes (engine.act (perform listen) act).engine
          [(engine.act (perform listen) act).engine]
          (engine.act (perform listen) act).engine := .single (.refl _) (.refl _)
      exact (passes_actCalls listen engine act).append (last.append (ih _))

theorem length_session {ι : Type} (performs : Performs ι κ σ) (engine : Engine κ σ)
    (acts : List (Act ι)) :
    (engine.session performs acts).length = acts.length := by
  induction acts generalizing engine with
  | nil => rfl
  | cons act rest ih => exact congrArg (· + 1) (ih _)

/-- Listeners are called out of the store, with whatever effects, in turns of all kinds and in any
order.  Then at the end, which may be that of any turn, every live subscription stands on a node of
the tree, does not watch a text that is no expression, has its listener in its place, and was made
under its number, on its node and for this listener by one turn alone, which was a binding.  The
numbers are given out in ascending order, and what was in the store and has left it, by the end of a
turn or during it, does not come back.  Calling listeners out of the store makes no difference to
anything that is answered or told. -/
theorem store_of_session (listen : Listen κ σ) (settings : Settings) (memory : σ)
    (acts : List (Act κ)) :
    let handingOver : Performs κ (Option κ) σ := fun engine request =>
      engine.performHandingOver listen (View.holding.request request)
    let start : Engine (Option κ) σ := new settings memory
    let turns := start.session handingOver acts
    let final := start.afterSession handingOver acts
    let plain : Engine κ σ := new settings memory
    turns = (plain.session (perform listen) acts).map View.holding.turn ∧
    (∀ id subscription, final.subscriptions.get? id = some subscription →
      final.tree.contains subscription.node = true ∧ subscription.watched.IsReadable ∧
      id.number ≤ acts.length ∧
      ∃ listener, subscription.listener = some listener ∧
        ⟨id, subscription.node, listener⟩ ∈ turns.filterMap Turn.issue? ∧
        ∃! position : Nat,
          ∃ issue, turns[position]?.bind Turn.issue? = some issue ∧ issue.id = id) ∧
    ((turns.filterMap Turn.issue?).Pairwise
      fun earlier later => earlier.id.number < later.id.number) ∧
    ∀ id first second third, [first, second, third].Sublist (plain.moments listen acts) →
      first.subscriptions.contains id = true → second.subscriptions.contains id = false →
        third.subscriptions.contains id = false := by
  intro handingOver start turns final plain
  have seesAll : ∀ act ∈ acts, ∀ sender ∈ act.sender?,
      (View.holding : View κ (Option κ)).sees sender = true := fun _ _ _ _ => rfl
  have sameTurns : turns = (plain.session (perform listen) acts).map View.holding.turn :=
    View.faithful_holding.session (View.agrees_holding listen) plain acts seesAll
  have sameEnd : final = View.holding.engine (plain.afterSession (perform listen) acts) :=
    View.faithful_holding.afterSession (View.agrees_holding listen) plain acts seesAll
  have sameIssues : turns.filterMap Turn.issue? =
      (plain.session (perform listen) acts).filterMap Turn.issue? := by
    rw [sameTurns, List.filterMap_map]
    rfl
  have registers := (Registers.new settings memory).session listen acts
  rw [List.nil_append, ← sameIssues] at registers
  have sound : (plain.afterSession (perform listen) acts).Sound :=
    Sound.afterSession (.initial settings .empty memory) listen acts
  refine ⟨sameTurns, ?_, registers.ascending, ?_⟩
  · intro id subscription found
    rw [sameEnd] at found
    obtain ⟨held, live, rfl⟩ := Option.map_eq_some_iff.mp
      ((Subscriptions.get?_mapListeners some _ id).symm.trans found)
    have made := registers.made id held live
    have few : id.number ≤ acts.length :=
      calc id.number
        _ ≤ (turns.filterMap Turn.issue?).length := registers.count ▸ registers.issued _ made
        _ ≤ turns.length := List.length_filterMap_le Turn.issue? turns
        _ = acts.length := length_session handingOver start acts
    rw [sameEnd]
    exact ⟨sound.onNodes id held live, sound.readable id held live, few, held.listener, rfl, made,
      existsUnique_position registers.ascending made⟩
  · intro id first second third ordered live gone
    have passes := plain.passes_moments listen acts
    exact passes.stays_over (.initial settings .empty memory) ordered live gone

/-- A listener that ends its own subscription and one that detaches its own node, told by one
write, and a subscription that is made after them. -/
theorem store_of_session_leaving :
    let top : NodeId := ⟨0, 0⟩
    let low : NodeId := ⟨1, 0⟩
    let listen : Listen Bool Unit := fun listener told memory =>
      (if listener then [.unbind told.subscription] else [.detach told.node], memory)
    let acts : List (Act Bool) :=
      [.request (.attach none), .request (.attach (some top)),
        .request (.declare top ⟨"c", .null⟩), .request (.bind top "c" true),
        .request (.bind low "c" false), .request (.write ⟨top, "c", "", .bool true, none⟩),
        .request (.bind top "c" true)]
    let handingOver : Performs Bool (Option Bool) Unit := fun engine request =>
      engine.performHandingOver listen (View.holding.request request)
    let start : Engine (Option Bool) Unit := new {} ()
    let turns := start.session handingOver acts
    let final := start.afterSession handingOver acts
    let moments := (new {} () : Engine Bool Unit).moments listen acts
    turns.filterMap Turn.issue? = [⟨⟨1⟩, top, true⟩, ⟨⟨2⟩, low, false⟩, ⟨⟨3⟩, top, true⟩] ∧
      final.subscriptions.live.map (·.1) = [⟨3⟩] ∧
      (∃ subscription, final.subscriptions.get? ⟨3⟩ = some subscription ∧
        final.tree.contains subscription.node = true ∧ subscription.listener = some true ∧
        ∃! position : Nat,
          ∃ issue, turns[position]?.bind Turn.issue? = some issue ∧ issue.id = ⟨3⟩) ∧
      ∃ first second third, [first, second, third].Sublist moments ∧
        first.subscriptions.contains ⟨1⟩ = true ∧ second.subscriptions.contains ⟨1⟩ = false ∧
        third.subscriptions.contains ⟨1⟩ = false := by
  intro top low listen acts handingOver start turns final moments
  obtain ⟨-, stored, -, stays⟩ := store_of_session listen {} () acts
  have issues : turns.filterMap Turn.issue? =
      [⟨⟨1⟩, top, true⟩, ⟨⟨2⟩, low, false⟩, ⟨⟨3⟩, top, true⟩] := by decide +kernel
  have living : final.subscriptions.live.map (·.1) = [⟨3⟩] := by decide +kernel
  refine ⟨issues, living, ?_, ?_⟩
  · obtain ⟨subscription, found⟩ := Option.isSome_iff_exists.mp
      (show (final.subscriptions.get? ⟨3⟩).isSome = true by decide +kernel)
    obtain ⟨onNode, -, -, listener, held, made, once⟩ := stored ⟨3⟩ subscription found
    refine ⟨subscription, found, onNode, ?_, once⟩
    have bound : (⟨⟨3⟩, subscription.node, listener⟩ : Issue Bool) ∈
        [⟨⟨1⟩, top, true⟩, ⟨⟨2⟩, low, false⟩, ⟨⟨3⟩, top, true⟩] := issues ▸ made
    obtain ⟨-, same⟩ : subscription.node = top ∧ listener = true := by simpa using bound
    rw [held, same]
  · let isLive : Engine Bool Unit → Bool := fun moment => moment.subscriptions.contains ⟨1⟩
    have seen : moments.map isLive =
        [false, false, false, true, true, true, false, false, false] := by decide +kernel
    have sameLength : (moments.map isLive).length = 9 := congrArg List.length seen
    have enough : moments.length = 9 := (List.length_map _).symm.trans sameLength
    -- when the first listener is called, when the second one is, and at the end
    let places : List (Fin moments.length) := [⟨5, by omega⟩, ⟨6, by omega⟩, ⟨8, by omega⟩]
    have ordered : (places.map (moments[·])).Sublist moments :=
      List.map_getElem_sublist (by simp [places])
    have live : isLive moments[5] = true := by
      rw [← List.getElem_map isLive, List.getElem_of_eq seen]
      · rfl
      · omega
    have gone : isLive moments[6] = false := by
      rw [← List.getElem_map isLive, List.getElem_of_eq seen]
      · rfl
      · omega
    exact ⟨_, _, _, ordered, live, gone, stays ⟨1⟩ _ _ _ ordered live gone⟩

end Engine

end LiveBinding
