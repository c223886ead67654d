import LiveBinding.Proofs.Engine.Ledger

/-!
# Values that were told are present values

A change of the tree leaves every value as it was but those of the affected subscriptions.  These
are told in the round that the change opens, or else they were cancelled: unbound, so that they
are gone, or on the way to be detached, so that they are gone when the round is closed.  Hence
nobody is left behind when a round is over, and none of the rounds of a cascade.
-/

namespace LiveBinding

variable {κ σ : Type} {ledger : Ledger} {engine : Engine κ σ} {round : Round κ σ}

/-! ### Who is affected -/

namespace Engine

theorem mem_affected (sound : engine.Sound) {owner : NodeId} {name : String}
    {id : SubscriptionId} :
    id ∈ engine.affected owner name ↔
      ∃ subscription, engine.subscriptions.get? id = some subscription ∧
        subscription.watched.references name = true ∧
        engine.tree.owner? subscription.node name = some owner := by
  unfold affected
  simp only [List.mem_map, List.mem_filter, Bool.and_eq_true, beq_iff_eq]
  constructor
  · rintro ⟨⟨number, subscription⟩, ⟨member, concerned⟩, rfl⟩
    exact ⟨subscription, sound.store.get?_of_mem member, concerned⟩
  · rintro ⟨subscription, found, concerned⟩
    exact ⟨(id, subscription), ⟨Subscriptions.mem_live_of_get? found, concerned⟩, rfl⟩

theorem ascending_affected (sound : engine.Sound) (owner : NodeId) (name : String) :
    (engine.affected owner name).Pairwise (·.number < ·.number) := by
  rw [affected, List.pairwise_map]
  exact sound.store.ascending.filter _

/-- A context that is put on a node concerns those who see it then. -/
theorem covers_withContext (covers : ledger.Covers engine fun _ => False)
    (sound : engine.Sound) {node : NodeId} (live : engine.tree.contains node = true)
    (context : Context) :
    let changed := { engine with tree := engine.tree.withContext node context }
    ledger.Covers changed (· ∈ changed.affected node context.id) := by
  intro changed
  have soundAfter := sound.withContext node context
  refine covers.withTree fun id subscription found unaffected name referenced => ?_
  refine ((Tree.differOnlyAt_withContext engine.tree node context).symm.find?_scope
    soundAfter.tree sound.tree ?_ (soundAfter.onNodes id subscription found) ?_).symm
  · rw [Tree.context?_withContext live, if_pos ⟨rfl, rfl⟩]
    rfl
  · rintro rfl seen
    exact unaffected ((mem_affected soundAfter).mpr ⟨subscription, found, referenced, seen⟩)

/-- A context that is taken off a node concerns those who saw it before. -/
theorem covers_withoutContext (covers : ledger.Covers engine fun _ => False)
    (sound : engine.Sound) {node : NodeId} {name : String} {context : Context}
    (declared : engine.tree.context? node name = some context) :
    ledger.Covers { engine with tree := engine.tree.withoutContext node name }
      (· ∈ engine.affected node name) := by
  refine covers.withTree fun id subscription found unaffected other referenced => ?_
  refine (Tree.differOnlyAt_withoutContext engine.tree node name).find?_scope
    sound.tree (sound.tree.withoutContext node name) ?_ (sound.onNodes id subscription found) ?_
  · rw [declared]
    rfl
  · rintro rfl seen
    exact unaffected ((mem_affected sound).mpr ⟨subscription, found, referenced, seen⟩)

end Engine

/-! ### Rounds -/

namespace Round

/-- What holds all through a round: those who are not up to date are still to be told or were
cancelled, and those who were cancelled and are still there are about to be detached. -/
structure Tracked (ledger : Ledger) (round : Round κ σ) (untold : List SubscriptionId) :
    Prop where
  sound : round.engine.Sound
  covers : (ledger.noteAll round.journal).Covers round.engine
    fun id => id ∈ untold ∨ id ∈ round.cancelled
  leaving : ∀ id ∈ round.cancelled, ∀ subscription,
    round.engine.subscriptions.get? id = some subscription →
      ∃ node ∈ round.detaches, node ∈ round.engine.tree.ancestors subscription.node

namespace Tracked

variable {untold : List SubscriptionId}

theorem opening (sound : engine.Sound) (covers : ledger.Covers engine (· ∈ untold)) :
    Tracked ledger { engine } untold where
  sound := sound
  covers := covers.mono fun _ _ _ waiting => .inl waiting
  leaving _ impossible := nomatch impossible

theorem take (tracked : Tracked ledger round untold) (effect : Effect) :
    Tracked ledger (round.take effect) untold := by
  have ⟨sound, covers, leaving⟩ := tracked
  cases effect with
  | write request =>
      refine ⟨sound, ?_, leaving⟩
      rw [Round.take, Ledger.noteAll_append]
      exact covers
  | rebind id text => exact ⟨sound, covers, leaving⟩
  | unbind id =>
      refine ⟨sound.unbind id, ?_, fun other member subscription found => ?_⟩
      · refine (covers.unbind id).mono fun other _ _ waiting => ?_
        exact waiting.imp_right (List.mem_cons_of_mem id)
      · simp only [Round.take, Engine.get?_unbind] at member found
        split at found
        · contradiction
        · next different =>
            exact leaving other ((List.mem_cons.mp member).resolve_left different) _ found
  | detach node =>
      refine ⟨sound, ?_, fun id member subscription found => ?_⟩
      · refine covers.mono fun other _ _ waiting => ?_
        exact waiting.imp_right (List.mem_append_right _)
      · obtain onSubtree | earlier := List.mem_append.mp member
        · obtain ⟨same, sameFound, inside⟩ := (Subscriptions.mem_idsOn sound.store).mp onSubtree
          cases found.symm.trans sameFound
          exact ⟨node, List.mem_append_right _ List.mem_cons_self,
            (sound.tree.mem_subtree.mp inside).2⟩
        · obtain ⟨above, listed, higher⟩ := leaving id earlier subscription found
          exact ⟨above, List.mem_append_left _ listed, higher⟩

theorem takeAll (tracked : Tracked ledger round untold) (effects : List Effect) :
    Tracked ledger (effects.foldl Round.take round) untold := by
  induction effects generalizing round with
  | nil => exact tracked
  | cons effect rest ih => exact ih (tracked.take effect)

/-- Who was told is up to date. -/
theorem afterTelling {id : SubscriptionId} (tracked : Tracked ledger round (id :: untold))
    {subscription : Subscription κ} (memory : σ)
    (live : round.engine.subscriptions.get? id = some subscription) :
    Tracked ledger (round.afterTelling (round.due id subscription) memory) untold := by
  refine ⟨⟨tracked.sound.tree, tracked.sound.store, tracked.sound.onNodes,
    tracked.sound.readable⟩, fun other found foundLive => ?_, tracked.leaving⟩
  obtain ⟨standing, known, describes⟩ := tracked.covers other found foundLive
  rw [Round.afterTelling, Ledger.noteAll_append, Ledger.noteAll_cons, Ledger.noteAll_nil,
    Ledger.note, Ledger.amend, known]
  by_cases this : other = id
  · subst this
    change round.engine.subscriptions.get? other = some found at foundLive
    rw [live, Option.some.injEq] at foundLive
    subst foundLive
    refine ⟨_, if_pos rfl, describes.watched, fun _ value reported => ?_⟩
    cases reported
    rfl
  · refine ⟨standing, if_neg this, describes.watched, fun settled => describes.reported ?_⟩
    rintro (waiting | cancelled)
    · exact settled (.inl ((List.mem_cons.mp waiting).resolve_left this))
    · exact settled (.inr cancelled)

theorem notify {id : SubscriptionId} (tracked : Tracked ledger round (id :: untold))
    (listen : Listen κ σ) : Tracked ledger (round.notify listen id) untold := by
  obtain ⟨passedOver, -, same⟩ | ⟨subscription, effects, memory, -, live, -, told⟩ :=
    round.notify_cases listen id
  · rw [same]
    refine ⟨tracked.sound, tracked.covers.mono fun other subscription live waiting => ?_,
      tracked.leaving⟩
    obtain member | cancelled := waiting
    · obtain rfl | later := List.mem_cons.mp member
      · obtain cancelled | gone := passedOver
        · exact .inr cancelled
        · rw [gone] at live
          contradiction
      · exact .inl later
    · exact .inr cancelled
  · rw [told]
    exact (tracked.afterTelling memory live).takeAll effects

theorem notifyAll (tracked : Tracked ledger round untold) (listen : Listen κ σ) :
    Tracked ledger (untold.foldl (Round.notify listen) round) [] := by
  induction untold generalizing round with
  | nil => exact tracked
  | cons id rest ih => exact ih (tracked.notify listen)

theorem rebindOne (tracked : Tracked ledger round untold) (rebinding : SubscriptionId × String) :
    Tracked ledger (round.rebindOne rebinding) untold where
  sound := tracked.sound.rebind rebinding.1 rebinding.2
  covers := by
    rw [Round.rebindOne, Ledger.noteAll_append]
    exact tracked.covers.rebind rebinding.1 rebinding.2
  leaving id member subscription found := by
    obtain ⟨old, oldFound, sameNode, -⟩ := Engine.get?_rebind found
    rw [Round.rebindOne, Engine.tree_rebind, ← sameNode]
    exact tracked.leaving id member old oldFound

theorem rebindAll (tracked : Tracked ledger round untold)
    (rebindings : List (SubscriptionId × String)) :
    Tracked ledger (rebindings.foldl Round.rebindOne round) untold := by
  induction rebindings generalizing round with
  | nil => exact tracked
  | cons rebinding rest ih => exact ih (tracked.rebindOne rebinding)

end Tracked

end Round

namespace Engine

theorem covers_detachAll {pending : SubscriptionId → Prop} (covers : ledger.Covers engine pending)
    (sound : engine.Sound) (nodes : List NodeId) :
    ledger.Covers (nodes.foldl (fun engine node => (engine.detach node).engine) engine)
      pending := by
  induction nodes generalizing engine with
  | nil => exact covers
  | cons node rest ih => exact ih (covers.detach sound node) (sound.detach node)

end Engine

/-- When a round is closed, everybody is up to date. -/
theorem Round.Tracked.close (tracked : round.Tracked ledger []) :
    (ledger.noteAll round.close.journal).Covers round.close.engine fun _ => False := by
  have ⟨sound, covers, leaving⟩ := tracked.rebindAll round.rebinds
  have sameDetaches := round.detaches_rebindAll round.rebinds
  rw [Round.close, Round.journal_detachAll, Round.engine_detachAll]
  refine (Engine.covers_detachAll covers sound _).mono fun id subscription found waiting => ?_
  obtain ⟨live, outside⟩ := Engine.get?_detachAll sound _ found
  obtain impossible | cancelled := waiting
  · contradiction
  · obtain ⟨node, listed, above⟩ := leaving id cancelled subscription live
    rw [sameDetaches] at listed
    exact outside node listed above

namespace Ledger.Covers

/-- A round that tells those who are not up to date brings everybody up to date. -/
theorem roundClosed {told : List SubscriptionId} (covers : ledger.Covers engine (· ∈ told))
    (sound : engine.Sound) (listen : Listen κ σ) :
    (ledger.noteAll (Round.run listen engine told).journal).Covers
      (Round.run listen engine told).engine fun _ => False :=
  ((Round.Tracked.opening sound covers).notifyAll listen).close

/-! ### Cascades -/

/-- A write that is done concerns those who see the context that it writes. -/
theorem write (covers : ledger.Covers engine fun _ => False) (sound : engine.Sound)
    {request : WriteRequest} {owner : NodeId} {tree : Tree}
    (written : engine.writeTree request = .ok (owner, tree)) :
    ledger.Covers { engine with tree }
      (· ∈ ({ engine with tree } : Engine κ σ).affected owner request.contextId) := by
  obtain ⟨_, context, value, -, -, declared, -, rfl⟩ := Engine.writeTree_eq_ok_iff.mp written
  have live : engine.tree.contains owner = true := by
    cases live : engine.tree.contains owner with
    | true => rfl
    | false =>
        have noDeclared := Tree.declared_eq_nil (by rw [live]; exact Bool.false_ne_true)
        rw [Tree.context?, noDeclared] at declared
        contradiction
  exact Engine.covers_withContext covers sound live ⟨request.contextId, value⟩

theorem drain (listen : Listen κ σ) (budget : Nat) (queue : List WriteRequest)
    (engine : Engine κ σ) :
    ∀ {ledger : Ledger}, ledger.Covers engine (fun _ => False) → engine.Sound →
      (ledger.noteAll (Engine.drain listen budget queue engine).2).Covers
        (Engine.drain listen budget queue engine).1 fun _ => False := by
  fun_induction Engine.drain listen budget queue engine with
  | case1 =>
      intro ledger covers sound
      exact covers
  | case2 =>
      intro ledger covers sound
      exact covers
  | case3 budget request rest engine error failed final journal drained ih =>
      intro ledger covers sound
      rw [drained] at ih
      exact ih covers sound
  | case4 budget request rest engine owner tree written changed round final journal drained =>
      rename_i ih
      intro ledger covers sound
      rw [drained] at ih
      rw [List.cons_append, noteAll_cons, noteAll_append]
      have soundChanged : changed.Sound := sound.change (.write written)
      exact ih ((covers.write sound written).roundClosed soundChanged listen)
        (soundChanged.evolves (Engine.evolves_round listen changed _))

/-- A cascade brings everybody up to date, whatever becomes of the writes in it. -/
theorem settle {told : List SubscriptionId} (covers : ledger.Covers engine (· ∈ told))
    (sound : engine.Sound) (listen : Listen κ σ) :
    (ledger.noteAll (Engine.settle listen engine told).2).Covers
      (Engine.settle listen engine told).1 fun _ => False := by
  rw [Engine.settle, noteAll_append]
  exact drain listen _ _ _ (covers.roundClosed sound listen)
    (sound.evolves (Engine.evolves_round listen engine told))

/-! ### Operations and runs -/

theorem perform (covers : ledger.Covers engine fun _ => False) (sound : engine.Sound)
    (listen : Listen κ σ) (request : Request κ) :
    ((ledger.noteAll (engine.perform listen request).journal).noteAnswer request
      (engine.perform listen request).answer).Covers (engine.perform listen request).engine
        fun _ => False := by
  cases request with
  | attach parent =>
      simp only [Engine.perform, Step.map, Engine.attach]
      split
      · exact covers
      · next node tree done =>
          obtain ⟨known, result⟩ := Tree.attach_eq_ok_iff.mp done
          cases result
          refine covers.withTree fun id subscription found _ name _ => ?_
          exact Tree.find?_scope_grown sound.tree known (sound.onNodes id subscription found) name
  | detach node => exact covers.detach sound node
  | declare node context =>
      simp only [Engine.perform, Step.map, Engine.declare]
      split
      · exact covers
      · next declared =>
          obtain ⟨live, result⟩ := Tree.declare_eq_ok_iff.mp declared
          cases result
          exact (Engine.covers_withContext covers sound live context).settle
            (sound.withContext node context) listen
  | removeContext node id =>
      simp only [Engine.perform, Step.map, Engine.removeContext]
      split
      · exact covers
      · next removed =>
          obtain ⟨declared, result⟩ := Tree.removeContext_eq_some_iff.mp removed
          cases result
          exact (Engine.covers_withoutContext covers sound declared).settle
            (sound.withoutContext node id) listen
  | addImplicit node sender context =>
      simp only [Engine.perform, Step.map, Engine.addImplicit]
      split
      · exact covers
      · next tree done =>
          refine covers.withTree fun id subscription found _ name _ => ?_
          exact (Tree.sameContexts_setImplicit done).find?_scope sound.tree
            (sound.tree.setImplicit done) (sound.onNodes id subscription found) name
  | clearImplicit sender =>
      refine covers.withTree fun id subscription found _ name _ => ?_
      exact (Tree.sameContexts_clearImplicit _ sender).find?_scope sound.tree
        (sound.tree.clearImplicit sender) (sound.onNodes id subscription found) name
  | bind node text listener => exact covers.bind sound (engine.bind_bindsOrNot node text listener)
  | bindTemplate node text listener =>
      exact covers.bind sound (engine.bindTemplate_bindsOrNot node text listener)
  | rebind id text => exact covers.rebind_answered id text
  | unbind id => exact covers.unbind id
  | write request =>
      simp only [Engine.perform, Step.map, Engine.write]
      split
      · exact covers
      · next owner tree written =>
          exact (covers.write sound written).settle (sound.change (.write written)) listen

theorem run (covers : ledger.Covers engine fun _ => False) (sound : engine.Sound)
    (listen : Listen κ σ) (requests : List (Request κ)) :
    (ledger.noteRun listen engine requests).Covers (engine.run listen requests)
      fun _ => False := by
  induction requests generalizing engine ledger with
  | nil => exact covers
  | cons request rest ih =>
      exact ih (covers.perform sound listen request) (sound.perform listen request)

end Ledger.Covers

/-- The value of a text on a node, as an expression or as a template. -/
def Engine.valueOf (engine : Engine κ σ) (isTemplate : Bool) (node : NodeId) (text : String) :
    Value :=
  if isTemplate then (engine.evaluateTemplateText node text).answer
  else (engine.evaluateText node text).answer

/-- After any run from an engine without nodes, the ledger of the run knows every live
subscription.  The value that was reported to it last is the one that its text has on its node,
unless the text was changed by a listener since. -/
theorem Ledger.reported_eq_valueOf (listen : Listen κ σ) (settings : Settings)
    (registry : Registry) (memory : σ) (requests : List (Request κ)) :
    let engine := Engine.initial settings registry memory
    ∀ id subscription, (engine.run listen requests).subscriptions.get? id = some subscription →
      ∃ standing, noteRun listen engine requests empty id = some standing ∧
        ∀ value, standing.reported = some value →
          value = (engine.run listen requests).valueOf standing.isTemplate subscription.node
            standing.text := by
  intro engine id subscription live
  have covers : empty.Covers engine fun _ => False := fun _ _ impossible => nomatch impossible
  have sound : engine.Sound := .initial settings registry memory
  obtain ⟨standing, known, describes⟩ := covers.run sound listen requests id subscription live
  refine ⟨standing, known, fun value reported => ?_⟩
  rw [describes.reported not_false value reported, describes.watched, Engine.valueOf]
  cases standing.isTemplate <;> rfl

/-- A write to a context that a subscription reads is reported to it. -/
theorem Ledger.reported_eq_valueOf_of_write :
    let listen : Listen Unit Unit := fun _ _ memory => ([], memory)
    let engine : Engine Unit Unit := Engine.initial {} .empty ()
    let requests : List (Request Unit) :=
      [.attach none, .declare ⟨0, 0⟩ ⟨"a", .null⟩, .bind ⟨0, 0⟩ "a" (),
        .write ⟨⟨0, 0⟩, "a", "", .bool true, none⟩]
    ∃ standing, noteRun listen engine requests empty ⟨1⟩ = some standing ∧
      standing.reported = some (.bool true) ∧
        .bool true =
          (engine.run listen requests).valueOf standing.isTemplate ⟨0, 0⟩ standing.text := by
  intro listen engine requests
  obtain ⟨standing, known, fresh⟩ := reported_eq_valueOf listen {} .empty () requests ⟨1⟩
    ⟨⟨0, 0⟩, .expr (.binding [.key "a"]), ()⟩ (by decide +kernel)
  have told : (noteRun listen engine requests empty ⟨1⟩).bind (·.reported) =
      some (.bool true) := by decide +kernel
  rw [known] at told
  exact ⟨standing, known, told, fresh _ told⟩

end LiveBinding
