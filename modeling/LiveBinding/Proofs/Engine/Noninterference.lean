import LiveBinding.Proofs.Context.Implicits
import LiveBinding.Proofs.Engine.Views

/-!
# Implicit contexts do not interfere

A session in which a sender gets and loses implicit contexts and the same session without these
turns go on side by side.  The engines differ in the implicit contexts of this sender alone, so
they look the same in the view that leaves these out, and whatever is not asked on behalf of the
sender is answered and told in the same way.
-/

namespace LiveBinding

variable {κ σ : Type} {sender : SenderId} {engine before after : Engine κ σ}
variable {listen : Listen κ σ}

/-- Whether a turn changes implicit contexts. -/
def Act.changesImplicits (act : Act κ) : Bool :=
  match act with
  | .request requested => requested.sender?.isSome
  | _ => false

/-- Whether a turn changes implicit contexts of a sender. -/
def Act.changesImplicitsOf (act : Act κ) (sender : SenderId) : Bool :=
  act.changesImplicits && act.sender? == some sender

/-- Whether a turn is about implicit contexts of a sender, which it changes or shows. -/
def Act.isAbout (act : Act κ) (sender : SenderId) : Bool := act.sender? == some sender

/-- What comes of a turn for those who cannot look into the engine. -/
def Turn.outcome {ι : Type} (turn : Turn ι κ σ) : Act ι × Reply × List Event :=
  (turn.act, turn.step.answer, turn.step.journal)

/-- An engine without the implicit contexts of a sender. -/
def Engine.without (engine : Engine κ σ) (sender : SenderId) : Engine κ σ :=
  { engine with tree := engine.tree.clearImplicit sender }

/-! ### The view without them -/

namespace View

/-- All but the implicit contexts of a sender. -/
def without (sender : SenderId) : View κ κ where
  tree tree := tree.clearImplicit sender
  listener := id
  sees other := other != sender

theorem engine_without (sender : SenderId) (engine : Engine κ σ) :
    (without sender).engine engine = engine.without sender := by
  rw [View.engine, without, Subscriptions.mapListeners_id]
  rfl

theorem request_without (sender : SenderId) (request : Request κ) :
    (without sender).request request = request := by
  cases request <;> rfl

theorem faithful_without (sender : SenderId) : (without sender : View κ κ).Faithful where
  contains tree node := tree.contains_clearImplicit sender node
  size tree := tree.size_clearImplicit sender
  parent? tree node := tree.parent?_clearImplicit sender node
  children tree node := tree.children_clearImplicit sender node
  subtree tree node := tree.subtree_clearImplicit sender node
  declared tree node := tree.declared_clearImplicit sender node
  scope tree node := tree.scope_clearImplicit sender node
  implicit? tree node _ seen := tree.implicit?_clearImplicit (bne_iff_ne.mp seen) node
  scopeFor tree node _ seen := tree.scopeFor_clearImplicit (bne_iff_ne.mp seen) node
  attach tree parent := tree.attach_clearImplicit sender parent
  detach tree node := tree.detach_clearImplicit sender node
  declare tree node context := tree.declare_clearImplicit sender node context
  removeContext tree node name := tree.removeContext_clearImplicit sender node name
  writeContext tree node name change := tree.writeContext_clearImplicit sender node name change
  setImplicit tree node _ context seen :=
    tree.setImplicit_clearImplicit (bne_iff_ne.mp seen) node context
  clearImplicit tree other _ := tree.clearImplicit_comm sender other
  countImplicit tree _ seen := tree.countImplicit_clearImplicit (bne_iff_ne.mp seen)

theorem notify_without (sender : SenderId) (listen : Listen κ σ) (round : Round κ σ)
    (id : SubscriptionId) :
    ((without sender).round round).notify listen id =
      (without sender).round (round.notify listen id) := by
  have found : ((without sender).round round).engine.subscriptions.get? id =
      round.engine.subscriptions.get? id := by
    change (round.engine.subscriptions.mapListeners _).get? id = _
    rw [without, Subscriptions.mapListeners_id]
  have faithful : (without sender : View κ κ).Faithful := faithful_without sender
  rw [Round.notify, Round.notify, found]
  change (if round.cancelled.contains id then _ else _) = _
  split
  · rfl
  · cases round.engine.subscriptions.get? id with
    | none => rfl
    | some subscription =>
        have sameValue : ((without sender).round round).engine.evaluateOn subscription.node
            subscription.watched =
              round.engine.evaluateOn subscription.node subscription.watched :=
          faithful.evaluateOn round.engine subscription.node subscription.watched
        let notification := round.due id subscription
        let called := listen subscription.listener notification round.engine.memory
        simp only [sameValue]
        exact faithful.round_takeAll (round.afterTelling notification called.2) called.1

theorem shows_without (sender : SenderId) (listen : Listen κ σ) :
    (without sender).Shows (Round.run listen) (Round.run listen) :=
  (faithful_without sender).shows (notify_without sender listen)

theorem agrees_without (sender : SenderId) (listen : Listen κ σ) :
    (without sender).Agrees (Engine.perform listen) (Engine.perform listen) := by
  intro engine request seen
  have shown :=
    (faithful_without sender).performBy (shows_without sender listen) engine request seen
  rw [Engine.performBy_run, request_without] at shown
  exact shown

/-- A turn that changes implicit contexts of the sender is not seen. -/
theorem engine_without_act (listen : Listen κ σ) (engine : Engine κ σ) {act : Act κ}
    (changes : act.changesImplicitsOf sender = true) :
    (without sender).engine (engine.act (Engine.perform listen) act).engine =
      (without sender).engine engine := by
  cases act with
  | query | register | unregister => contradiction
  | request request =>
      obtain ⟨-, about⟩ := Bool.and_eq_true_iff.mp changes
      have about : request.sender? = some sender := beq_iff_eq.mp about
      cases request with
      | addImplicit node other context =>
          cases about
          rw [Engine.act, Step.map, Engine.perform, Step.map, Engine.addImplicit]
          cases done : engine.tree.setImplicit node sender context with
          | error => rfl
          | ok tree =>
              have same := Tree.clearImplicit_setImplicit done
              simp only [View.engine, without, same]
      | clearImplicit other =>
          cases about
          have same := engine.tree.clearImplicit_self sender
          simp only [Engine.act, Step.map, Engine.perform, Engine.clearImplicit, View.engine,
            without, same]
      | attach | detach | declare | removeContext | bind | bindTemplate | rebind | unbind
      | write => contradiction

/-- A turn that is not about the sender goes alike in engines that look alike. -/
theorem act_without (listen : Listen κ σ) {full reduced : Engine κ σ}
    (same : (without sender).engine full = (without sender).engine reduced) {act : Act κ}
    (other : act.isAbout sender = false) :
    let fullStep := full.act (Engine.perform listen) act
    let reducedStep := reduced.act (Engine.perform listen) act
    (without sender).engine fullStep.engine = (without sender).engine reducedStep.engine ∧
      fullStep.answer = reducedStep.answer ∧ fullStep.journal = reducedStep.journal := by
  intro fullStep reducedStep
  have seen : ∀ other ∈ act.sender?, (without sender : View κ κ).sees other = true := by
    intro someone isSender
    refine bne_iff_ne.mpr fun isSame => ?_
    rw [Act.isAbout, Option.mem_def.mp isSender, isSame, beq_self_eq_true] at other
    contradiction
  have shown := fun engine : Engine κ σ =>
    (faithful_without sender).act (agrees_without sender listen) engine act seen
  have sameStep : (without sender).step fullStep = (without sender).step reducedStep := by
    rw [← shown, ← shown, same]
  simpa only [View.step, Step.mk.injEq] using sameStep

end View

/-- A turn that only shows implicit contexts leaves the engine as it is. -/
theorem Engine.engine_act_of_isAbout (listen : Listen κ σ) (engine : Engine κ σ) {act : Act κ}
    (unchanging : act.changesImplicitsOf sender = false) (about : act.isAbout sender = true) :
    (engine.act (perform listen) act).engine = engine := by
  cases act with
  | request request =>
      have someSender : request.sender? = some sender := beq_iff_eq.mp about
      simp [Act.changesImplicitsOf, Act.changesImplicits, Act.sender?, someSender] at unchanging
  | query query => exact engine.engine_ask query
  | register | unregister => contradiction

/-- Two sessions side by side: in one of them the turns that change implicit contexts of a sender
are left out. -/
theorem Engine.outcomes_without (listen : Listen κ σ) (sender : SenderId)
    {full reduced : Engine κ σ} (same : full.without sender = reduced.without sender)
    (acts : List (Act κ)) :
    let kept := acts.filter (!·.changesImplicitsOf sender)
    ((full.session (perform listen) acts).filter (!·.act.isAbout sender)).map Turn.outcome =
        ((reduced.session (perform listen) kept).filter (!·.act.isAbout sender)).map Turn.outcome ∧
      (full.afterSession (perform listen) acts).without sender =
        (reduced.afterSession (perform listen) kept).without sender := by
  simp only [← View.engine_without] at same ⊢
  induction acts generalizing full reduced with
  | nil => exact ⟨rfl, same⟩
  | cons act rest ih =>
      cases changes : act.changesImplicitsOf sender with
      | true =>
          have about : act.isAbout sender = true := (Bool.and_eq_true_iff.mp changes).2
          have unseen := View.engine_without_act listen full changes
          have later := ih (unseen.trans same)
          rw [List.filter_cons_of_neg (by simp [changes]), session,
            List.filter_cons_of_neg (by simp [about])]
          exact later
      | false =>
          rw [List.filter_cons_of_pos (by simp [changes]), session, session]
          cases about : act.isAbout sender with
          | true =>
              have looks (engine : Engine κ σ) := engine_act_of_isAbout listen engine changes about
              have later := ih same
              simp only [List.filter_cons, about, afterSession, List.foldl_cons, looks]
              exact later
          | false =>
              obtain ⟨sameEngine, sameAnswer, sameJournal⟩ := View.act_without listen same about
              obtain ⟨sameOutcomes, sameEnd⟩ := ih sameEngine
              refine ⟨?_, sameEnd⟩
              rw [List.filter_cons_of_pos (by simp [about]),
                List.filter_cons_of_pos (by simp [about]), List.map_cons, List.map_cons,
                sameOutcomes]
              simp only [Turn.outcome, sameAnswer, sameJournal]

/-! ### Where implicit contexts are not -/

namespace Tree

theorem mem_of_mem_firstOfEachId {entry : Scope.Entry} {candidates : List Scope.Entry}
    (member : entry ∈ Scope.firstOfEachId candidates) : entry ∈ candidates := by
  induction candidates with
  | nil => exact member
  | cons head rest ih =>
      rw [Scope.firstOfEachId] at member
      obtain rfl | later := List.mem_cons.mp member
      · exact List.mem_cons_self
      · exact List.mem_cons_of_mem head (ih (List.mem_filter.mp later).1)

/-- A scope shows no implicit context unless it is asked for on behalf of its sender. -/
theorem implicit?_of_mem_entries {tree : Tree} {node : NodeId} {entry : Scope.Entry}
    (isImplicit : entry.isImplicit = true) :
    entry ∉ (tree.scope node).entries ∧
      ∀ sender, entry ∈ (tree.scopeFor node sender).entries →
        ∃ above ∈ tree.ancestors node, tree.implicit? above sender = some entry.context := by
  have undeclared : entry ∉ (tree.ancestors node).flatMap tree.declaredEntries := by
    intro member
    obtain ⟨above, -, declared⟩ := List.mem_flatMap.mp member
    obtain ⟨context, -, rfl⟩ := List.mem_map.mp declared
    contradiction
  refine ⟨fun member => undeclared (mem_of_mem_firstOfEachId member), fun sender member => ?_⟩
  obtain declared | given := List.mem_append.mp (mem_of_mem_firstOfEachId member)
  · contradiction
  · obtain ⟨above, isAbove, found⟩ := List.mem_flatMap.mp given
    obtain ⟨context, isGiven, rfl⟩ := List.mem_map.mp found
    exact ⟨above, isAbove, Option.mem_toList.mp isGiven⟩

end Tree

namespace Engine

theorem shrinksTo_change (sound : before.Sound) (change : Change before after) :
    before.tree.ShrinksTo after.tree := by
  cases change with
  | remember | unbind => exact .refl _
  | rebind id text =>
      rw [tree_rebind]
      exact .refl _
  | detach node => exact sound.tree.shrinksTo_detach node
  | write written =>
      obtain ⟨_, _, _, -, -, -, -, rfl⟩ := writeTree_eq_ok_iff.mp written
      exact Tree.shrinksTo_withContext _ _ _

theorem shrinksTo_evolves (sound : before.Sound) (changes : Evolves before after) :
    before.tree.ShrinksTo after.tree := by
  induction changes with
  | refl => exact .refl _
  | tail changes change ih => exact ih.trans (shrinksTo_change (sound.evolves changes) change)

theorem tree_of_bindsOrNot {node : NodeId} {watched : Watched} {listener : κ}
    {step : Step κ σ (Except Tree.Error Bound)}
    (binds : engine.BindsOrNot node watched listener step) : step.engine.tree = engine.tree := by
  obtain ⟨-, ⟨same, -⟩ | ⟨-, -, result, -⟩⟩ := binds
  · rw [same]
  · rw [result]

theorem keepsImplicits_settle (shrinks : before.tree.ShrinksTo after.tree) (sound : after.Sound)
    (listen : Listen κ σ) (told : List SubscriptionId) :
    before.tree.KeepsImplicits (settle listen after told).1.tree :=
  (shrinks.trans (shrinksTo_evolves sound (evolves_settle listen after told))).keepsImplicits

/-- A request that is not about implicit contexts leaves them alone, whatever its cascade does. -/
theorem keepsImplicits_perform (sound : engine.Sound) (listen : Listen κ σ) {request : Request κ}
    (other : request.sender? = none) :
    engine.tree.KeepsImplicits (engine.perform listen request).engine.tree := by
  have idle : engine.tree.KeepsImplicits engine.tree := (Tree.ShrinksTo.refl _).keepsImplicits
  cases request with
  | attach parent =>
      rw [perform, Step.map, Engine.attach]
      cases done : engine.tree.attach parent with
      | error => exact idle
      | ok result =>
          obtain ⟨known, rfl⟩ := Tree.attach_eq_ok_iff.mp done
          exact sound.tree.keepsImplicits_grown known
  | declare node context =>
      rw [perform, Step.map, Engine.declare]
      cases declared : engine.tree.declare node context with
      | error => exact idle
      | ok result =>
          obtain ⟨-, rfl⟩ := Tree.declare_eq_ok_iff.mp declared
          exact keepsImplicits_settle (engine.tree.shrinksTo_withContext node context)
            (sound.withContext node context) listen _
  | removeContext node name =>
      rw [perform, Step.map, Engine.removeContext]
      cases removed : engine.tree.removeContext node name with
      | none => exact idle
      | some result =>
          obtain ⟨context, tree⟩ := result
          obtain ⟨-, rfl⟩ := Tree.removeContext_eq_some_iff.mp removed
          exact keepsImplicits_settle (engine.tree.shrinksTo_withoutContext node name)
            (sound.withoutContext node name) listen _
  | write request =>
      rw [perform, Step.map, Engine.write]
      cases written : engine.writeTree request with
      | error => exact idle
      | ok result =>
          obtain ⟨owner, tree⟩ := result
          have change : Change engine { engine with tree } := .write written
          exact keepsImplicits_settle (shrinksTo_change sound change) (sound.change change) listen _
  | detach node => exact (shrinksTo_change sound (.detach engine node)).keepsImplicits
  | rebind id text => exact (shrinksTo_change sound (.rebind engine id text)).keepsImplicits
  | unbind id => exact (shrinksTo_change sound (.unbind engine id)).keepsImplicits
  | bind node text listener =>
      have same := tree_of_bindsOrNot (engine.bind_bindsOrNot node text listener)
      rw [perform, Step.map, same]
      exact idle
  | bindTemplate node text listener =>
      have same := tree_of_bindsOrNot (engine.bindTemplate_bindsOrNot node text listener)
      rw [perform, Step.map, same]
      exact idle
  | addImplicit | clearImplicit => contradiction

theorem keepsImplicits_act (sound : engine.Sound) (listen : Listen κ σ) {act : Act κ}
    (unchanging : act.changesImplicits = false) :
    engine.tree.KeepsImplicits (engine.act (perform listen) act).engine.tree := by
  obtain ⟨request, rfl⟩ | ⟨registry, result⟩ := engine.act_cases (perform listen) act
  · have other : request.sender? = none :=
      Option.isNone_iff_eq_none.mp (Option.isSome_eq_false_iff.mp unchanging)
    exact keepsImplicits_perform sound listen other
  · rw [result]
    exact (Tree.ShrinksTo.refl _).keepsImplicits

/-- In a session from an engine without nodes, let the turns that give or take implicit contexts of
a sender be left out.  Then every other turn has the same answer and tells the same, unless it asks
for what this sender sees, and at the end, which may be that of any turn, the engines differ in the
implicit contexts of this sender alone.  What is seen from a node holds no implicit context at all,
and on behalf of a sender it holds those of this sender alone.  No turn that is not about implicit
contexts changes one on a node that stays. -/
theorem implicits_do_not_interfere (listen : Listen κ σ) (settings : Settings) (memory : σ)
    (sender : SenderId) (acts : List (Act κ)) :
    let start : Engine κ σ := new settings memory
    let kept := acts.filter (!·.changesImplicitsOf sender)
    ((start.session (perform listen) acts).filter (!·.act.isAbout sender)).map Turn.outcome =
        ((start.session (perform listen) kept).filter (!·.act.isAbout sender)).map Turn.outcome ∧
      (start.afterSession (perform listen) acts).without sender =
        (start.afterSession (perform listen) kept).without sender ∧
      ∀ earlier act later, acts = earlier ++ act :: later →
        let before := start.afterSession (perform listen) earlier
        let after := (before.act (perform listen) act).engine
        (∀ node, ∀ entry ∈ (before.tree.scope node).entries, entry.isImplicit = false) ∧
        (∀ node other, ∀ entry ∈ (before.tree.scopeFor node other).entries,
          entry.isImplicit = true → ∃ above ∈ before.tree.ancestors node,
            before.tree.implicit? above other = some entry.context) ∧
        (act.changesImplicits = false → ∀ node, before.tree.contains node = true →
          after.tree.contains node = true → ∀ other,
            after.tree.implicit? node other = before.tree.implicit? node other) := by
  intro start kept
  have sameStart : start.without sender = start.without sender := rfl
  obtain ⟨sameOutcomes, sameEnd⟩ := outcomes_without listen sender sameStart acts
  refine ⟨sameOutcomes, sameEnd, ?_⟩
  intro earlier act later split before after
  have sound : before.Sound := Sound.afterSession (.initial settings .empty memory) listen earlier
  refine ⟨?_, ?_, ?_⟩
  · intro node entry member
    refine Bool.eq_false_iff.mpr fun isImplicit => ?_
    exact (Tree.implicit?_of_mem_entries isImplicit).1 member
  · intro node other entry member isImplicit
    exact (Tree.implicit?_of_mem_entries isImplicit).2 other member
  · intro unchanging node live stays other
    obtain ⟨old, foundOld⟩ := Tree.contains_iff.mp live
    obtain ⟨new, foundNew⟩ := Tree.contains_iff.mp stays
    have same := keepsImplicits_act sound listen unchanging node old new foundOld foundNew
    rw [Tree.implicit?, Tree.implicit?, foundOld, foundNew, Option.bind_some, Option.bind_some,
      same]

/-- Two senders with contexts of one name on one node, and a listener that tries to write there. -/
theorem implicits_do_not_interfere_same_name :
    let top : NodeId := ⟨0, 0⟩
    let sender : SenderId := ⟨1⟩
    let other : SenderId := ⟨2⟩
    let listen : Listen Unit Unit := fun _ told memory =>
      ([.write ⟨top, "i", "", told.value, none⟩], memory)
    let earlier : List (Act Unit) :=
      [.request (.attach none), .request (.declare top ⟨"c", .null⟩),
        .request (.addImplicit top sender ⟨"i", .bool true⟩),
        .request (.addImplicit top other ⟨"i", .bool false⟩), .request (.bind top "c" ()),
        .query (.evaluateFor top sender "i")]
    let write : Act Unit := .request (.write ⟨top, "c", "", .string "new", none⟩)
    let later : List (Act Unit) :=
      [.query (.evaluateFor top other "i"), .request (.clearImplicit sender)]
    let acts := earlier ++ write :: later
    let kept := acts.filter (!·.changesImplicitsOf sender)
    let start : Engine Unit Unit := new {} ()
    let before := start.afterSession (perform listen) earlier
    let after := (before.act (perform listen) write).engine
    kept.length = 7 ∧
      ((start.session (perform listen) acts).filter (!·.act.isAbout sender)).map Turn.outcome =
        ((start.session (perform listen) kept).filter (!·.act.isAbout sender)).map Turn.outcome ∧
      (start.afterSession (perform listen) acts).without sender =
        (start.afterSession (perform listen) kept).without sender ∧
      (∀ entry ∈ (before.tree.scope top).entries, entry.isImplicit = false) ∧
      after.tree.implicit? top sender = some ⟨"i", .bool true⟩ ∧
      after.tree.implicit? top other = some ⟨"i", .bool false⟩ := by
  intro top sender other listen earlier write later acts kept start before after
  obtain ⟨sameOutcomes, sameEnd, each⟩ := implicits_do_not_interfere listen {} () sender acts
  obtain ⟨unseen, -, unchanged⟩ := each earlier write later rfl
  have live : before.tree.contains top = true := by decide +kernel
  have stays : after.tree.contains top = true := by decide +kernel
  have ofSender : before.tree.implicit? top sender = some ⟨"i", .bool true⟩ := by decide +kernel
  have ofOther : before.tree.implicit? top other = some ⟨"i", .bool false⟩ := by decide +kernel
  exact ⟨by decide +kernel, sameOutcomes, sameEnd, unseen top,
    (unchanged rfl top live stays sender).trans ofSender,
    (unchanged rfl top live stays other).trans ofOther⟩

end Engine

end LiveBinding
