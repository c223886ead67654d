import LiveBinding.Engine.Run
import LiveBinding.Proofs.Context.Preservation

/-!
# What the steps of an engine do

Each step is described here once, by its possible outcomes with all that they change.  The
invariants of engines are read off these descriptions and do not open the steps again.
-/

namespace LiveBinding

namespace Watched

/-- What a text means to a subscription of one of the two kinds. -/
def ofText (isTemplate : Bool) (text : String) : Watched :=
  if isTemplate then .template (Template.ofText text) else .expr (Expr.ofText text)

/-- Whether there is more to watch than a text that is no expression. -/
def IsReadable (watched : Watched) : Prop :=
  ∀ expr, watched = .expr expr → expr.isInvalid = false

theorem isReadable_template (template : Template) : (Watched.template template).IsReadable :=
  fun _ same => nomatch same

theorem isReadable_expr {expr : Expr} (valid : ¬expr.isInvalid = true) :
    (Watched.expr expr).IsReadable := by
  intro other same
  cases same
  simpa using valid

end Watched

/-- Whether an event only says that a text could not be read. -/
def Event.isAboutText : Event → Bool
  | .unreadable .. => true
  | .unreadablePart .. => true
  | _ => false

namespace Engine

variable {κ σ : Type} {engine : Engine κ σ}

/-! ### Writing -/

/-- A write that is done puts a new value in place of the one that the owner declares. -/
theorem writeTree_eq_ok_iff {request : WriteRequest} {owner : NodeId} {tree : Tree} :
    engine.writeTree request = .ok (owner, tree) ↔
      ∃ path context value, Path.read request.path = .ok path ∧
        engine.tree.owner? request.origin request.contextId = some owner ∧
        engine.tree.context? owner request.contextId = some context ∧
        Value.write? (request.policy.getD engine.settings.defaultPolicy) path request.value
          context.value = some value ∧
        tree = engine.tree.withContext owner ⟨request.contextId, value⟩ := by
  unfold writeTree
  cases Path.read request.path with
  | error => simp
  | ok path =>
      cases engine.tree.owner? request.origin request.contextId with
      | none => simp
      | some found =>
          simp only [Except.ok.injEq, exists_and_left, Option.some.injEq, exists_eq_left']
          split
          · next refused =>
              constructor
              · simp
              · rintro ⟨rfl, context, declared, value, written, rfl⟩
                have := Tree.writeContext_eq_some_iff.mpr
                  ⟨context, value, declared, written, rfl⟩
                rw [refused] at this
                contradiction
          · next after done =>
              obtain ⟨context, value, declared, written, result⟩ :=
                Tree.writeContext_eq_some_iff.mp done
              simp only [Except.ok.injEq, Prod.mk.injEq]
              constructor
              · rintro ⟨rfl, rfl⟩
                exact ⟨rfl, context, declared, value, written, result⟩
              · rintro ⟨rfl, other, otherDeclared, otherValue, otherWritten, rfl⟩
                rw [declared, Option.some.injEq] at otherDeclared
                subst otherDeclared
                rw [written, Option.some.injEq] at otherWritten
                subst otherWritten
                exact ⟨rfl, result⟩

/-! ### Rebinding -/

theorem exprEvents_isAboutText (engine : Engine κ σ) (text : String) (expr : Expr) :
    ∀ event ∈ engine.exprEvents text expr, event.isAboutText = true := by
  intro event member
  unfold exprEvents at member
  split at member
  · split at member
    · rw [List.mem_singleton.mp member]
      rfl
    · simp at member
  · simp at member

theorem templateEvents_isAboutText (engine : Engine κ σ) (template : Template) :
    ∀ event ∈ engine.templateEvents template, event.isAboutText = true := by
  intro event member
  unfold templateEvents at member
  split at member
  · obtain ⟨failure, -, rfl⟩ := List.mem_map.mp member
    rfl
  · simp at member

/-- What a rebinding does: nothing to a subscription that is gone, a new text to one that is live,
and an end to one that would watch a text that is no expression. -/
theorem rebind_cases (engine : Engine κ σ) (id : SubscriptionId) (text : String) :
    (engine.subscriptions.get? id = none ∧ engine.rebind id text = ⟨engine, none, []⟩) ∨
    ∃ subscription warnings, engine.subscriptions.get? id = some subscription ∧
      (∀ event ∈ warnings, event.isAboutText = true) ∧
      ((∃ watched, watched = Watched.ofText subscription.watched.isTemplate text ∧
          watched.IsReadable ∧
          engine.rebind id text =
            ⟨{ engine with subscriptions := engine.subscriptions.retarget id watched },
              some (engine.evaluateOn subscription.node watched),
              warnings ++ [.rebound id text]⟩) ∨
        ∃ value, engine.rebind id text =
          ⟨{ engine with subscriptions := engine.subscriptions.remove id }, some value,
            warnings⟩) := by
  unfold rebind
  cases live : engine.subscriptions.get? id with
  | none => exact .inl ⟨rfl, rfl⟩
  | some subscription =>
      right
      cases kind : subscription.watched.isTemplate with
      | true =>
          refine ⟨subscription, _, rfl,
            engine.templateEvents_isAboutText (Template.ofText text), .inl ?_⟩
          exact ⟨.template (Template.ofText text), by rw [kind]; rfl,
            Watched.isReadable_template _, by simp [kind]⟩
      | false =>
          refine ⟨subscription, _, rfl,
            engine.exprEvents_isAboutText text (Expr.ofText text), ?_⟩
          by_cases invalid : (Expr.ofText text).isInvalid = true
          · exact .inr ⟨.string text, by simp [kind, invalid]⟩
          · exact .inl ⟨.expr (Expr.ofText text), by rw [kind]; rfl,
              Watched.isReadable_expr invalid, by simp [kind, invalid]⟩

theorem tree_rebind (engine : Engine κ σ) (id : SubscriptionId) (text : String) :
    (engine.rebind id text).engine.tree = engine.tree := by
  obtain ⟨-, result⟩ | ⟨_, _, _, -, ⟨_, -, -, result⟩ | ⟨_, result⟩⟩ :=
    engine.rebind_cases id text
  all_goals rw [result]

/-! ### Binding -/

/-- What binding a text of either kind does: it subscribes, or it leaves everything as it was and
answers without a subscription. -/
def BindsOrNot (engine : Engine κ σ) (node : NodeId) (watched : Watched) (listener : κ)
    (step : Step κ σ (Except Tree.Error Bound)) : Prop :=
  (∀ event ∈ step.journal, event.isAboutText = true) ∧
    ((step.engine = engine ∧ ∀ bound, step.answer = .ok bound → bound.subscription = none) ∨
      (engine.tree.contains node = true ∧ watched.IsReadable ∧
        step.engine =
          { engine with subscriptions := engine.subscriptions.add ⟨node, watched, listener⟩ } ∧
        step.answer =
          .ok ⟨some engine.subscriptions.nextId, engine.evaluateOn node watched⟩))

theorem subscribe_bindsOrNot (engine : Engine κ σ) (node : NodeId) {watched : Watched}
    (readable : watched.IsReadable) (listener : κ) {journal : List Event}
    (aboutText : ∀ event ∈ journal, event.isAboutText = true) :
    engine.BindsOrNot node watched listener (engine.subscribe node watched listener journal) := by
  unfold subscribe
  split
  · next live => exact ⟨aboutText, .inr ⟨live, readable, rfl, rfl⟩⟩
  · exact ⟨aboutText, .inl ⟨rfl, fun bound same => nomatch same⟩⟩

theorem bind_bindsOrNot (engine : Engine κ σ) (node : NodeId) (text : String) (listener : κ) :
    engine.BindsOrNot node (.ofText false text) listener (engine.bind node text listener) := by
  have aboutText := engine.exprEvents_isAboutText text (Expr.ofText text)
  unfold Engine.bind
  dsimp only
  split
  · refine ⟨aboutText, .inl ⟨rfl, fun bound same => ?_⟩⟩
    cases same
    rfl
  · next readable =>
      exact engine.subscribe_bindsOrNot node (Watched.isReadable_expr readable) listener aboutText

theorem bindTemplate_bindsOrNot (engine : Engine κ σ) (node : NodeId) (text : String)
    (listener : κ) :
    engine.BindsOrNot node (.ofText true text) listener
      (engine.bindTemplate node text listener) := by
  have aboutText := engine.templateEvents_isAboutText (Template.ofText text)
  unfold Engine.bindTemplate
  dsimp only
  split
  · exact engine.subscribe_bindsOrNot node (Watched.isReadable_template _) listener aboutText
  · split
    · refine ⟨aboutText, .inl ⟨rfl, fun bound same => ?_⟩⟩
      cases same
      rfl
    · exact ⟨aboutText, .inl ⟨rfl, fun bound same => nomatch same⟩⟩

end Engine

/-! ### Telling a subscription -/

/-- A call of a listener: the engine at this moment, what the listener is told, and what it asks
for. -/
structure Call (κ σ : Type) where
  engine : Engine κ σ
  notification : Notification
  effects : List Effect

namespace Round

variable {κ σ : Type}

/-- What a subscription is told in a round. -/
def due (round : Round κ σ) (id : SubscriptionId) (subscription : Subscription κ) :
    Notification :=
  ⟨id, subscription.node, round.engine.evaluateOn subscription.node subscription.watched⟩

/-- A round in which a listener was told, but did not yet say what it wants. -/
def afterTelling (round : Round κ σ) (notification : Notification) (memory : σ) : Round κ σ :=
  { round with
    engine := { round.engine with memory }
    journal := round.journal ++ [.notified notification] }

/-- The call that is made when it is the turn of a subscription, if there is one. -/
def call? (listen : Listen κ σ) (round : Round κ σ) (id : SubscriptionId) : Option (Call κ σ) :=
  if round.cancelled.contains id then none
  else (round.engine.subscriptions.get? id).map fun subscription =>
    let notification := round.due id subscription
    ⟨round.engine, notification,
      (listen subscription.listener notification round.engine.memory).1⟩

/-- A subscription is passed over because it was cancelled or is gone, or else its listener is
told its present value and gets what it asks for. -/
theorem notify_cases (listen : Listen κ σ) (round : Round κ σ) (id : SubscriptionId) :
    ((id ∈ round.cancelled ∨ round.engine.subscriptions.get? id = none) ∧
      round.call? listen id = none ∧ round.notify listen id = round) ∨
    ∃ subscription effects memory, id ∉ round.cancelled ∧
      round.engine.subscriptions.get? id = some subscription ∧
      round.call? listen id = some ⟨round.engine, round.due id subscription, effects⟩ ∧
      round.notify listen id =
        effects.foldl take (round.afterTelling (round.due id subscription) memory) := by
  unfold notify call?
  by_cases cancelled : id ∈ round.cancelled
  · left
    have listed := List.contains_iff_mem.mpr cancelled
    exact ⟨.inl cancelled, if_pos listed, if_pos listed⟩
  · have unlisted : ¬round.cancelled.contains id = true :=
      fun listed => cancelled (List.contains_iff_mem.mp listed)
    rw [if_neg unlisted, if_neg unlisted]
    cases live : round.engine.subscriptions.get? id with
    | none => exact .inl ⟨.inr rfl, rfl, rfl⟩
    | some subscription => exact .inr ⟨subscription, _, _, cancelled, rfl, rfl, rfl⟩

/-! ### Closing a round -/

theorem detaches_rebindAll (round : Round κ σ) (rebindings : List (SubscriptionId × String)) :
    (rebindings.foldl rebindOne round).detaches = round.detaches := by
  induction rebindings generalizing round with
  | nil => rfl
  | cons rebinding rest ih => exact ih (round.rebindOne rebinding)

theorem tree_rebindAll (round : Round κ σ) (rebindings : List (SubscriptionId × String)) :
    (rebindings.foldl rebindOne round).engine.tree = round.engine.tree := by
  induction rebindings generalizing round with
  | nil => rfl
  | cons rebinding rest ih =>
      rw [List.foldl_cons, ih, rebindOne, Engine.tree_rebind]

theorem engine_detachAll (round : Round κ σ) (nodes : List NodeId) :
    (nodes.foldl detachOne round).engine =
      nodes.foldl (fun engine node => (engine.detach node).engine) round.engine := by
  induction nodes generalizing round with
  | nil => rfl
  | cons node rest ih => exact ih (round.detachOne node)

theorem journal_detachAll (round : Round κ σ) (nodes : List NodeId) :
    (nodes.foldl detachOne round).journal = round.journal := by
  induction nodes generalizing round with
  | nil => rfl
  | cons node rest ih => exact ih (round.detachOne node)

end Round

end LiveBinding
