import LiveBinding.Proofs.Engine.Issuing
import LiveBinding.Proofs.Engine.Settling
import LiveBinding.Proofs.Engine.Silence

/-!
# Rebinding and binding afresh

A live subscription that is bound to another text is answered what a binding of this text on the
same node would be answered, and watches from then on what the new subscription would watch: the
same changes concern it, and the same values are due to it.  It lives on if the new subscription
would be made, with one exception: bound to a template in which there is no expression, it lives on
although nothing will ever concern it.
-/

namespace LiveBinding

/-! ### Texts without an expression -/

namespace Watched

/-- Whether there is an expression in what is watched. -/
def hasValid : Watched → Bool
  | .expr found => !found.isInvalid
  | .template found => found.hasValid

@[simp] theorem hasValid_ofText_false (text : String) :
    (ofText false text).hasValid = !(Expr.ofText text).isInvalid := rfl

/-- What has an expression in it is no text that is none. -/
theorem isReadable_of_hasValid {watched : Watched} (valid : watched.hasValid = true) :
    watched.IsReadable := by
  rintro found rfl
  exact Bool.not_inj_iff.mp valid

@[simp] theorem isTemplate_ofText (isTemplate : Bool) (text : String) :
    (ofText isTemplate text).isTemplate = isTemplate := by
  cases isTemplate <;> rfl

end Watched

/-- The subscription that a request names. -/
def Request.subscription? {κ : Type} : Request κ → Option SubscriptionId
  | .rebind id _ => some id
  | .unbind id => some id
  | _ => none

/-- The node of a subscription and what it watches there. -/
def Subscription.aim {κ : Type} (subscription : Subscription κ) : NodeId × Watched :=
  (subscription.node, subscription.watched)

/-- What is told, whoever is told it. -/
def Notification.content (notification : Notification) : NodeId × Value :=
  (notification.node, notification.value)

namespace Template

variable {template : Template} (constant : template.hasValid = false)

include constant

/-- A template without an expression reads nothing. -/
theorem paths_of_not_hasValid : template.paths = [] := by
  rw [paths, List.flatMap_eq_nil_iff]
  intro expr member
  have invalid := List.any_eq_false.mp constant expr member
  cases expr with
  | invalid => rfl
  | literal | binding | call => exact absurd rfl invalid

/-- It has the same text everywhere. -/
theorem evaluate_of_not_hasValid (registry : Registry) (left right : Scope) :
    template.evaluate registry left = template.evaluate registry right := by
  refine evaluate_congr registry fun id rest member => ?_
  rw [paths_of_not_hasValid constant] at member
  exact absurd member List.not_mem_nil

end Template

/-- Nothing is read where there is no expression. -/
theorem Watched.references_of_not_hasValid {watched : Watched} (constant : watched.hasValid = false)
    (name : String) : watched.references name = false := by
  refine Bool.eq_false_iff.mpr fun referenced => ?_
  have member := List.contains_iff_mem.mp referenced
  cases watched with
  | expr found =>
      cases found with
      | invalid => exact absurd member List.not_mem_nil
      | literal | binding | call => contradiction
  | template found =>
      obtain ⟨path, read, -⟩ := Template.mem_contextIds.mp member
      rw [Template.paths_of_not_hasValid constant] at read
      exact absurd read List.not_mem_nil

namespace Engine

variable {κ σ : Type} {engine before after : Engine κ σ} {listen : Listen κ σ}
  {id : SubscriptionId} {subscription : Subscription κ} {text : String}

/-! ### The two answers -/

/-- Bind a text of either kind. -/
def bindAs (engine : Engine κ σ) (isTemplate : Bool) (node : NodeId) (text : String)
    (listener : κ) : Step κ σ (Except Tree.Error Bound) :=
  if isTemplate then engine.bindTemplate node text listener else engine.bind node text listener

section Fresh

variable {isTemplate : Bool} {node : NodeId}

/-- A text with an expression in it gets a subscription. -/
theorem bindAs_of_hasValid (listener : κ) (present : engine.tree.contains node = true)
    (valid : (Watched.ofText isTemplate text).hasValid = true) :
    let watched := Watched.ofText isTemplate text
    ∃ journal, engine.bindAs isTemplate node text listener =
      ⟨{ engine with subscriptions := engine.subscriptions.add ⟨node, watched, listener⟩ },
        .ok ⟨some engine.subscriptions.nextId, engine.evaluateOn node watched⟩, journal⟩ := by
  cases isTemplate with
  | true =>
      have valid : (Template.ofText text).hasValid = true := valid
      exact ⟨_, by rw [bindAs, if_pos rfl, Engine.bindTemplate, if_pos valid, subscribe,
        if_pos present]; rfl⟩
  | false =>
      have valid : ¬(Expr.ofText text).isInvalid = true := by simpa using valid
      exact ⟨_, by rw [bindAs, if_neg Bool.false_ne_true, Engine.bind, if_neg valid, subscribe,
        if_pos present]; rfl⟩

/-- A text without one is a constant. -/
theorem bindAs_of_not_hasValid (listener : κ) (present : engine.tree.contains node = true)
    (constant : (Watched.ofText isTemplate text).hasValid = false) :
    ∃ journal, engine.bindAs isTemplate node text listener =
      ⟨engine, .ok ⟨none, if isTemplate then (Template.ofText text).evaluate engine.registry .empty
        else .string text⟩, journal⟩ := by
  cases isTemplate with
  | true =>
      have constant : ¬(Template.ofText text).hasValid = true := Bool.eq_false_iff.mp constant
      exact ⟨_, by rw [bindAs, if_pos rfl, Engine.bindTemplate, if_neg constant,
        if_pos present]; rfl⟩
  | false =>
      have invalid : (Expr.ofText text).isInvalid = true := by simpa using constant
      exact ⟨_, by rw [bindAs, if_neg Bool.false_ne_true, Engine.bind, if_pos invalid]; rfl⟩

end Fresh

section Rebound

variable (live : engine.subscriptions.get? id = some subscription)

include live

/-- A live subscription watches every template that it is bound to, and every text with an
expression. -/
theorem rebind_of_watched (watches : subscription.watched.isTemplate = true ∨
      (Watched.ofText subscription.watched.isTemplate text).hasValid = true) :
    let watched := Watched.ofText subscription.watched.isTemplate text
    ∃ journal, engine.rebind id text =
      ⟨{ engine with subscriptions := engine.subscriptions.retarget id watched },
        some (engine.evaluateOn subscription.node watched), journal⟩ := by
  cases kind : subscription.watched.isTemplate with
  | true => exact ⟨_, by simp only [rebind, live, kind, if_true]; rfl⟩
  | false =>
      rw [kind] at watches
      have valid : ¬(Expr.ofText text).isInvalid = true := by
        simpa using watches.resolve_left Bool.false_ne_true
      exact ⟨_, by simp only [rebind, live, kind, if_neg valid, if_neg Bool.false_ne_true]; rfl⟩

/-- A text that is no expression ends the subscription of an expression. -/
theorem rebind_of_isInvalid (kind : subscription.watched.isTemplate = false)
    (invalid : (Expr.ofText text).isInvalid = true) :
    ∃ journal, engine.rebind id text =
      ⟨{ engine with subscriptions := engine.subscriptions.remove id }, some (.string text),
        journal⟩ :=
  ⟨_, by simp only [rebind, live, kind, if_pos invalid, if_neg Bool.false_ne_true]; rfl⟩

/-- Bound to a text without an expression, a subscription is told the constant that this text is.
The one of an expression is over, and the one of a template is not. -/
theorem rebind_of_not_hasValid
    (constant : (Watched.ofText subscription.watched.isTemplate text).hasValid = false) :
    (engine.rebind id text).answer = some (if subscription.watched.isTemplate then
        (Template.ofText text).evaluate engine.registry .empty else .string text) ∧
      (engine.rebind id text).engine.subscriptions.contains id =
        subscription.watched.isTemplate := by
  cases kind : subscription.watched.isTemplate with
  | true =>
      have watches : subscription.watched.isTemplate = true ∨
          (Watched.ofText subscription.watched.isTemplate text).hasValid = true := .inl kind
      obtain ⟨journal, result⟩ := rebind_of_watched live watches
      rw [kind] at constant result
      rw [result]
      refine ⟨congrArg some (Template.evaluate_of_not_hasValid constant engine.registry _ _), ?_⟩
      rw [Subscriptions.contains, Subscriptions.get?_retarget, if_pos rfl, live]
      rfl
  | false =>
      rw [kind] at constant
      have invalid : (Expr.ofText text).isInvalid = true := by simpa using constant
      obtain ⟨journal, result⟩ := rebind_of_isInvalid live kind invalid
      rw [result]
      refine ⟨rfl, ?_⟩
      rw [Subscriptions.contains, Subscriptions.get?_remove, if_pos rfl]
      rfl

end Rebound

/-! ### Later moments -/

/-- A step in the life of an engine: what an operation does before it tells anybody, a change in a
cascade, and other operations on values. -/
inductive Moves : Engine κ σ → Engine κ σ → Prop where
  | opening {before after : Engine κ σ} : Opening before after → Moves before after
  | operations (engine : Engine κ σ) (registry : Registry) : Moves engine { engine with registry }

/-- What an engine becomes at some later moment, between operations or within them. -/
abbrev Later (before after : Engine κ σ) : Prop := Relation.ReflTransGen Moves before after

theorem later_of_evolves (changes : Evolves before after) : Later before after := by
  induction changes with
  | refl => exact .refl
  | tail _ change ih => exact ih.tail (.opening (.change change))

theorem later_perform (listen : Listen κ σ) (engine : Engine κ σ) (request : Request κ) :
    Later engine (engine.perform listen request).engine := by
  obtain ⟨opened, opening, ⟨result, -⟩ | ⟨told, result, -⟩⟩ := engine.perform_cases listen request
  · rw [result]
    exact .single (.opening opening)
  · rw [result]
    exact .head (.opening opening) (later_of_evolves (evolves_settle listen opened told))

/-- Every session leads to a later moment. -/
theorem later_afterSession (listen : Listen κ σ) (engine : Engine κ σ) (acts : List (Act κ)) :
    Later engine (engine.afterSession (perform listen) acts) :=
  afterSession_induction .refl
    (fun now request later => later.trans (later_perform listen now request))
    (fun now registry later => later.tail (.operations now registry)) acts

/-- What stays of a subscription for good: whenever it is live, it is on its node and has its
listener. -/
structure Stays (engine : Engine κ σ) (id : SubscriptionId) (node : NodeId) (listener : κ) :
    Prop where
  sound : engine.Sound
  issued : id.number ≤ engine.subscriptions.issued
  place : ∀ found, engine.subscriptions.get? id = some found →
    found.node = node ∧ found.listener = listener

namespace Stays

variable {node : NodeId} {listener : κ}

theorem opening (stays : before.Stays id node listener) (opening : Opening before after) :
    after.Stays id node listener where
  sound := stays.sound.opening opening
  issued := Nat.le_trans stays.issued (Precedes.of_opening opening stays.sound).2.1
  place found live := by
    cases opening with
    | change change =>
        obtain ⟨old, oldLive, sameNode, sameListener⟩ := get?_change stays.sound.store change live
        rw [← sameNode, ← sameListener]
        exact stays.place old oldLive
    | subscribe =>
        rw [Subscriptions.get?_add stays.sound.store, if_neg] at live
        · exact stays.place found live
        · rintro rfl
          exact Nat.not_succ_le_self _ stays.issued
    | idle | attach | put | take | setImplicit | clearImplicit => exact stays.place found live

theorem later (stays : before.Stays id node listener) (later : Later before after) :
    after.Stays id node listener := by
  induction later with
  | refl => exact stays
  | tail _ step ih =>
      cases step with
      | opening opening => exact ih.opening opening
      | operations registry => exact ⟨ih.sound.withRegistry registry, ih.issued, ih.place⟩

theorem rebind (sound : engine.Sound) (live : engine.subscriptions.get? id = some subscription)
    (text : String) :
    (engine.rebind id text).engine.Stays id subscription.node subscription.listener where
  sound := sound.rebind id text
  issued := (issued_change (.rebind engine id text)).symm ▸ sound.store.number_le live
  place found here := by
    obtain ⟨old, oldLive, node, listener, -⟩ := get?_rebind here
    cases live.symm.trans oldLive
    exact ⟨node.symm, listener.symm⟩

end Stays

/-! ### Who is concerned -/

/-- Two subscriptions, each in its engine, that watch the same on the same node of the same tree; or
both are over. -/
structure Matches (left : Engine κ σ) (id : SubscriptionId) (right : Engine κ σ)
    (other : SubscriptionId) : Prop where
  sound : left.Sound
  otherSound : right.Sound
  tree : left.tree = right.tree
  watch : (left.subscriptions.get? id).map Subscription.aim =
    (right.subscriptions.get? other).map Subscription.aim

namespace Matches

variable {left right : Engine κ σ} {other : SubscriptionId}

theorem symm (matched : Matches left id right other) : Matches right other left id :=
  ⟨matched.otherSound, matched.sound, matched.tree.symm, matched.watch.symm⟩

theorem mem_affected (matched : Matches left id right other) {owner : NodeId} {name : String}
    (concerned : id ∈ left.affected owner name) : other ∈ right.affected owner name := by
  obtain ⟨found, live, referenced, sees⟩ := (Engine.mem_affected matched.sound).mp concerned
  have watch := matched.watch
  rw [live] at watch
  obtain ⟨counterpart, otherLive, same⟩ := Option.map_eq_some_iff.mp watch.symm
  obtain ⟨node, watched⟩ := Prod.mk.inj same
  refine (Engine.mem_affected matched.otherSound).mpr ⟨counterpart, otherLive, ?_, ?_⟩
  · rw [watched, referenced]
  · rw [node, ← matched.tree, sees]

/-- The same changes concern them. -/
theorem mem_affected_iff (matched : Matches left id right other) (owner : NodeId)
    (name : String) : id ∈ left.affected owner name ↔ other ∈ right.affected owner name :=
  ⟨matched.mem_affected, matched.symm.mem_affected⟩

/-- The same values are due to them. -/
theorem due? (matched : Matches left id right other) (registry : left.registry = right.registry) :
    (left.due? id).map Notification.content = (right.due? other).map Notification.content := by
  have content : ∀ (engine : Engine κ σ) id, (engine.due? id).map Notification.content =
      ((engine.subscriptions.get? id).map Subscription.aim).map fun aim =>
        (aim.1, engine.evaluateOn aim.1 aim.2) := by
    intro engine id
    rw [Engine.due?, Option.map_map, Option.map_map]
    rfl
  have sameValues : left.evaluateOn = right.evaluateOn := by
    funext node watched
    rw [evaluateOn, evaluateOn, registry, matched.tree]
  rw [content, content, matched.watch, sameValues]

end Matches

/-- Nothing concerns whoever watches no expression. -/
theorem not_mem_affected_of_not_hasValid (sound : engine.Sound) {watched : Watched}
    (constant : watched.hasValid = false)
    (watches : ∀ found, engine.subscriptions.get? id = some found → found.watched = watched)
    (owner : NodeId) (name : String) : id ∉ engine.affected owner name := by
  rw [mem_affected sound]
  rintro ⟨found, live, referenced, -⟩
  rw [watches found live, Watched.references_of_not_hasValid constant] at referenced
  contradiction

/-! ### Runs among silent listeners -/

/-- What a subscription is told in each step of a run. -/
def reports (listen : Listen κ σ) (engine : Engine κ σ) (requests : List (Request κ))
    (id : SubscriptionId) : List (List (NodeId × Value)) :=
  (engine.steps listen requests).map fun step =>
    (Event.toldTo id step.journal).map Notification.content

/-- A binding changes nothing but the subscriptions. -/
theorem engine_of_bindsOrNot {node : NodeId} {watched : Watched} {listener : κ}
    {step : Step κ σ (Except Tree.Error Bound)}
    (binds : engine.BindsOrNot node watched listener step) :
    ∃ subscriptions, step.engine = { engine with subscriptions } := by
  obtain ⟨-, ⟨same, -⟩ | ⟨-, -, result, -⟩⟩ := binds
  · exact ⟨_, same⟩
  · exact ⟨_, result⟩

/-- So does a rebinding. -/
theorem engine_rebind (engine : Engine κ σ) (id : SubscriptionId) (text : String) :
    ∃ subscriptions, (engine.rebind id text).engine = { engine with subscriptions } := by
  obtain ⟨-, result⟩ | ⟨_, _, -, -, ⟨_, -, -, result⟩ | ⟨_, result⟩⟩ := engine.rebind_cases id text
  all_goals exact ⟨_, congrArg Step.engine result⟩

section Mute

variable {opened : Engine κ σ} {told : List SubscriptionId} {request : Request κ}

variable (mute : ∀ listener notification memory, (listen listener notification memory).1 = [])

include mute

/-- Among silent listeners an operation is over with its first round. -/
theorem perform_of_opened? (opens : engine.opened? request = some (opened, told)) :
    ∃ memory, (engine.perform listen request).engine = { opened with memory } ∧
      (engine.perform listen request).journal = (told.filterMap opened.due?).map .notified := by
  have silent : opened.Silent listen := fun _ _ _ => mute _
  obtain ⟨memory, settled⟩ := settle_of_silent_listeners silent told
  have cascade := ((perform_opened listen engine request).1 opened told opens).result
  rw [settled, Prod.mk.injEq] at cascade
  exact ⟨memory, cascade⟩

theorem settle_of_mute (engine : Engine κ σ) (told : List SubscriptionId) :
    ∃ memory, (settle listen engine told).1 = { engine with memory } := by
  obtain ⟨memory, settled⟩ := settle_of_silent_listeners (fun _ _ _ => mute _) told
  exact ⟨memory, congrArg Prod.fst settled⟩

theorem subscriptions_settle_of_mute (engine : Engine κ σ) (told : List SubscriptionId) :
    (settle listen engine told).1.subscriptions = engine.subscriptions := by
  obtain ⟨memory, settled⟩ := settle_of_mute mute engine told
  rw [settled]

/-- Among silent listeners a subscription that is not named is left alone, unless a node is
detached. -/
theorem get?_perform_of_mute (sound : engine.Sound)
    (issued : id.number ≤ engine.subscriptions.issued)
    (unnamed : request.subscription? ≠ some id) (staying : ∀ node, request ≠ .detach node) :
    (engine.perform listen request).engine.subscriptions.get? id =
      engine.subscriptions.get? id := by
  have notNew : id ≠ engine.subscriptions.nextId := by
    rintro rfl
    exact Nat.not_succ_le_self _ issued
  have bound : ∀ {node watched listener} {step : Step κ σ (Except Tree.Error Bound)},
      engine.BindsOrNot node watched listener step →
        step.engine.subscriptions.get? id = engine.subscriptions.get? id := by
    rintro node watched listener step ⟨-, ⟨same, -⟩ | ⟨-, -, result, -⟩⟩
    · rw [same]
    · rw [result, Subscriptions.get?_add sound.store, if_neg notNew]
  cases request with
  | detach node => exact absurd rfl (staying node)
  | bind node text listener => exact bound (engine.bind_bindsOrNot node text listener)
  | bindTemplate node text listener =>
      exact bound (engine.bindTemplate_bindsOrNot node text listener)
  | unbind other =>
      have different : id ≠ other := fun same => unnamed (congrArg some same.symm)
      rw [perform, Step.map, get?_unbind, if_neg different]
  | rebind other text =>
      have different : id ≠ other := fun same => unnamed (congrArg some same.symm)
      rw [perform, Step.map]
      obtain ⟨-, result⟩ | ⟨_, _, -, -, ⟨watched, -, -, result⟩ | ⟨_, result⟩⟩ :=
        engine.rebind_cases other text
      all_goals rw [result]
      · rw [Subscriptions.get?_retarget, if_neg different]
      · rw [Subscriptions.get?_remove, if_neg different]
  | attach parent =>
      rw [perform, Step.map, Engine.attach]
      cases engine.tree.attach parent <;> rfl
  | addImplicit node sender context =>
      rw [perform, Step.map, Engine.addImplicit]
      cases engine.tree.setImplicit node sender context <;> rfl
  | clearImplicit sender => rfl
  | write request =>
      rw [perform, Step.map, Engine.write]
      cases engine.writeTree request with
      | error => rfl
      | ok => exact congrArg (·.get? id) (subscriptions_settle_of_mute mute _ _)
  | declare node context =>
      rw [perform, Step.map, Engine.declare]
      cases engine.tree.declare node context with
      | error => rfl
      | ok => exact congrArg (·.get? id) (subscriptions_settle_of_mute mute _ _)
  | removeContext node name =>
      rw [perform, Step.map, Engine.removeContext]
      cases engine.tree.removeContext node name with
      | none => rfl
      | some => exact congrArg (·.get? id) (subscriptions_settle_of_mute mute _ _)

/-- Among silent listeners the subscriptions have no part in what becomes of the rest. -/
theorem perform_beside_of_mute (engine : Engine κ σ) (store : Subscriptions κ) (memory : σ)
    (request : Request κ) :
    ∃ store' memory',
      (perform listen { engine with subscriptions := store, memory } request).engine =
        { (engine.perform listen request).engine with
          subscriptions := store', memory := memory' } := by
  have settled : ∀ (tree : Tree) (told told' : List SubscriptionId), ∃ store' memory',
      (settle listen { engine with tree, subscriptions := store, memory } told').1 =
        { (settle listen { engine with tree } told).1 with
          subscriptions := store', memory := memory' } := by
    intro tree told told'
    obtain ⟨left, result⟩ := settle_of_mute mute { engine with tree } told
    obtain ⟨right, result'⟩ :=
      settle_of_mute mute { engine with tree, subscriptions := store, memory } told'
    exact ⟨store, right, by rw [result, result']⟩
  cases request with
  | write request =>
      have sameTree : writeTree { engine with subscriptions := store, memory } request =
        engine.writeTree request := rfl
      rw [perform, Step.map, Engine.write, perform, Step.map, Engine.write, sameTree]
      cases engine.writeTree request with
      | error => exact ⟨store, memory, rfl⟩
      | ok result => exact settled result.2 _ _
  | declare node context =>
      rw [perform, Step.map, Engine.declare, perform, Step.map, Engine.declare]
      cases engine.tree.declare node context with
      | error => exact ⟨store, memory, rfl⟩
      | ok result => exact settled result.2 _ _
  | removeContext node name =>
      rw [perform, Step.map, Engine.removeContext, perform, Step.map, Engine.removeContext]
      cases engine.tree.removeContext node name with
      | none => exact ⟨store, memory, rfl⟩
      | some result => exact settled result.2 _ _
  | attach parent =>
      rw [perform, Step.map, Engine.attach, perform, Step.map, Engine.attach]
      cases engine.tree.attach parent with
      | error => exact ⟨store, memory, rfl⟩
      | ok => exact ⟨store, memory, rfl⟩
  | addImplicit node sender context =>
      rw [perform, Step.map, Engine.addImplicit, perform, Step.map, Engine.addImplicit]
      cases engine.tree.setImplicit node sender context with
      | error => exact ⟨store, memory, rfl⟩
      | ok => exact ⟨store, memory, rfl⟩
  | detach | clearImplicit | unbind => exact ⟨_, _, rfl⟩
  | bind node text listener =>
      obtain ⟨left, result⟩ := engine_of_bindsOrNot (engine.bind_bindsOrNot node text listener)
      obtain ⟨right, result'⟩ := engine_of_bindsOrNot
        (bind_bindsOrNot { engine with subscriptions := store, memory } node text listener)
      exact ⟨right, memory, by simp only [perform, Step.map, result, result']⟩
  | bindTemplate node text listener =>
      obtain ⟨left, result⟩ :=
        engine_of_bindsOrNot (engine.bindTemplate_bindsOrNot node text listener)
      obtain ⟨right, result'⟩ := engine_of_bindsOrNot
        (bindTemplate_bindsOrNot { engine with subscriptions := store, memory } node text listener)
      exact ⟨right, memory, by simp only [perform, Step.map, result, result']⟩
  | rebind id text =>
      obtain ⟨left, result⟩ := engine.engine_rebind id text
      obtain ⟨right, result'⟩ :=
        engine_rebind { engine with subscriptions := store, memory } id text
      exact ⟨right, memory, by simp only [perform, Step.map, result, result']⟩

end Mute

theorem get?_removeOn {store : Subscriptions κ} (ordered : store.Ordered) (nodes : List NodeId) :
    (store.removeOn nodes).get? id =
      (store.get? id).filter fun found => !nodes.contains found.node := by
  apply Option.ext
  intro found
  rw [Subscriptions.get?_removeOn_eq_some_iff ordered, Option.filter_eq_some_iff]
  simp

/-- Two engines that differ at most in their subscriptions and in what is remembered, and in which
two subscriptions match. -/
structure Peers (left : Engine κ σ) (id : SubscriptionId) (right : Engine κ σ)
    (other : SubscriptionId) : Prop extends Matches left id right other where
  issued : id.number ≤ left.subscriptions.issued
  otherIssued : other.number ≤ right.subscriptions.issued
  beside : ∃ store memory, right = { left with subscriptions := store, memory }

namespace Peers

variable {left right : Engine κ σ} {other : SubscriptionId} {request : Request κ}
  (mute : ∀ listener notification memory, (listen listener notification memory).1 = [])

theorem withTree (peers : Peers left id right other) {tree : Tree}
    (sound : ({ left with tree } : Engine κ σ).Sound)
    (otherSound : ({ right with tree } : Engine κ σ).Sound) :
    Peers { left with tree } id { right with tree } other where
  sound := sound
  otherSound := otherSound
  tree := rfl
  watch := peers.watch
  issued := peers.issued
  otherIssued := peers.otherIssued
  beside := by
    obtain ⟨store, memory, rfl⟩ := peers.beside
    exact ⟨store, memory, rfl⟩

/-- An operation opens a cascade in both engines or in neither, and it concerns both of them or
neither. -/
theorem opened? (peers : Peers left id right other) (request : Request κ) :
    (left.opened? request = none ∧ right.opened? request = none) ∨
      ∃ opened told counterpart toldThere,
        left.opened? request = some (opened, told) ∧
        right.opened? request = some (counterpart, toldThere) ∧
        told.Nodup ∧ toldThere.Nodup ∧ (id ∈ told ↔ other ∈ toldThere) ∧
        Peers opened id counterpart other := by
  have nodup := @nodup_affected κ σ
  cases request with
  | write request =>
      have sameTree : right.writeTree request = left.writeTree request := by
        obtain ⟨store, memory, rfl⟩ := peers.beside
        rfl
      rw [Engine.opened?, Engine.opened?, sameTree]
      cases written : left.writeTree request with
      | error => exact .inl ⟨rfl, rfl⟩
      | ok result =>
          obtain ⟨owner, tree⟩ := result
          have opened := peers.withTree (peers.sound.change (.write written))
            (peers.otherSound.change (.write (sameTree.trans written)))
          exact .inr ⟨_, _, _, _, rfl, rfl, nodup opened.sound _ _, nodup opened.otherSound _ _,
            opened.mem_affected_iff owner request.contextId, opened⟩
  | declare node context =>
      rw [Engine.opened?, Engine.opened?, ← peers.tree]
      cases declared : left.tree.declare node context with
      | error => exact .inl ⟨rfl, rfl⟩
      | ok result =>
          obtain ⟨-, rfl⟩ := Tree.declare_eq_ok_iff.mp declared
          have opened := peers.withTree (peers.sound.withContext node context)
            (peers.tree ▸ peers.otherSound.withContext node context)
          exact .inr ⟨_, _, _, _, rfl, rfl, nodup opened.sound _ _, nodup opened.otherSound _ _,
            opened.mem_affected_iff node context.id, opened⟩
  | removeContext node name =>
      rw [Engine.opened?, Engine.opened?, ← peers.tree]
      cases removed : left.tree.removeContext node name with
      | none => exact .inl ⟨rfl, rfl⟩
      | some result =>
          obtain ⟨context, tree⟩ := result
          obtain ⟨-, rfl⟩ := Tree.removeContext_eq_some_iff.mp removed
          have opened := peers.withTree (peers.sound.withoutContext node name)
            (peers.tree ▸ peers.otherSound.withoutContext node name)
          exact .inr ⟨_, _, _, _, rfl, rfl, nodup peers.sound _ _, nodup peers.otherSound _ _,
            peers.mem_affected_iff node name, opened⟩
  | attach | detach | addImplicit | clearImplicit | bind | bindTemplate | rebind | unbind =>
      exact .inl ⟨rfl, rfl⟩

include mute

/-- Peers stay peers in every operation that names neither of them. -/
theorem perform (peers : Peers left id right other) (unnamed : request.subscription? ≠ some id)
    (otherUnnamed : request.subscription? ≠ some other) :
    Peers (left.perform listen request).engine id (right.perform listen request).engine other := by
  have ⟨⟨sound, otherSound, tree, watch⟩, issued, otherIssued, ⟨store, memory, beside⟩⟩ := peers
  obtain ⟨soundAfter, more, -⟩ := (passes_actCalls listen left (.request request)).whole sound
  obtain ⟨otherSoundAfter, otherMore, -⟩ :=
    (passes_actCalls listen right (.request request)).whole otherSound
  obtain ⟨storeAfter, memoryAfter, besideAfter⟩ :=
    perform_beside_of_mute mute left store memory request
  rw [← beside] at besideAfter
  refine ⟨⟨soundAfter, otherSoundAfter, (congrArg Engine.tree besideAfter).symm, ?_⟩,
    Nat.le_trans issued more, Nat.le_trans otherIssued otherMore, storeAfter, memoryAfter,
    besideAfter⟩
  by_cases detaches : ∃ node, request = .detach node
  · obtain ⟨node, rfl⟩ := detaches
    change ((left.subscriptions.removeOn (left.tree.subtree node)).get? id).map _ =
      ((right.subscriptions.removeOn (right.tree.subtree node)).get? other).map _
    rw [get?_removeOn sound.store, get?_removeOn otherSound.store, ← tree]
    have outside : ∀ subscription : Option (Subscription κ),
        (subscription.filter fun found => !(left.tree.subtree node).contains found.node).map
            Subscription.aim =
          (subscription.map Subscription.aim).filter
            fun aim => !(left.tree.subtree node).contains aim.1 := by
      intro subscription
      rw [Option.filter_map]
      rfl
    rw [outside, outside, watch]
  · have staying : ∀ node, request ≠ .detach node := fun node same => detaches ⟨node, same⟩
    rw [get?_perform_of_mute mute sound issued unnamed staying,
      get?_perform_of_mute mute otherSound otherIssued otherUnnamed staying, watch]

/-- Peers are told the same. -/
theorem told (peers : Peers left id right other) (request : Request κ) :
    (Event.toldTo id (left.perform listen request).journal).map Notification.content =
      (Event.toldTo other (right.perform listen request).journal).map Notification.content := by
  obtain ⟨quiet, otherQuiet⟩ | ⟨opened, told, counterpart, toldThere, opens, otherOpens, distinct,
    otherDistinct, concerned, peersOpened⟩ := peers.opened? request
  · have nothing : ∀ (engine : Engine κ σ) id, engine.opened? request = none →
        Event.toldTo id (engine.perform listen request).journal = [] := by
      intro engine id unopened
      have calls := ((perform_opened listen engine request).2 unopened).calls
      rw [Event.toldTo, notifications_perform, calls]
      rfl
    rw [nothing left id quiet, nothing right other otherQuiet]
  · obtain ⟨memory, -, journal⟩ := perform_of_opened? mute opens
    obtain ⟨otherMemory, -, otherJournal⟩ := perform_of_opened? mute otherOpens
    rw [journal, otherJournal, toldTo_due? distinct, toldTo_due? otherDistinct]
    have sameRegistry : opened.registry = counterpart.registry := by
      obtain ⟨store, memory, rfl⟩ := peersOpened.beside
      rfl
    have due := congrArg Option.toList (peersOpened.due? sameRegistry)
    rw [Option.toList_map, Option.toList_map] at due
    by_cases here : id ∈ told
    · rw [if_pos here, if_pos (concerned.mp here), due]
    · rw [if_neg here, if_neg fun there => here (concerned.mpr there)]

/-- Peers are told the same in every step of every run that names neither of them. -/
theorem reports (peers : Peers left id right other) {requests : List (Request κ)}
    (unnamed : ∀ request ∈ requests,
      request.subscription? ≠ some id ∧ request.subscription? ≠ some other) :
    left.reports listen requests id = right.reports listen requests other := by
  induction requests generalizing left right with
  | nil => rfl
  | cons request rest ih =>
      have ⟨thisNot, otherNot⟩ := unnamed request List.mem_cons_self
      have later := ih (peers.perform mute thisNot otherNot) fun request member =>
        unnamed request (List.mem_cons_of_mem _ member)
      exact congrArg₂ List.cons (peers.told mute request) later

end Peers

/-! ### The comparison -/

/-- A live subscription that watches something. -/
def Watches (engine : Engine κ σ) (id : SubscriptionId) (watched : Watched) : Prop :=
  ∃ found, engine.subscriptions.get? id = some found ∧ found.watched = watched

/-- A subscription of one engine and one of another, which watch the same to begin with, are told of
the same changes. -/
structure KeepsPace (listen : Listen κ σ) (left : Engine κ σ) (id : SubscriptionId)
    (right : Engine κ σ) (other : SubscriptionId) (watched : Watched) : Prop where
  starts : left.Watches id watched
  otherStarts : right.Watches other watched
  /-- Whatever has happened in the two engines since, and whatever listeners asked for: while both
  are live and were not bound to other texts, a change in the same tree concerns both or neither. -/
  concerned : ∀ now there, Later left now → Later right there → now.Watches id watched →
    there.Watches other watched → now.tree = there.tree → ∀ owner name,
      id ∈ now.affected owner name ↔ other ∈ there.affected owner name
  /-- The same values are due to them. -/
  due : ∀ now there, Later left now → Later right there → now.Watches id watched →
    there.Watches other watched → now.tree = there.tree → now.registry = there.registry →
      (now.due? id).map Notification.content = (there.due? other).map Notification.content
  /-- Among listeners that ask for nothing, both are told the same in every step of every run that
  names neither of them. -/
  reports : (∀ listener notification memory, (listen listener notification memory).1 = []) →
    ∀ requests : List (Request κ), (∀ request ∈ requests,
      request.subscription? ≠ some id ∧ request.subscription? ≠ some other) →
        left.reports listen requests id = right.reports listen requests other

theorem Stays.matches {left right now there : Engine κ σ} {other : SubscriptionId} {node : NodeId}
    {listener newcomer : κ} {watched : Watched} (stays : left.Stays id node listener)
    (otherStays : right.Stays other node newcomer) (later : Later left now)
    (laterThere : Later right there) (watches : now.Watches id watched)
    (otherWatches : there.Watches other watched) (tree : now.tree = there.tree) :
    Matches now id there other := by
  obtain ⟨found, live, rfl⟩ := watches
  obtain ⟨counterpart, otherLive, same⟩ := otherWatches
  have here := stays.later later
  have there := otherStays.later laterThere
  refine ⟨here.sound, there.sound, tree, ?_⟩
  rw [live, otherLive, Option.map_some, Option.map_some, Subscription.aim, Subscription.aim, same,
    (here.place found live).1, (there.place counterpart otherLive).1]

theorem Peers.keepsPace {left right : Engine κ σ} {other : SubscriptionId} {node : NodeId}
    {listener newcomer : κ} {watched : Watched} (peers : Peers left id right other)
    (stays : left.Stays id node listener) (otherStays : right.Stays other node newcomer)
    (starts : left.Watches id watched) (otherStarts : right.Watches other watched) :
    KeepsPace listen left id right other watched where
  starts := starts
  otherStarts := otherStarts
  concerned _ _ later laterThere watches otherWatches tree :=
    (stays.matches otherStays later laterThere watches otherWatches tree).mem_affected_iff
  due _ _ later laterThere watches otherWatches tree :=
    (stays.matches otherStays later laterThere watches otherWatches tree).due?
  reports mute _ unnamed := peers.reports mute unnamed

/-- A subscription that watches another text keeps pace with a new one that watches it. -/
theorem keepsPace_retarget_add (sound : engine.Sound)
    (live : engine.subscriptions.get? id = some subscription) {watched : Watched}
    (valid : watched.hasValid = true) (newcomer : κ)
    (stays : Stays { engine with subscriptions := engine.subscriptions.retarget id watched } id
      subscription.node subscription.listener) :
    KeepsPace listen { engine with subscriptions := engine.subscriptions.retarget id watched } id
      { engine with
        subscriptions := engine.subscriptions.add ⟨subscription.node, watched, newcomer⟩ }
      engine.subscriptions.nextId watched := by
  have retargeted : (engine.subscriptions.retarget id watched).get? id =
      some { subscription with watched } := by
    rw [Subscriptions.get?_retarget, if_pos rfl, live, Option.map_some]
  have added : (engine.subscriptions.add ⟨subscription.node, watched, newcomer⟩).get?
      engine.subscriptions.nextId = some ⟨subscription.node, watched, newcomer⟩ := by
    rw [Subscriptions.get?_add sound.store, if_pos rfl]
  have soundThere : Sound { engine with
      subscriptions := engine.subscriptions.add ⟨subscription.node, watched, newcomer⟩ } :=
    sound.add (sound.onNodes id subscription live) (Watched.isReadable_of_hasValid valid)
  have otherStays : Stays { engine with
      subscriptions := engine.subscriptions.add ⟨subscription.node, watched, newcomer⟩ }
      engine.subscriptions.nextId subscription.node newcomer := by
    refine ⟨soundThere, Nat.le_refl _, fun found here => ?_⟩
    cases added.symm.trans here
    exact ⟨rfl, rfl⟩
  have matched : Subscription.aim { subscription with watched } =
      Subscription.aim ⟨subscription.node, watched, newcomer⟩ := rfl
  refine Peers.keepsPace ⟨⟨stays.sound, soundThere, rfl, ?_⟩, stays.issued, otherStays.issued,
    _, _, rfl⟩ stays otherStays ⟨_, retargeted, rfl⟩ ⟨_, added, rfl⟩
  rw [retargeted, added, Option.map_some, Option.map_some, matched]

/-- A live subscription that is bound to another text is answered the value that a binding of this
text on the same node would be answered.  If this binding would make a subscription, the old one
lives on and is told of the same changes from then on.  If it would make none, nothing concerns the
old one any more; it is over, unless it is the subscription of a template: then it lives on. -/
theorem rebind_as_bind (reached : Reached listen engine)
    (live : engine.subscriptions.get? id = some subscription) (text : String) (newcomer : κ) :
    let watched := Watched.ofText subscription.watched.isTemplate text
    let fresh := engine.bindAs subscription.watched.isTemplate subscription.node text newcomer
    let rebound := engine.rebind id text
    ∃ bound, fresh.answer = .ok bound ∧ rebound.answer = some bound.value ∧
      (rebound.engine.subscriptions.contains id = true ↔
        bound.subscription.isSome = true ∨
          watched.isTemplate = true ∧ watched.hasValid = false) ∧
      (bound.subscription = none → ∀ later, Later rebound.engine later →
        (∀ found, later.subscriptions.get? id = some found → found.watched = watched) →
          ∀ owner name, id ∉ later.affected owner name) ∧
      ∀ other, bound.subscription = some other →
        KeepsPace listen rebound.engine id fresh.engine other watched := by
  intro watched fresh rebound
  have sound := reached.sound
  have present := sound.onNodes id subscription live
  have stays : rebound.engine.Stays id subscription.node subscription.listener :=
    .rebind sound live text
  have retargeted : (engine.subscriptions.retarget id watched).contains id = true := by
    rw [Subscriptions.contains, Subscriptions.get?_retarget, if_pos rfl, live]
    rfl
  cases valid : watched.hasValid with
  | true =>
      obtain ⟨freshJournal, freshResult⟩ := bindAs_of_hasValid newcomer present valid
      obtain ⟨journal, result⟩ := rebind_of_watched live (.inr valid)
      refine ⟨_, congrArg Step.answer freshResult, congrArg Step.answer result,
        iff_of_true ?_ (.inl rfl), fun impossible => by contradiction, ?_⟩
      · exact (congrArg (·.engine.subscriptions.contains id) result).trans retargeted
      · rintro other same
        cases same
        have stays := congrArg Step.engine result ▸ stays
        rw [show rebound = _ from result, show fresh = _ from freshResult]
        exact keepsPace_retarget_add sound live valid newcomer stays
  | false =>
      obtain ⟨freshJournal, freshResult⟩ := bindAs_of_not_hasValid newcomer present valid
      refine ⟨_, congrArg Step.answer freshResult, ?_, ?_, fun _ later moved watches =>
        not_mem_affected_of_not_hasValid (stays.later moved).sound valid watches,
        fun _ impossible => by contradiction⟩
      · exact (rebind_of_not_hasValid live valid).1
      · rw [(rebind_of_not_hasValid live valid).2]
        simp [watched]

/-- A subscription that moves from one context to another, and a template that is bound to plain
text.  Listeners end their subscriptions when they are told. -/
theorem rebind_as_bind_plain :
    let top : NodeId := ⟨0, 0⟩
    let low : NodeId := ⟨1, 0⟩
    let listen : Listen Unit Unit := fun _ told memory => ([.unbind told.subscription], memory)
    let start : Engine Unit Unit := Engine.new {} ()
    let engine := start.run listen
      [.attach none, .attach (some top), .declare top ⟨"c", .null⟩, .declare top ⟨"d", .bool true⟩,
        .bind low "c" (), .bindTemplate low "@{c}" ()]
    Reached listen engine ∧
      (engine.subscriptions.get? ⟨1⟩ = some ⟨low, .ofText false "c", ()⟩ ∧
        (engine.rebind ⟨1⟩ "d").answer = some (.bool true) ∧
        KeepsPace listen (engine.rebind ⟨1⟩ "d").engine ⟨1⟩ (engine.bind low "d" ()).engine ⟨3⟩
          (.ofText false "d")) ∧
      engine.subscriptions.get? ⟨2⟩ = some ⟨low, .ofText true "@{c}", ()⟩ ∧
        (engine.rebind ⟨2⟩ "plain").engine.subscriptions.contains ⟨2⟩ = true ∧
        (engine.bindTemplate low "plain" ()).engine.subscriptions.size = 2 ∧
        ∀ owner name, ⟨2⟩ ∉ (engine.rebind ⟨2⟩ "plain").engine.affected owner name := by
  intro top low listen start engine
  have reached : Reached listen engine := (Reached.new {} ()).run _
  have first : engine.subscriptions.get? ⟨1⟩ = some ⟨low, .ofText false "c", ()⟩ := by
    decide +kernel
  have second : engine.subscriptions.get? ⟨2⟩ = some ⟨low, .ofText true "@{c}", ()⟩ := by
    decide +kernel
  obtain ⟨bound, answer, sameValue, -, -, pace⟩ := rebind_as_bind reached first "d" ()
  have fresh : (engine.bindAs false low "d" ()).answer = .ok ⟨some ⟨3⟩, .bool true⟩ := by
    decide +kernel
  cases fresh.symm.trans answer
  obtain ⟨constant, constantAnswer, -, lives, deaf, -⟩ := rebind_as_bind reached second "plain" ()
  have noExpression : (Watched.ofText true "plain").hasValid = false := by decide +kernel
  have watches : (engine.rebind ⟨2⟩ "plain").engine.subscriptions.get? ⟨2⟩ =
      some ⟨low, .ofText true "plain", ()⟩ := by decide +kernel
  have unbound : constant.subscription = none := by
    have none : (engine.bindAs true low "plain" ()).answer.toOption.bind Bound.subscription =
        none := by decide +kernel
    rw [show (engine.bindAs true low "plain" ()).answer = .ok constant from constantAnswer] at none
    exact none
  refine ⟨reached, ⟨first, sameValue, pace ⟨3⟩ rfl⟩, second, lives.mpr (.inr ⟨rfl, noExpression⟩),
    by decide +kernel, deaf unbound _ .refl fun found live => ?_⟩
  cases watches.symm.trans live
  rfl

end Engine

end LiveBinding
