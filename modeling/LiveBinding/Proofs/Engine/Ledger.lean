import LiveBinding.Proofs.Engine.Soundness
import LiveBinding.Proofs.Evaluation

/-!
# What subscribers were told

From outside an engine one sees what is requested of it, its answers, and its journal.  This is
enough to keep a ledger of the subscriptions: which text each one watches, and which value it was
told last.  A ledger covers an engine if it knows every live subscription, and if the values in
it are the present ones, apart from those that are still to be told.
-/

namespace LiveBinding

/-- What is known of a subscription: its kind, its text, and the value reported last unless the
text was changed on behalf of a listener since. -/
structure Standing where
  isTemplate : Bool
  text : String
  reported : Option Value

/-- What is known of all the subscriptions that there ever were. -/
abbrev Ledger := SubscriptionId → Option Standing

namespace Ledger

/-- Nothing is known. -/
def empty : Ledger := fun _ => none

/-- A subscription of which everything is known anew. -/
def enter (ledger : Ledger) (id : SubscriptionId) (standing : Standing) : Ledger :=
  fun other => if other = id then some standing else ledger other

/-- Correct what is known of a subscription. -/
def amend (ledger : Ledger) (id : SubscriptionId) (change : Standing → Standing) : Ledger :=
  fun other => if other = id then (ledger other).map change else ledger other

/-- Take note of an event. -/
def note (ledger : Ledger) : Event → Ledger
  | .notified told =>
    ledger.amend told.subscription fun standing => { standing with reported := some told.value }
  | .rebound id text =>
    ledger.amend id fun standing => { standing with text, reported := none }
  | _ => ledger

/-- Take note of a journal. -/
def noteAll (ledger : Ledger) (journal : List Event) : Ledger := journal.foldl note ledger

/-- Take note of the answer to a binding of a text. -/
def noteBound (ledger : Ledger) (isTemplate : Bool) (text : String) :
    Except Tree.Error Bound → Ledger
  | .ok ⟨some id, value⟩ => ledger.enter id ⟨isTemplate, text, some value⟩
  | _ => ledger

/-- Take note of an answer. -/
def noteAnswer {κ : Type} (ledger : Ledger) : Request κ → Answer → Ledger
  | .bind _ text _, .bound result => ledger.noteBound false text result
  | .bindTemplate _ text _, .bound result => ledger.noteBound true text result
  | .rebind id _, .rebound (some value) =>
    ledger.amend id fun standing => { standing with reported := some value }
  | _, _ => ledger

/-- Take note of a run from its beginning to its end. -/
def noteRun {κ σ : Type} (listen : Listen κ σ) :
    Engine κ σ → List (Request κ) → Ledger → Ledger
  | _, [], ledger => ledger
  | engine, request :: rest, ledger =>
    let step := engine.perform listen request
    noteRun listen step.engine rest ((ledger.noteAll step.journal).noteAnswer request step.answer)

@[simp] theorem noteAll_nil (ledger : Ledger) : ledger.noteAll [] = ledger := rfl

@[simp] theorem noteAll_append (ledger : Ledger) (earlier later : List Event) :
    ledger.noteAll (earlier ++ later) = (ledger.noteAll earlier).noteAll later :=
  List.foldl_append

@[simp] theorem noteAll_cons (ledger : Ledger) (event : Event) (journal : List Event) :
    ledger.noteAll (event :: journal) = (ledger.note event).noteAll journal := rfl

/-- Texts that could not be read change nothing. -/
theorem noteAll_of_isAboutText (ledger : Ledger) {journal : List Event}
    (aboutText : ∀ event ∈ journal, event.isAboutText = true) :
    ledger.noteAll journal = ledger := by
  induction journal with
  | nil => rfl
  | cons event rest ih =>
      have noted : ledger.note event = ledger := by
        have about := aboutText event List.mem_cons_self
        cases event with
        | unreadable | unreadablePart => rfl
        | notified | rebound | queued | written | refused | limitReached => contradiction
      rw [noteAll_cons, noted]
      exact ih fun other member => aboutText other (List.mem_cons_of_mem event member)

end Ledger

/-! ### Covering an engine -/

/-- What is known of a subscription is right.  A value that was reported is the present one, if
this is called for. -/
structure Standing.Describes (standing : Standing) (watched : Watched) (present : Value)
    (fresh : Prop) : Prop where
  watched : watched = .ofText standing.isTemplate standing.text
  reported : fresh → ∀ value, standing.reported = some value → value = present

/-- Every live subscription is known, with its present value if it is not among the pending
ones. -/
def Ledger.Covers {κ σ : Type} (ledger : Ledger) (engine : Engine κ σ)
    (pending : SubscriptionId → Prop) : Prop :=
  ∀ id subscription, engine.subscriptions.get? id = some subscription →
    ∃ standing, ledger id = some standing ∧
      standing.Describes subscription.watched
        (engine.evaluateOn subscription.node subscription.watched) (¬pending id)

namespace Ledger.Covers

variable {κ σ : Type} {ledger : Ledger} {engine before after : Engine κ σ}
variable {pending still : SubscriptionId → Prop}

/-- A ledger still covers an engine in which there are no new subscriptions, and in which only
pending ones have other values than before. -/
theorem of_fewer (covers : ledger.Covers before pending)
    (fewer : ∀ id subscription, after.subscriptions.get? id = some subscription →
      before.subscriptions.get? id = some subscription)
    (same : ∀ id subscription, after.subscriptions.get? id = some subscription → ¬still id →
      ¬pending id ∧ after.evaluateOn subscription.node subscription.watched =
        before.evaluateOn subscription.node subscription.watched) :
    ledger.Covers after still := by
  intro id subscription live
  obtain ⟨standing, known, describes⟩ := covers id subscription (fewer id subscription live)
  refine ⟨standing, known, describes.watched, fun settled value reported => ?_⟩
  obtain ⟨settledBefore, unchanged⟩ := same id subscription live settled
  rw [unchanged]
  exact describes.reported settledBefore value reported

/-- Fewer may be pending if the others are gone. -/
theorem mono (covers : ledger.Covers engine pending)
    (fewer : ∀ id subscription, engine.subscriptions.get? id = some subscription → pending id →
      still id) : ledger.Covers engine still :=
  covers.of_fewer (fun _ _ live => live) fun id subscription live settled =>
    ⟨fun waiting => settled (fewer id subscription live waiting), rfl⟩

/-- Another tree leaves those up to date that see in it what they saw before. -/
theorem withTree (covers : ledger.Covers engine fun _ => False) {tree : Tree}
    (same : ∀ id subscription, engine.subscriptions.get? id = some subscription → ¬still id →
      ∀ name, subscription.watched.references name = true →
        (tree.scope subscription.node).find? name =
          (engine.tree.scope subscription.node).find? name) :
    ledger.Covers { engine with tree } still :=
  covers.of_fewer (fun _ _ live => live) fun id subscription live settled =>
    ⟨not_false, Watched.evaluate_congr engine.registry (same id subscription live settled)⟩

theorem unbind (covers : ledger.Covers engine pending) (id : SubscriptionId) :
    ledger.Covers (engine.unbind id).engine pending := by
  refine covers.of_fewer (fun other subscription live => ?_) fun other _ _ settled =>
    ⟨settled, rfl⟩
  rw [Engine.get?_unbind] at live
  split at live
  · contradiction
  · exact live

theorem detach (covers : ledger.Covers engine pending) (sound : engine.Sound) (node : NodeId) :
    ledger.Covers (engine.detach node).engine pending := by
  refine covers.of_fewer
    (fun id subscription live => ((Engine.get?_detach_eq_some_iff sound).mp live).1) ?_
  intro id subscription live settled
  exact ⟨settled, Engine.evaluateOn_detach sound live⟩

/-- A rebinding is noted with the new text, and nothing is reported of it yet. -/
theorem rebind (covers : ledger.Covers engine pending) (id : SubscriptionId) (text : String) :
    (ledger.noteAll (engine.rebind id text).journal).Covers (engine.rebind id text).engine
      pending := by
  obtain ⟨-, result⟩ | ⟨current, warnings, live, aboutText,
    ⟨watched, meaning, -, result⟩ | ⟨value, result⟩⟩ := engine.rebind_cases id text
  · rw [result]
    exact covers
  · rw [result, noteAll_append, noteAll_of_isAboutText _ aboutText]
    intro other subscription found
    simp only [Subscriptions.get?_retarget, live, Option.map_some] at found
    rw [noteAll_cons, noteAll_nil, note, amend]
    by_cases this : other = id
    · subst this
      rw [if_pos rfl, Option.some.injEq] at found
      obtain ⟨standing, known, describes⟩ := covers other current live
      rw [if_pos rfl, known, ← found]
      refine ⟨_, rfl, ?_, fun _ value reported => nomatch reported⟩
      rw [meaning, describes.watched]
      cases standing.isTemplate <;> rfl
    · rw [if_neg this] at found ⊢
      exact covers other subscription found
  · rw [result, noteAll_of_isAboutText _ aboutText]
    exact covers.unbind id

/-- The answer to a rebinding is its report. -/
theorem rebind_answered (covers : ledger.Covers engine fun _ => False) (id : SubscriptionId)
    (text : String) :
    ((ledger.noteAll (engine.rebind id text).journal).noteAnswer (.rebind id text : Request κ)
      (.rebound (engine.rebind id text).answer)).Covers (engine.rebind id text).engine
        fun _ => False := by
  have noted := covers.rebind id text
  intro other subscription found
  obtain ⟨standing, known, describes⟩ := noted other subscription found
  obtain ⟨-, result⟩ | ⟨current, warnings, live, aboutText,
    ⟨watched, meaning, -, result⟩ | ⟨value, result⟩⟩ := engine.rebind_cases id text
  all_goals rw [result] at known found describes ⊢
  · exact ⟨standing, known, describes⟩
  · rw [noteAnswer, amend]
    by_cases this : other = id
    · subst this
      simp only [Subscriptions.get?_retarget, if_true, live, Option.map_some,
        Option.some.injEq] at found
      rw [if_pos rfl, known]
      refine ⟨_, rfl, describes.watched, fun _ value reported => ?_⟩
      cases reported
      rw [← found]
      rfl
    · rw [if_neg this]
      exact ⟨standing, known, describes⟩
  · simp only [Subscriptions.get?_remove] at found
    rw [noteAnswer, amend]
    split at found
    · contradiction
    · next different =>
        rw [if_neg different]
        exact ⟨standing, known, describes⟩

/-- The answer to a binding is the first report. -/
theorem bind (covers : ledger.Covers engine fun _ => False) (sound : engine.Sound)
    {node : NodeId} {isTemplate : Bool} {text : String} {listener : κ}
    {step : Step κ σ (Except Tree.Error Bound)}
    (binds : engine.BindsOrNot node (.ofText isTemplate text) listener step) :
    ((ledger.noteAll step.journal).noteBound isTemplate text step.answer).Covers step.engine
      fun _ => False := by
  obtain ⟨aboutText, ⟨unchanged, unsubscribed⟩ | ⟨-, -, result, answered⟩⟩ := binds
  all_goals rw [noteAll_of_isAboutText _ aboutText]
  · rw [unchanged]
    cases answer : step.answer with
    | error => exact covers
    | ok bound =>
        obtain ⟨subscription, value⟩ := bound
        have none := unsubscribed _ answer
        subst none
        exact covers
  · rw [result, answered, noteBound]
    intro id subscription found
    simp only [Subscriptions.get?_add sound.store] at found
    rw [enter]
    by_cases this : id = engine.subscriptions.nextId
    · rw [if_pos this, Option.some.injEq] at found
      rw [if_pos this, ← found]
      refine ⟨_, rfl, rfl, fun _ value reported => ?_⟩
      cases reported
      rfl
    · rw [if_neg this] at found ⊢
      exact covers id subscription found

end Ledger.Covers

end LiveBinding
