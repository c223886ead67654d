import LiveBinding.Proofs.Engine.Soundness

/-!
# Attempts of queued writes

While a cascade works off its queue, the queue grows: the listeners that are told of one write ask
for others.  Here each write from the queue is looked at by itself, with all that it leads to, and
a cascade is shown to be nothing but such attempts one after the other: of as many writes as the
limit allows, in the order in which the listeners asked for them.
-/

namespace LiveBinding

variable {κ σ : Type}

/-! ### What is asked for and what is reported -/

/-- The write that an effect asks for. -/
def Effect.write? : Effect → Option WriteRequest
  | .write request => some request
  | _ => none

namespace Call

/-- The writes that a listener asks for when it is called, in order. -/
def writes (call : Call κ σ) : List WriteRequest := call.effects.filterMap Effect.write?

/-- What a call adds to the journal. -/
def events (call : Call κ σ) : List Event :=
  .notified call.notification :: call.writes.map .queued

end Call

namespace Event

/-- The write that an event reports as queued. -/
def queued? : Event → Option WriteRequest
  | .queued request => some request
  | _ => none

/-- The write that an event reports as taken from the queue, done or refused. -/
def attempted? : Event → Option WriteRequest
  | .written request _ => some request
  | .refused request _ => some request
  | _ => none

/-- Whether an event reports that the limit of queued writes was reached. -/
def isLimit : Event → Bool
  | .limitReached .. => true
  | _ => false

/-- Whether an event is about the text of a binding. -/
def isAboutBinding : Event → Bool
  | .rebound .. => true
  | event => event.isAboutText

theorem isAboutBinding_of_isAboutText {event : Event} (about : event.isAboutText = true) :
    event.isAboutBinding = true := by
  cases event with
  | unreadable | unreadablePart => rfl
  | notified | rebound | queued | written | refused | limitReached => contradiction

/-- What a journal reports of queued writes, of attempted ones, and of the limit. -/
structure Tells (journal : List Event) (queued attempted : List WriteRequest)
    (limits : List Event) : Prop where
  queued : journal.filterMap queued? = queued
  attempted : journal.filterMap attempted? = attempted
  limits : journal.filter isLimit = limits

namespace Tells

theorem nil : Tells [] [] [] [] := ⟨rfl, rfl, rfl⟩

theorem append {earlier later : List Event} {queued queuedLater attempted attemptedLater :
    List WriteRequest} {limits limitsLater : List Event}
    (first : Tells earlier queued attempted limits)
    (second : Tells later queuedLater attemptedLater limitsLater) :
    Tells (earlier ++ later) (queued ++ queuedLater) (attempted ++ attemptedLater)
      (limits ++ limitsLater) where
  queued := by rw [List.filterMap_append, first.queued, second.queued]
  attempted := by rw [List.filterMap_append, first.attempted, second.attempted]
  limits := by rw [List.filter_append, first.limits, second.limits]

theorem of_isAboutBinding {journal : List Event}
    (about : ∀ event ∈ journal, event.isAboutBinding = true) : Tells journal [] [] [] := by
  have silent : ∀ event ∈ journal,
      event.queued? = none ∧ event.attempted? = none ∧ event.isLimit = false := by
    intro event member
    have isAbout := about event member
    cases event with
    | unreadable | unreadablePart | rebound => exact ⟨rfl, rfl, rfl⟩
    | notified | queued | written | refused | limitReached => contradiction
  exact ⟨List.filterMap_eq_nil_iff.mpr fun event member => (silent event member).1,
    List.filterMap_eq_nil_iff.mpr fun event member => (silent event member).2.1,
    List.filter_eq_nil_iff.mpr fun event member => by simp [(silent event member).2.2]⟩

theorem map_queued (writes : List WriteRequest) : Tells (writes.map .queued) writes [] [] := by
  induction writes with
  | nil => exact nil
  | cons request rest ih =>
      have single : Tells [.queued request] [request] [] [] := ⟨rfl, rfl, rfl⟩
      exact single.append ih

theorem events (call : Call κ σ) : Tells call.events call.writes [] [] := by
  have told : Tells [.notified call.notification] [] [] [] := ⟨rfl, rfl, rfl⟩
  exact told.append (map_queued call.writes)

theorem flatMap_events (calls : List (Call κ σ)) :
    Tells (calls.flatMap Call.events) (calls.flatMap Call.writes) [] [] := by
  induction calls with
  | nil => exact nil
  | cons call rest ih =>
      rw [List.flatMap_cons, List.flatMap_cons]
      exact (events call).append ih

end Tells

end Event

/-! ### What a round queues -/

namespace Round

theorem queue_takeAll (round : Round κ σ) (effects : List Effect) :
    (effects.foldl take round).queue = round.queue ++ effects.filterMap Effect.write? := by
  induction effects generalizing round with
  | nil => exact (List.append_nil _).symm
  | cons effect rest ih =>
      rw [List.foldl_cons, ih]
      cases effect with
      | write request => exact List.append_assoc round.queue [request] _
      | unbind | detach | rebind => rfl

theorem journal_takeAll (round : Round κ σ) (effects : List Effect) :
    (effects.foldl take round).journal =
      round.journal ++ (effects.filterMap Effect.write?).map .queued := by
  induction effects generalizing round with
  | nil => exact (List.append_nil _).symm
  | cons effect rest ih =>
      rw [List.foldl_cons, ih]
      cases effect with
      | write request => exact List.append_assoc round.journal [.queued request] _
      | unbind | detach | rebind => rfl

/-- Telling a subscription queues what its listener asks for. -/
theorem notify_adds (listen : Listen κ σ) (round : Round κ σ) (id : SubscriptionId) :
    (round.notify listen id).queue =
        round.queue ++ (round.call? listen id).toList.flatMap Call.writes ∧
      (round.notify listen id).journal =
        round.journal ++ (round.call? listen id).toList.flatMap Call.events := by
  obtain ⟨-, silent, same⟩ | ⟨subscription, effects, memory, -, -, call, told⟩ :=
    round.notify_cases listen id
  · rw [silent, same]
    exact ⟨(List.append_nil _).symm, (List.append_nil _).symm⟩
  · rw [call, told, queue_takeAll, journal_takeAll, Option.toList_some, List.flatMap_singleton,
      List.flatMap_singleton]
    refine ⟨rfl, ?_⟩
    exact List.append_assoc round.journal [.notified (round.due id subscription)] _

theorem notifyAll_adds (listen : Listen κ σ) (round : Round κ σ) (told : List SubscriptionId) :
    (told.foldl (notify listen) round).queue =
        round.queue ++ (round.calls listen told).flatMap Call.writes ∧
      (told.foldl (notify listen) round).journal =
        round.journal ++ (round.calls listen told).flatMap Call.events := by
  induction told generalizing round with
  | nil => exact ⟨(List.append_nil _).symm, (List.append_nil _).symm⟩
  | cons id rest ih =>
      obtain ⟨queue, journal⟩ := round.notify_adds listen id
      obtain ⟨queueRest, journalRest⟩ := ih (round.notify listen id)
      rw [List.foldl_cons, queueRest, journalRest, queue, journal, calls, List.flatMap_append,
        List.flatMap_append, List.append_assoc, List.append_assoc]
      exact ⟨rfl, rfl⟩

theorem queue_rebindAll (round : Round κ σ) (rebindings : List (SubscriptionId × String)) :
    (rebindings.foldl rebindOne round).queue = round.queue := by
  induction rebindings generalizing round with
  | nil => rfl
  | cons rebinding rest ih => exact ih (round.rebindOne rebinding)

theorem queue_detachAll (round : Round κ σ) (nodes : List NodeId) :
    (nodes.foldl detachOne round).queue = round.queue := by
  induction nodes generalizing round with
  | nil => rfl
  | cons node rest ih => exact ih (round.detachOne node)

theorem queue_close (round : Round κ σ) : round.close.queue = round.queue := by
  rw [close, queue_detachAll, queue_rebindAll]

end Round

theorem Engine.rebind_isAboutBinding (engine : Engine κ σ) (id : SubscriptionId)
    (text : String) : ∀ event ∈ (engine.rebind id text).journal, event.isAboutBinding = true := by
  obtain ⟨-, result⟩ | ⟨_, warnings, -, aboutText, ⟨_, -, -, result⟩ | ⟨_, result⟩⟩ :=
    engine.rebind_cases id text
  all_goals
    rw [result]
    intro event member
  · nomatch member
  · obtain warning | rebound := List.mem_append.mp member
    · exact Event.isAboutBinding_of_isAboutText (aboutText event warning)
    · rw [List.mem_singleton.mp rebound]
      rfl
  · exact Event.isAboutBinding_of_isAboutText (aboutText event member)

namespace Round

theorem tells_rebindAll (rebindings : List (SubscriptionId × String)) {round : Round κ σ}
    {queued : List WriteRequest} (tells : Event.Tells round.journal queued [] []) :
    Event.Tells (rebindings.foldl rebindOne round).journal queued [] [] := by
  induction rebindings generalizing round with
  | nil => exact tells
  | cons rebinding rest ih =>
      have rebound := round.engine.rebind_isAboutBinding rebinding.1 rebinding.2
      have first := tells.append (.of_isAboutBinding rebound)
      rw [List.append_nil] at first
      exact ih first

/-- A round queues the writes that its calls ask for, in order, and attempts none. -/
theorem queue_run (listen : Listen κ σ) (engine : Engine κ σ) (told : List SubscriptionId) :
    (run listen engine told).queue = (Round.calls listen { engine } told).flatMap Call.writes := by
  rw [run, queue_close, (notifyAll_adds listen { engine } told).1]
  exact List.nil_append _

theorem tells_run (listen : Listen κ σ) (engine : Engine κ σ) (told : List SubscriptionId) :
    Event.Tells (run listen engine told).journal
      ((Round.calls listen { engine } told).flatMap Call.writes) [] [] := by
  rw [run, close, journal_detachAll]
  refine tells_rebindAll _ ?_
  rw [(notifyAll_adds listen { engine } told).2]
  exact Event.Tells.flatMap_events _

end Round

/-! ### Single attempts -/

/-- What a write from the queue comes to: its result, the calls that it leads to, and the engine
before and after it. -/
structure Attempt (κ σ : Type) where
  before : Engine κ σ
  request : WriteRequest
  result : Except WriteError NodeId
  calls : List (Call κ σ)
  after : Engine κ σ
  journal : List Event

/-- The writes that an attempt adds to the queue. -/
def Attempt.writes (attempt : Attempt κ σ) : List WriteRequest :=
  attempt.calls.flatMap Call.writes

namespace Engine

/-- Attempt a write from the queue. -/
def attempt (listen : Listen κ σ) (engine : Engine κ σ) (request : WriteRequest) :
    Attempt κ σ :=
  match engine.writeTree request with
  | .error error => ⟨engine, request, .error error, [], engine, [.refused request error]⟩
  | .ok (owner, tree) =>
    let changed := { engine with tree }
    let told := changed.affected owner request.contextId
    let round := Round.run listen changed told
    ⟨engine, request, .ok owner, Round.calls listen { engine := changed } told, round.engine,
      .written request owner :: round.journal⟩

/-- A write that is refused leads to nothing but a report. -/
theorem attempt_of_error {listen : Listen κ σ} {engine : Engine κ σ} {request : WriteRequest}
    {error : WriteError} (failed : engine.writeTree request = .error error) :
    engine.attempt listen request =
      ⟨engine, request, .error error, [], engine, [.refused request error]⟩ := by
  rw [attempt, failed]

/-- The engine after attempts one after the other. -/
def afterAttempts (listen : Listen κ σ) (engine : Engine κ σ) (requests : List WriteRequest) :
    Engine κ σ :=
  requests.foldl (fun engine request => (engine.attempt listen request).after) engine

/-- Attempts one after the other, each in the engine that the one before it left. -/
def attempts (listen : Listen κ σ) : Engine κ σ → List WriteRequest → List (Attempt κ σ)
  | _, [] => []
  | engine, request :: rest =>
    let first := engine.attempt listen request
    first :: attempts listen first.after rest

theorem tells_attempt (listen : Listen κ σ) (engine : Engine κ σ) (request : WriteRequest) :
    Event.Tells (engine.attempt listen request).journal
      (engine.attempt listen request).writes [request] [] := by
  rw [attempt]
  cases engine.writeTree request with
  | error error => exact ⟨rfl, rfl, rfl⟩
  | ok result =>
      have written : Event.Tells [.written request result.1] [] [request] [] := ⟨rfl, rfl, rfl⟩
      exact written.append (Round.tells_run listen _ _)

theorem tells_attempts (listen : Listen κ σ) (engine : Engine κ σ)
    (requests : List WriteRequest) :
    Event.Tells ((engine.attempts listen requests).flatMap Attempt.journal)
      ((engine.attempts listen requests).flatMap Attempt.writes) requests [] := by
  induction requests generalizing engine with
  | nil => exact .nil
  | cons request rest ih =>
      rw [attempts, List.flatMap_cons, List.flatMap_cons]
      exact (engine.tells_attempt listen request).append (ih _)

/-! ### Settings -/

theorem settings_change {before after : Engine κ σ} (change : Change before after) :
    after.settings = before.settings := by
  cases change with
  | rebind id text =>
      obtain ⟨-, result⟩ | ⟨_, _, _, -, ⟨_, -, -, result⟩ | ⟨_, result⟩⟩ :=
        before.rebind_cases id text
      all_goals rw [result]
  | remember | unbind | detach | write => rfl

theorem settings_evolves {before after : Engine κ σ} (changes : Evolves before after) :
    after.settings = before.settings := by
  induction changes with
  | refl => rfl
  | tail _ change ih => rw [settings_change change, ih]

theorem settings_round (listen : Listen κ σ) (engine : Engine κ σ)
    (told : List SubscriptionId) :
    (Round.run listen engine told).engine.settings = engine.settings :=
  settings_evolves (evolves_round listen engine told)

theorem settings_attempt (listen : Listen κ σ) (engine : Engine κ σ) (request : WriteRequest) :
    (engine.attempt listen request).after.settings = engine.settings := by
  rw [attempt]
  cases engine.writeTree request with
  | error => rfl
  | ok => exact settings_round listen _ _

/-! ### Working off a queue -/

/-- What an attempt adds to the queue is what its round queues. -/
theorem writes_attempt {listen : Listen κ σ} {engine : Engine κ σ} {request : WriteRequest}
    {owner : NodeId} {tree : Tree} (written : engine.writeTree request = .ok (owner, tree)) :
    (engine.attempt listen request).writes =
      (Round.run listen { engine with tree }
        (affected { engine with tree } owner request.contextId)).queue := by
  rw [Round.queue_run, attempt, written]
  rfl

/-- The first write in the queue is attempted, and what it asks for goes to the end. -/
theorem drain_cons (listen : Listen κ σ) (budget : Nat) (request : WriteRequest)
    (rest : List WriteRequest) (engine : Engine κ σ) :
    let first := engine.attempt listen request
    drain listen (budget + 1) (request :: rest) engine =
      ((drain listen budget (rest ++ first.writes) first.after).1,
        first.journal ++ (drain listen budget (rest ++ first.writes) first.after).2) := by
  intro first
  rw [drain]
  cases written : engine.writeTree request with
  | error error =>
      rw [show first = _ from attempt_of_error written, Attempt.writes, List.flatMap_nil,
        List.append_nil]
      rfl
  | ok result =>
      rw [show first.writes = _ from writes_attempt written]
      simp only [first, attempt, written]

theorem drainCalls_cons (listen : Listen κ σ) (budget : Nat) (request : WriteRequest)
    (rest : List WriteRequest) (engine : Engine κ σ) :
    let first := engine.attempt listen request
    drainCalls listen (budget + 1) (request :: rest) engine =
      first.calls ++ drainCalls listen budget (rest ++ first.writes) first.after := by
  intro first
  rw [drainCalls]
  cases written : engine.writeTree request with
  | error error =>
      rw [show first = _ from attempt_of_error written, Attempt.writes, List.flatMap_nil,
        List.append_nil]
      rfl
  | ok result =>
      rw [show first.writes = _ from writes_attempt written]
      simp only [first, attempt, written]

/-- All the writes that are ever in a queue while it is worked off, in order. -/
def drainWrites (listen : Listen κ σ) (budget : Nat) (queue : List WriteRequest)
    (engine : Engine κ σ) : List WriteRequest :=
  queue ++ (drainCalls listen budget queue engine).flatMap Call.writes

theorem drainWrites_cons (listen : Listen κ σ) (budget : Nat) (request : WriteRequest)
    (rest : List WriteRequest) (engine : Engine κ σ) :
    let first := engine.attempt listen request
    drainWrites listen (budget + 1) (request :: rest) engine =
      request :: drainWrites listen budget (rest ++ first.writes) first.after := by
  intro first
  rw [drainWrites, drainWrites, drainCalls_cons, List.flatMap_append, List.append_assoc]
  rfl

/-- The report that a limit leaves for so many queued writes, if only a budget of it is left. -/
def limitReport (limit budget total : Nat) : List Event :=
  if budget < total then [.limitReached limit (total - budget)] else []

theorem limitReport_succ (limit budget total : Nat) :
    limitReport limit (budget + 1) (total + 1) = limitReport limit budget total := by
  simp only [limitReport, Nat.add_lt_add_iff_right, Nat.add_sub_add_right]

theorem tells_limitReport (limit budget total : Nat) :
    Event.Tells (limitReport limit budget total) [] [] (limitReport limit budget total) := by
  unfold limitReport
  split <;> exact ⟨rfl, rfl, rfl⟩

/-- Working off a queue is attempting writes one after the other, until the budget is spent. -/
theorem drain_eq_attempts (listen : Listen κ σ) (budget : Nat) (queue : List WriteRequest)
    (engine : Engine κ σ) :
    let queued := drainWrites listen budget queue engine
    drain listen budget queue engine =
      (engine.afterAttempts listen (queued.take budget),
        (engine.attempts listen (queued.take budget)).flatMap Attempt.journal ++
          limitReport engine.settings.maxSettleWrites budget queued.length) := by
  -- the queue grows while it is worked off, so the induction is on the budget
  induction budget generalizing queue engine with
  | zero =>
      cases queue with
      | nil => rfl
      | cons request rest =>
          have unheard : drainWrites listen 0 (request :: rest) engine = request :: rest :=
            List.append_nil _
          rw [unheard]
          rfl
  | succ budget ih =>
      cases queue with
      | nil => rfl
      | cons request rest =>
          have later := ih (rest ++ (engine.attempt listen request).writes)
            (engine.attempt listen request).after
          rw [settings_attempt] at later
          rw [drain_cons, drainWrites_cons, later]
          intro queued
          rw [List.take_succ_cons, List.length_cons, limitReport_succ, attempts,
            List.flatMap_cons, List.append_assoc]
          rfl

theorem drainCalls_eq_attempts (listen : Listen κ σ) (budget : Nat) (queue : List WriteRequest)
    (engine : Engine κ σ) :
    drainCalls listen budget queue engine =
      (engine.attempts listen ((drainWrites listen budget queue engine).take budget)).flatMap
        Attempt.calls := by
  induction budget generalizing queue engine with
  | zero => cases queue <;> rfl
  | succ budget ih =>
      cases queue with
      | nil => rfl
      | cons request rest =>
          rw [drainCalls_cons, drainWrites_cons, List.take_succ_cons, attempts, List.flatMap_cons,
            ← ih]

/-- What comes into a queue while it is worked off was asked for in an attempt. -/
theorem drainWrites_eq_attempts (listen : Listen κ σ) (budget : Nat) (queue : List WriteRequest)
    (engine : Engine κ σ) :
    drainWrites listen budget queue engine = queue ++
      (engine.attempts listen ((drainWrites listen budget queue engine).take budget)).flatMap
        Attempt.writes := by
  conv_lhs => rw [drainWrites, drainCalls_eq_attempts, List.flatMap_assoc]
  rfl

end Engine

end LiveBinding
