import LiveBinding.Proofs.Engine.Attempts

/-!
# How cascades settle

A cascade goes on as long as there are queued writes, and listeners may ask for new ones each time
they are told something.  Here the loop that works off the queue is given turn by turn, without a
bound on the number of turns.  It always ends, and what it leaves is told by the writes that the
listeners asked for: the first of them are attempted in order, up to the limit, and the others are
counted and have no effect.
-/

namespace LiveBinding.Engine

variable {κ σ : Type} {listen : Listen κ σ} {engine opened : Engine κ σ} {request : Request κ}
  {told : List SubscriptionId}

/-! ### The loop -/

/-- The loop that works off a queue when some writes were processed already.  It relates where the
loop starts to the engine and the journal that it leaves if it ends. -/
inductive Settles (listen : Listen κ σ) :
    (processed : Nat) → List WriteRequest → Engine κ σ → Engine κ σ × List Event → Prop where
  | drained (processed : Nat) (engine : Engine κ σ) :
      Settles listen processed [] engine (engine, [])
  | stopped {processed : Nat} {request : WriteRequest} {rest : List WriteRequest}
      {engine : Engine κ σ} :
      engine.settings.maxSettleWrites ≤ processed →
        Settles listen processed (request :: rest) engine
          (engine, [.limitReached engine.settings.maxSettleWrites (rest.length + 1)])
  | refused {processed : Nat} {request : WriteRequest} {rest : List WriteRequest}
      {engine final : Engine κ σ} {error : WriteError} {journal : List Event} :
      processed < engine.settings.maxSettleWrites →
        engine.writeTree request = .error error →
          Settles listen (processed + 1) rest engine (final, journal) →
            Settles listen processed (request :: rest) engine
              (final, .refused request error :: journal)
  | written {processed : Nat} {request : WriteRequest} {rest : List WriteRequest}
      {engine final : Engine κ σ} {owner : NodeId} {tree : Tree} {round : Round κ σ}
      {journal : List Event} :
      processed < engine.settings.maxSettleWrites →
        engine.writeTree request = .ok (owner, tree) →
          round = Round.run listen { engine with tree }
            (affected { engine with tree } owner request.contextId) →
            Settles listen (processed + 1) (rest ++ round.queue) round.engine (final, journal) →
              Settles listen processed (request :: rest) engine
                (final, .written request owner :: round.journal ++ journal)

/-- The loop ends: it takes no more turns than the limit leaves. -/
theorem settles_drain (listen : Listen κ σ) {budget processed : Nat} (queue : List WriteRequest)
    (engine : Engine κ σ) (left : budget = engine.settings.maxSettleWrites - processed) :
    Settles listen processed queue engine (drain listen budget queue engine) := by
  induction budget generalizing processed queue engine with
  | zero =>
      cases queue with
      | nil => exact .drained processed engine
      | cons request rest => exact .stopped (by omega)
  | succ budget ih =>
      cases queue with
      | nil => exact .drained processed engine
      | cons request rest =>
          have within : processed < engine.settings.maxSettleWrites := by omega
          rw [drain]
          cases written : engine.writeTree request with
          | error error => exact .refused within written (ih rest engine (by omega))
          | ok result =>
              refine .written within written rfl (ih _ _ ?_)
              rw [settings_round]
              change budget = engine.settings.maxSettleWrites - (processed + 1)
              omega

/-- The loop has no other outcome. -/
theorem Settles.eq_drain {processed : Nat} {queue : List WriteRequest}
    {outcome : Engine κ σ × List Event} (settles : Settles listen processed queue engine outcome) :
    outcome = drain listen (engine.settings.maxSettleWrites - processed) queue engine := by
  induction settles with
  | drained processed engine => simp only [drain]
  | stopped reached => rw [Nat.sub_eq_zero_of_le reached, drain, List.length_cons]
  | @refused processed _ _ engine _ _ _ within failed _ ih =>
      have left : engine.settings.maxSettleWrites - processed =
          engine.settings.maxSettleWrites - (processed + 1) + 1 := by omega
      rw [left, drain, failed, ← ih]
  | @written processed _ _ engine _ _ _ _ _ within done isRound _ ih =>
      have left : engine.settings.maxSettleWrites - processed =
          engine.settings.maxSettleWrites - (processed + 1) + 1 := by omega
      subst isRound
      rw [settings_round] at ih
      change _ = drain listen (engine.settings.maxSettleWrites - (processed + 1)) _ _ at ih
      rw [left, drain, done]
      simp only [← ih]

theorem settles_iff {processed : Nat} {queue : List WriteRequest}
    {outcome : Engine κ σ × List Event} :
    Settles listen processed queue engine outcome ↔
      outcome = drain listen (engine.settings.maxSettleWrites - processed) queue engine := by
  constructor
  · exact Settles.eq_drain
  · rintro rfl
    exact settles_drain listen queue engine rfl

/-! ### The cascade of an operation -/

/-- The engine in which the cascade of an operation begins, and the subscriptions that are told
first.  An operation that fails or that is about no declared context begins none. -/
def opened? (engine : Engine κ σ) : Request κ → Option (Engine κ σ × List SubscriptionId)
  | .write request =>
    match engine.writeTree request with
    | .error _ => none
    | .ok (owner, tree) =>
      some ({ engine with tree }, affected { engine with tree } owner request.contextId)
  | .declare node context =>
    match engine.tree.declare node context with
    | .error _ => none
    | .ok (_, tree) =>
      some ({ engine with tree }, affected { engine with tree } node context.id)
  | .removeContext node id =>
    match engine.tree.removeContext node id with
    | none => none
    | some (_, tree) => some ({ engine with tree }, engine.affected node id)
  | _ => none

/-- What an operation is that begins a cascade: the cascade. -/
structure IsCascade (listen : Listen κ σ) (engine : Engine κ σ) (request : Request κ)
    (opened : Engine κ σ) (told : List SubscriptionId) : Prop where
  result : ((engine.perform listen request).engine, (engine.perform listen request).journal) =
    settle listen opened told
  calls : engine.performCalls listen request = opened.settleCalls listen told
  settings : opened.settings = engine.settings

/-- What an operation is that begins no cascade: it calls no listener and queues nothing. -/
structure IsQuiet (listen : Listen κ σ) (engine : Engine κ σ) (request : Request κ) : Prop where
  calls : engine.performCalls listen request = []
  tells : Event.Tells (engine.perform listen request).journal [] [] []

theorem isQuiet_of_isAboutText {request : Request κ}
    (silent : engine.performCalls listen request = [])
    (about : ∀ event ∈ (engine.perform listen request).journal, event.isAboutText = true) :
    engine.IsQuiet listen request where
  calls := silent
  tells := .of_isAboutBinding fun event member =>
    Event.isAboutBinding_of_isAboutText (about event member)

/-- An operation is a cascade or quiet, depending on what it opens. -/
theorem perform_opened (listen : Listen κ σ) (engine : Engine κ σ) (request : Request κ) :
    (∀ opened told, engine.opened? request = some (opened, told) →
        engine.IsCascade listen request opened told) ∧
      (engine.opened? request = none → engine.IsQuiet listen request) := by
  cases request with
  | write request =>
      rw [opened?]
      cases written : engine.writeTree request with
      | error error =>
          refine ⟨fun _ _ impossible => by contradiction, fun _ => ⟨?_, ?_⟩⟩
          · rw [performCalls, written]
          · rw [perform, Step.map, Engine.write, written]
            exact .nil
      | ok result =>
          refine ⟨fun opened told opens => ?_, fun impossible => by contradiction⟩
          cases opens
          refine ⟨?_, ?_, rfl⟩
          · rw [perform, Step.map, Engine.write, written]
          · rw [performCalls, written]
  | declare node context =>
      rw [opened?]
      cases declared : engine.tree.declare node context with
      | error error =>
          refine ⟨fun _ _ impossible => by contradiction, fun _ => ⟨?_, ?_⟩⟩
          · rw [performCalls, declared]
          · rw [perform, Step.map, Engine.declare, declared]
            exact .nil
      | ok result =>
          refine ⟨fun opened told opens => ?_, fun impossible => by contradiction⟩
          cases opens
          refine ⟨?_, ?_, rfl⟩
          · rw [perform, Step.map, Engine.declare, declared]
          · rw [performCalls, declared]
  | removeContext node id =>
      rw [opened?]
      cases removed : engine.tree.removeContext node id with
      | none =>
          refine ⟨fun _ _ impossible => by contradiction, fun _ => ⟨?_, ?_⟩⟩
          · rw [performCalls, removed]
          · rw [perform, Step.map, Engine.removeContext, removed]
            exact .nil
      | some result =>
          refine ⟨fun opened told opens => ?_, fun impossible => by contradiction⟩
          cases opens
          refine ⟨?_, ?_, rfl⟩
          · rw [perform, Step.map, Engine.removeContext, removed]
          · rw [performCalls, removed]
  | attach parent =>
      refine ⟨fun _ _ impossible => by contradiction, fun _ => ⟨rfl, ?_⟩⟩
      rw [perform, Step.map, Engine.attach]
      cases engine.tree.attach parent <;> exact .nil
  | addImplicit node sender context =>
      refine ⟨fun _ _ impossible => by contradiction, fun _ => ⟨rfl, ?_⟩⟩
      rw [perform, Step.map, Engine.addImplicit]
      cases engine.tree.setImplicit node sender context <;> exact .nil
  | detach | clearImplicit | unbind =>
      exact ⟨fun _ _ impossible => by contradiction, fun _ => ⟨rfl, .nil⟩⟩
  | bind node text listener =>
      exact ⟨fun _ _ impossible => by contradiction, fun _ => isQuiet_of_isAboutText rfl
        (engine.bind_bindsOrNot node text listener).1⟩
  | bindTemplate node text listener =>
      exact ⟨fun _ _ impossible => by contradiction, fun _ => isQuiet_of_isAboutText rfl
        (engine.bindTemplate_bindsOrNot node text listener).1⟩
  | rebind id text =>
      exact ⟨fun _ _ impossible => by contradiction,
        fun _ => ⟨rfl, .of_isAboutBinding (engine.rebind_isAboutBinding id text)⟩⟩

/-- The writes that are queued in a cascade are those in the queue while it is worked off. -/
theorem writes_settleCalls (listen : Listen κ σ) (engine : Engine κ σ)
    (told : List SubscriptionId) :
    let first := Round.run listen engine told
    (engine.settleCalls listen told).flatMap Call.writes =
      drainWrites listen engine.settings.maxSettleWrites first.queue first.engine := by
  intro first
  rw [settleCalls, List.flatMap_append, drainWrites, Round.queue_run]

/-- A cascade is its first round, and then the attempts of the writes that are queued, up to the
limit. -/
theorem settle_eq_attempts (listen : Listen κ σ) (engine : Engine κ σ)
    (told : List SubscriptionId) :
    let first := Round.run listen engine told
    let limit := engine.settings.maxSettleWrites
    let queued := (engine.settleCalls listen told).flatMap Call.writes
    settle listen engine told =
      (first.engine.afterAttempts listen (queued.take limit),
        first.journal ++
          ((first.engine.attempts listen (queued.take limit)).flatMap Attempt.journal ++
            limitReport limit limit queued.length)) := by
  intro first limit queued
  have attempted := drain_eq_attempts listen limit first.queue first.engine
  rw [settings_round] at attempted
  simp only [queued, writes_settleCalls]
  rw [settle, attempted]

/-- The journal of a cascade tells of every write that the calls ask for, and of the attempts of
the first ones. -/
theorem tells_settle (listen : Listen κ σ) (engine : Engine κ σ) (told : List SubscriptionId) :
    let limit := engine.settings.maxSettleWrites
    let queued := (engine.settleCalls listen told).flatMap Call.writes
    Event.Tells (settle listen engine told).2 queued (queued.take limit)
      (limitReport limit limit queued.length) := by
  intro limit queued
  have isQueued : queued = (Round.calls listen { engine } told).flatMap Call.writes ++
      ((Round.run listen engine told).engine.attempts listen (queued.take limit)).flatMap
        Attempt.writes := by
    simp only [queued, writes_settleCalls]
    conv_lhs => rw [drainWrites_eq_attempts]
    rw [Round.queue_run]
  rw [settle_eq_attempts]
  have all := (Round.tells_run listen engine told).append
    ((tells_attempts listen (Round.run listen engine told).engine (queued.take limit)).append
      (tells_limitReport limit limit queued.length))
  rw [List.append_nil, ← isQueued, List.append_nil] at all
  exact all

/-- The loop of a cascade ends with the engine that the attempts lead to. -/
theorem settle_settles (listen : Listen κ σ) (engine : Engine κ σ) (told : List SubscriptionId) :
    let first := Round.run listen engine told
    ∃ journal, (settle listen engine told).2 = first.journal ++ journal ∧
      ∀ outcome, Settles listen 0 first.queue first.engine outcome ↔
        outcome = ((settle listen engine told).1, journal) := by
  intro first
  refine ⟨(drain listen engine.settings.maxSettleWrites first.queue first.engine).2, rfl,
    fun outcome => ?_⟩
  rw [settles_iff, settings_round, Nat.sub_zero]
  rfl

/-- Of the writes that listeners ask for during an operation, the first ones are attempted, up to
the limit, each once and in the order in which they were asked for.  If there are more, this is
reported once, with the number of those that are dropped.  The loop that attempts them ends, with
the engine that these attempts lead to. -/
theorem perform_settles (listen : Listen κ σ) (engine : Engine κ σ) (request : Request κ) :
    let step := engine.perform listen request
    let limit := engine.settings.maxSettleWrites
    let queued := (engine.performCalls listen request).flatMap Call.writes
    step.journal.filterMap Event.queued? = queued ∧
      step.journal.filterMap Event.attempted? = queued.take limit ∧
      step.journal.filter Event.isLimit =
        (if limit < queued.length then [.limitReached limit (queued.length - limit)] else []) ∧
      ∀ opened told, engine.opened? request = some (opened, told) →
        let first := Round.run listen opened told
        step.engine = first.engine.afterAttempts listen (queued.take limit) ∧
          ∃ journal, step.journal = first.journal ++ journal ∧
            ∀ outcome, Settles listen 0 first.queue first.engine outcome ↔
              outcome = (step.engine, journal) := by
  intro step limit queued
  cases opens : engine.opened? request with
  | none =>
      obtain ⟨silent, tells⟩ := (perform_opened listen engine request).2 opens
      have nothing : queued = [] := by simp only [queued, silent, List.flatMap_nil]
      rw [nothing, List.take_nil, List.length_nil, if_neg (Nat.not_lt_zero limit)]
      exact ⟨tells.queued, tells.attempted, tells.limits, fun _ _ impossible => nomatch impossible⟩
  | some cascade =>
      obtain ⟨opened, told⟩ := cascade
      obtain ⟨result, calls, sameSettings⟩ :=
        (perform_opened listen engine request).1 opened told opens
      have tells := tells_settle listen opened told
      have attempted := settle_eq_attempts listen opened told
      have settles := settle_settles listen opened told
      rw [← result] at settles
      rw [sameSettings, ← calls, ← result] at tells attempted
      refine ⟨tells.queued, tells.attempted, tells.limits, fun other others same => ?_⟩
      cases same
      exact ⟨congrArg Prod.fst attempted, settles⟩

/-- A listener that writes what it is told, one more each time, is stopped by a limit of three. -/
theorem perform_settles_counting :
    let listen : Listen Unit Int64 := fun _ notification count =>
      ([.write ⟨notification.node, "n", "", .int (count + 1), none⟩], count + 1)
    let start : Engine Unit Int64 := Engine.new { maxSettleWrites := 3 } 0
    let engine := start.run listen
      [.attach none, .declare ⟨0, 0⟩ ⟨"n", .null⟩, .bind ⟨0, 0⟩ "n" ()]
    let request : Request Unit := .write ⟨⟨0, 0⟩, "n", "", .null, none⟩
    let queued := (engine.performCalls listen request).flatMap Call.writes
    queued.length = 4 ∧
      (engine.perform listen request).journal.filterMap Event.attempted? = queued.take 3 ∧
      (engine.perform listen request).journal.filter Event.isLimit = [.limitReached 3 1] ∧
      ∃ opened told, engine.opened? request = some (opened, told) ∧
        (engine.perform listen request).engine =
          (Round.run listen opened told).engine.afterAttempts listen (queued.take 3) ∧
        (engine.perform listen request).engine.tree.context? ⟨0, 0⟩ "n" =
          some ⟨"n", .int 3⟩ := by
  intro listen start engine request queued
  have four : queued.length = 4 := by decide +kernel
  have three : engine.settings.maxSettleWrites = 3 := by decide +kernel
  have opens : (engine.opened? request).isSome = true := by decide +kernel
  obtain ⟨⟨opened, told⟩, opens⟩ := Option.isSome_iff_exists.mp opens
  obtain ⟨-, attempted, limits, cascade⟩ := perform_settles listen engine request
  change _ = (if engine.settings.maxSettleWrites < queued.length then
    [Event.limitReached engine.settings.maxSettleWrites
      (queued.length - engine.settings.maxSettleWrites)] else []) at limits
  rw [three, four] at limits
  rw [three] at attempted
  have reached := (cascade opened told opens).1
  rw [three] at reached
  exact ⟨four, attempted, limits, opened, told, opens, reached, by decide +kernel⟩

end LiveBinding.Engine
