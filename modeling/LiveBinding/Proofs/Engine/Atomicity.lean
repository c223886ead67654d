import LiveBinding.Proofs.Engine.Settling
import LiveBinding.Proofs.Value.InPlace

/-!
# Failed writes

A write may fail in three ways: its path cannot be read, nobody declares the context, or the path
leads nowhere in the value.  The first two are found out before anything is touched.  The third is
found out while the value is changed where it stands, so here writes into the tree are done in
place.  Whichever way a write fails, the tree and the subscriptions are as before, and no listener
is called; in a cascade the writes after it are attempted all the same.
-/

namespace LiveBinding

namespace Tree

variable {tree : Tree} {id : NodeId} {name : String} {context : Context} {node : Node}

theorem putContext_of_find? {contexts : List Context}
    (found : contexts.find? (·.id == name) = some context) :
    putContext ⟨name, context.value⟩ contexts = contexts := by
  induction contexts with
  | nil => contradiction
  | cons other rest ih =>
      rw [List.find?_cons] at found
      rw [putContext]
      split at found
      · next here =>
          cases found
          have same : context.id = name := by simpa using here
          rw [if_pos same, ← same]
      · next different =>
          have apart : other.id ≠ name := by simpa using different
          rw [if_neg apart, ih found]

/-- To change a node to what it is changes nothing. -/
theorem modifyNode_of_node? {change : Node → Node} (reached : tree.node? id = some node)
    (same : change node = node) : tree.modifyNode id change = tree := by
  have slot := node?_eq_some_iff.mp reached
  obtain ⟨inside, here⟩ := List.getElem?_eq_some_iff.mp slot
  rw [modifyNode, if_pos (contains_iff.mpr ⟨node, reached⟩), List.modify_eq_set_getElem?, slot]
  simp only [Option.map_eq_map, Option.map_some, Option.getD_some, same]
  rw [← here, List.set_getElem_self]

/-- To put the value of a declared context back changes nothing. -/
theorem withContext_of_context? (declared : tree.context? id name = some context) :
    tree.withContext id ⟨name, context.value⟩ = tree := by
  rw [context?, Tree.declared] at declared
  cases reached : tree.node? id with
  | none =>
      rw [reached] at declared
      contradiction
  | some node =>
      rw [reached] at declared
      have found : node.contexts.find? (·.id == name) = some context := declared
      refine modifyNode_of_node? reached ?_
      rw [putContext_of_find? found]

end Tree

namespace Engine

variable {κ σ : Type} {engine : Engine κ σ} {request : WriteRequest} {error : WriteError}

/-- Do a write in the tree by changing the value of the context where it stands: the node that
declares the context or what went wrong, and the tree afterwards in either case. -/
def writeInPlace (engine : Engine κ σ) (request : WriteRequest) :
    Except WriteError NodeId × Tree :=
  match Path.read request.path with
  | .error error => (.error (.invalidPath request.path error), engine.tree)
  | .ok path =>
    match engine.tree.owner? request.origin request.contextId with
    | none => (.error (.targetMissing request.contextId request.origin), engine.tree)
    | some owner =>
      match engine.tree.context? owner request.contextId with
      | none => (.error (.targetMissing request.contextId request.origin), engine.tree)
      | some context =>
        let policy := request.policy.getD engine.settings.defaultPolicy
        let (done, value) := Value.overwrite policy path request.value context.value
        (if done then .ok owner else .error (.pathUnreachable request.contextId path),
          engine.tree.withContext owner ⟨request.contextId, value⟩)

/-- A write in place that fails leaves the tree as it was. -/
theorem tree_writeInPlace_of_error (failed : (engine.writeInPlace request).1 = .error error) :
    (engine.writeInPlace request).2 = engine.tree := by
  unfold writeInPlace at failed ⊢
  cases read : Path.read request.path with
  | error => rfl
  | ok path =>
      simp only [read] at failed ⊢
      cases seen : engine.tree.owner? request.origin request.contextId with
      | none => rfl
      | some owner =>
          simp only [seen] at failed ⊢
          cases declared : engine.tree.context? owner request.contextId with
          | none => rfl
          | some context =>
              simp only [declared] at failed ⊢
              have refused : (Value.overwrite (request.policy.getD engine.settings.defaultPolicy)
                  path request.value context.value).1 = false := by
                cases done : (Value.overwrite (request.policy.getD engine.settings.defaultPolicy)
                    path request.value context.value).1 with
                | false => rfl
                | true =>
                    rw [if_pos done] at failed
                    contradiction
              rw [Value.overwrite_refused refused, Tree.withContext_of_context? declared]

/-- A write that fails, fails in place for the same reason. -/
theorem writeInPlace_of_writeTree_error (failed : engine.writeTree request = .error error) :
    engine.writeInPlace request = (.error error, engine.tree) := by
  unfold writeTree at failed
  unfold writeInPlace
  cases read : Path.read request.path with
  | error fault =>
      simp only [read] at failed ⊢
      cases failed
      rfl
  | ok path =>
      simp only [read] at failed ⊢
      cases seen : engine.tree.owner? request.origin request.contextId with
      | none =>
          simp only [seen] at failed ⊢
          cases failed
          rfl
      | some owner =>
          obtain ⟨-, context, declared, -⟩ := Tree.find?_scope_of_owner? seen
          simp only [seen, declared] at failed ⊢
          simp only [Tree.writeContext, declared, Option.bind_some] at failed
          cases built : Value.write? (request.policy.getD engine.settings.defaultPolicy) path
              request.value context.value with
          | none =>
              rw [built] at failed
              cases failed
              rw [Value.overwrite_of_write?_eq_none built, Tree.withContext_of_context? declared]
              rfl
          | some written =>
              rw [built] at failed
              contradiction

/-- On values in memory, a write in place does what `writeTree` does. -/
theorem writeInPlace_of_writeTree_ok {owner : NodeId} {tree : Tree}
    (stored : ∀ path context, Path.read request.path = .ok path →
      engine.tree.context? owner request.contextId = some context →
        Value.StoredAlong path context.value)
    (done : engine.writeTree request = .ok (owner, tree)) :
    engine.writeInPlace request = (.ok owner, tree) := by
  obtain ⟨path, context, written, read, seen, declared, built, rfl⟩ := writeTree_eq_ok_iff.mp done
  have same := Value.overwrite_eq_write (request.policy.getD engine.settings.defaultPolicy)
    request.value (stored path context read declared)
  rw [Value.write, built] at same
  unfold writeInPlace
  simp only [read, seen, declared, same]
  rfl

/-! ### In cascades -/

theorem request_attempt (listen : Listen κ σ) (engine : Engine κ σ) (request : WriteRequest) :
    (engine.attempt listen request).before = engine ∧
      (engine.attempt listen request).request = request := by
  rw [attempt]
  cases engine.writeTree request <;> exact ⟨rfl, rfl⟩

theorem map_request_attempts (listen : Listen κ σ) (engine : Engine κ σ)
    (requests : List WriteRequest) :
    (engine.attempts listen requests).map Attempt.request = requests := by
  induction requests generalizing engine with
  | nil => rfl
  | cons request rest ih =>
      rw [attempts, List.map_cons, ih, (engine.request_attempt listen request).2]

/-- Each of the attempts is one of its request in the engine before it. -/
theorem eq_attempt_of_mem (listen : Listen κ σ) {engine : Engine κ σ}
    {requests : List WriteRequest} {attempt : Attempt κ σ}
    (member : attempt ∈ engine.attempts listen requests) :
    attempt = attempt.before.attempt listen attempt.request := by
  induction requests generalizing engine with
  | nil => contradiction
  | cons request rest ih =>
      obtain here | later := List.mem_cons.mp member
      · obtain ⟨before, asked⟩ := engine.request_attempt listen request
        rw [here, before, asked]
      · exact ih later

end Engine

/-- What it is for an attempt to fail: it changes nothing, calls nobody and is reported. -/
structure Attempt.Fails {κ σ : Type} (attempt : Attempt κ σ) (error : WriteError) : Prop where
  unchanged : attempt.after = attempt.before
  silent : attempt.calls = []
  reported : attempt.journal = [.refused attempt.request error]
  inPlace : attempt.before.writeInPlace attempt.request = (.error error, attempt.before.tree)

namespace Engine

variable {κ σ : Type} {engine : Engine κ σ} {request : WriteRequest} {error : WriteError}

theorem fails_attempt (listen : Listen κ σ)
    (failed : (engine.attempt listen request).result = .error error) :
    (engine.attempt listen request).Fails error := by
  cases written : engine.writeTree request with
  | ok result =>
      rw [attempt, written] at failed
      contradiction
  | error reason =>
      rw [attempt_of_error written] at failed ⊢
      cases failed
      exact ⟨rfl, rfl, rfl, writeInPlace_of_writeTree_error written⟩

theorem write_of_error {listen : Listen κ σ}
    (failed : (engine.write listen request).answer = .error error) :
    engine.writeTree request = .error error ∧
      engine.write listen request = ⟨engine, .error error, []⟩ := by
  unfold Engine.write at failed ⊢
  cases written : engine.writeTree request with
  | ok result =>
      rw [written] at failed
      contradiction
  | error reason =>
      rw [written] at failed
      cases failed
      exact ⟨rfl, rfl⟩

/-- A write that fails leaves the whole engine as it was and calls nobody, and the tree is left as
it was although the value is changed in place.  In a cascade a queued write that fails changes
nothing and calls nobody, and all the queued writes that the limit allows are attempted. -/
theorem unchanged_of_failed_write (listen : Listen κ σ) (engine : Engine κ σ) :
    (∀ request error, (engine.write listen request).answer = .error error →
        (engine.write listen request).engine = engine ∧
          (engine.write listen request).journal = [] ∧
          engine.performCalls listen (.write request) = [] ∧
          engine.writeInPlace request = (.error error, engine.tree)) ∧
      (∀ request error tree, engine.writeInPlace request = (.error error, tree) →
        tree = engine.tree) ∧
      ∀ request opened told, engine.opened? request = some (opened, told) →
        let step := engine.perform listen request
        let first := Round.run listen opened told
        let queued := (engine.performCalls listen request).flatMap Call.writes
        let allowed := queued.take engine.settings.maxSettleWrites
        let attempts := first.engine.attempts listen allowed
        step.engine = first.engine.afterAttempts listen allowed ∧
          attempts.map Attempt.request = allowed ∧
          step.journal.filterMap Event.attempted? = allowed ∧
          ∀ attempt ∈ attempts, ∀ error, attempt.result = .error error → attempt.Fails error := by
  refine ⟨fun request error failed => ?_, fun request error tree failed => ?_,
    fun request opened told opens => ?_⟩
  · obtain ⟨written, result⟩ := write_of_error failed
    rw [result, performCalls, written]
    exact ⟨rfl, rfl, rfl, writeInPlace_of_writeTree_error written⟩
  · have same := tree_writeInPlace_of_error (congrArg Prod.fst failed)
    rw [failed] at same
    exact same
  · intro step first queued allowed attempts
    obtain ⟨result, calls, sameSettings⟩ :=
      (perform_opened listen engine request).1 opened told opens
    have tells := tells_settle listen opened told
    have attempted := settle_eq_attempts listen opened told
    rw [sameSettings, ← calls, ← result] at tells attempted
    refine ⟨congrArg Prod.fst attempted, map_request_attempts listen first.engine allowed,
      tells.attempted, fun attempt member error failed => ?_⟩
    rw [eq_attempt_of_mem listen member] at failed ⊢
    exact fails_attempt listen failed

/-- A path that reaches too far below a part that would have to be made first, by itself and in a
queue before a write that is done. -/
theorem unchanged_of_failed_write_far :
    let node : NodeId := ⟨0, 0⟩
    let far : WriteRequest := ⟨node, "c", "a[9999]", .null, none⟩
    let near : WriteRequest := ⟨node, "c", "b", .bool true, none⟩
    let listen : Listen Unit Unit := fun _ _ memory => ([.write far, .write near], memory)
    let start : Engine Unit Unit := Engine.new {} ()
    let engine := start.run listen
      [.attach none, .declare node ⟨"c", .object []⟩, .declare node ⟨"d", .null⟩,
        .bind node "d" ()]
    let request : Request Unit := .write ⟨node, "d", "", .null, none⟩
    let error : WriteError := .pathUnreachable "c" [.key "a", .index 9999]
    ((engine.write listen far).answer = .error error ∧
        (engine.write listen far).engine = engine ∧
        engine.writeInPlace far = (.error error, engine.tree)) ∧
      ∃ opened told, engine.opened? request = some (opened, told) ∧
        let attempts := (Round.run listen opened told).engine.attempts listen [far, near]
        attempts.map (·.result.toBool) = [false, true] ∧
          ∀ attempt ∈ attempts, ∀ error, attempt.result = .error error →
            attempt.Fails error := by
  intro node far near listen start engine request error
  obtain ⟨direct, -, cascade⟩ := unchanged_of_failed_write listen engine
  have failed : (engine.write listen far).answer = .error error := by decide +kernel
  obtain ⟨same, -, -, inPlace⟩ := direct far error failed
  refine ⟨⟨failed, same, inPlace⟩, ?_⟩
  have queued : ((engine.performCalls listen request).flatMap Call.writes).take
      engine.settings.maxSettleWrites = [far, near] := by decide +kernel
  have results : (engine.opened? request).map (fun (opened, told) =>
      ((Round.run listen opened told).engine.attempts listen [far, near]).map
        (·.result.toBool)) = some [false, true] := by decide +kernel
  obtain ⟨⟨opened, told⟩, opens, outcome⟩ := Option.map_eq_some_iff.mp results
  obtain ⟨-, -, -, fails⟩ := cascade request opened told opens
  rw [queued] at fails
  exact ⟨opened, told, opens, outcome, fails⟩

end Engine

end LiveBinding
