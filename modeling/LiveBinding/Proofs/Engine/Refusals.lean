import LiveBinding.Proofs.Context.Handles
import LiveBinding.Proofs.Engine.Detachment

/-!
# Requests about nodes that are not there

A request may name a node that was detached, or that there never was.  Whatever else it asks for,
it is refused and leaves no trace: the engine after it is the engine before it, and no listener is
called.  Only one request is answered as if it did not matter where it is made: a text that is no
expression is its own value on every node, and binding it asks for no node.
-/

namespace LiveBinding

variable {κ σ : Type} {engine : Engine κ σ} {listen : Listen κ σ} {node : NodeId}
  {text : String}

/-- The node that a request names: where a new node is attached, where a write starts, and
otherwise the node that the request is about. -/
def Request.place? : Request κ → Option NodeId
  | .attach parent => parent
  | .detach node => some node
  | .declare node _ => some node
  | .removeContext node _ => some node
  | .addImplicit node _ _ => some node
  | .bind node _ _ => some node
  | .bindTemplate node _ _ => some node
  | .write request => some request.origin
  | .clearImplicit _ => none
  | .rebind _ _ => none
  | .unbind _ => none

/-- Whether a request binds a text that is no expression. -/
def Request.bindsConstant : Request κ → Bool
  | .bind _ text _ => (Expr.ofText text).isInvalid
  | _ => false

/-- The answers that tell that the node which a request names is not there.  A write tells it as a
context that is not seen, unless its path cannot be read. -/
inductive Request.Refused : Request κ → Answer → Prop where
  | attach (parent : NodeId) :
      Refused (.attach (some parent)) (.attached (.error (.unknownNode parent)))
  | detach (node : NodeId) : Refused (.detach node) (.detached 0)
  | declare (node : NodeId) (context : Context) :
      Refused (.declare node context) (.declared (.error (.unknownNode node)))
  | removeContext (node : NodeId) (name : String) :
      Refused (.removeContext node name) (.removed none)
  | addImplicit (node : NodeId) (sender : SenderId) (context : Context) :
      Refused (.addImplicit node sender context) (.implicitAdded (.error (.unknownNode node)))
  | bind (node : NodeId) (text : String) (listener : κ) :
      Refused (.bind node text listener) (.bound (.error (.unknownNode node)))
  | bindTemplate (node : NodeId) (text : String) (listener : κ) :
      Refused (.bindTemplate node text listener) (.bound (.error (.unknownNode node)))
  | invalidPath (request : WriteRequest) (error : ParseError) :
      Refused (.write request) (.written (.error (.invalidPath request.path error)))
  | targetMissing (request : WriteRequest) :
      Refused (.write request)
        (.written (.error (.targetMissing request.contextId request.origin)))

/-- Nobody is on no nodes. -/
theorem Subscriptions.removeOn_nil (store : Subscriptions κ) : store.removeOn [] = store := by
  have all : store.live.filter (fun entry => !([] : List NodeId).contains entry.2.node) =
      store.live := List.filter_eq_self.mpr fun _ _ => rfl
  rw [removeOn, all]

/-- Nothing is seen from a node that is not there. -/
theorem Tree.owner?_of_not_contains {tree : Tree} (absent : ¬tree.contains node = true)
    (name : String) : tree.owner? node name = none := by
  rw [Tree.owner?, (Tree.isUnknown_of_not_contains absent).scope]
  rfl

namespace Engine

/-- What a request is that leaves no trace: the engine is as it was, nobody was called, and the
journal tells at most that a text could not be read. -/
structure IsInert (listen : Listen κ σ) (engine : Engine κ σ) (request : Request κ) : Prop where
  unchanged : (engine.perform listen request).engine = engine
  calls : engine.performCalls listen request = []
  journal : ∀ event ∈ (engine.perform listen request).journal, event.isAboutText = true

/-! ### The operations on an unknown node -/

/-- A write from a node that is not there fails before it looks at any context. -/
theorem writeTree_of_not_contains {request : WriteRequest}
    (absent : ¬engine.tree.contains request.origin = true) :
    ∃ error, engine.writeTree request = .error error ∧
      (Request.write request : Request κ).Refused (.written (.error error)) := by
  rw [writeTree]
  cases Path.read request.path with
  | error fault => exact ⟨_, rfl, .invalidPath request fault⟩
  | ok path =>
      simp only [Tree.owner?_of_not_contains absent]
      exact ⟨_, rfl, .targetMissing request⟩

theorem subscribe_of_not_contains (absent : ¬engine.tree.contains node = true)
    (watched : Watched) (listener : κ) (journal : List Event) :
    engine.subscribe node watched listener journal =
      ⟨engine, .error (.unknownNode node), journal⟩ := by
  rw [subscribe, if_neg absent]

/-- A template is refused whether or not there is an expression in it. -/
theorem bindTemplate_of_not_contains (absent : ¬engine.tree.contains node = true)
    (listener : κ) :
    engine.bindTemplate node text listener =
      ⟨engine, .error (.unknownNode node), engine.templateEvents (Template.ofText text)⟩ := by
  simp only [bindTemplate, if_neg absent, subscribe_of_not_contains absent, ite_self]

/-- A text that is no expression is its own value on every node. -/
theorem bind_of_isInvalid (invalid : (Expr.ofText text).isInvalid = true) (listener : κ) :
    engine.bind node text listener =
      ⟨engine, .ok ⟨none, .string text⟩, engine.exprEvents text (Expr.ofText text)⟩ := by
  simp only [Engine.bind, if_pos invalid]

theorem bind_of_not_contains (absent : ¬engine.tree.contains node = true)
    (valid : (Expr.ofText text).isInvalid = false) (listener : κ) :
    engine.bind node text listener =
      ⟨engine, .error (.unknownNode node), engine.exprEvents text (Expr.ofText text)⟩ := by
  simp only [Engine.bind, if_neg (Bool.eq_false_iff.mp valid), subscribe_of_not_contains absent]

/-! ### Requests that name an unknown node -/

variable {request : Request κ} {answer : Answer} {journal : List Event}

theorem isInert_of_step (step : engine.perform listen request = ⟨engine, answer, journal⟩)
    (calls : engine.performCalls listen request = [])
    (aboutText : ∀ event ∈ journal, event.isAboutText = true) :
    engine.IsInert listen request := by
  refine ⟨?_, calls, ?_⟩
  all_goals rw [step]
  exact aboutText

/-- A request that is answered by a refusal, and that does not bind a constant. -/
theorem inert_of_refused (step : engine.perform listen request = ⟨engine, answer, journal⟩)
    (calls : engine.performCalls listen request = [])
    (aboutText : ∀ event ∈ journal, event.isAboutText = true) (refused : request.Refused answer)
    (notConstant : request.bindsConstant = false) :
    engine.IsInert listen request ∧
      (request.Refused (engine.perform listen request).answer ↔ request.bindsConstant = false) ∧
      ∀ text listener, request = .bind node text listener → request.bindsConstant = true →
        (engine.perform listen request).answer = .bound (.ok ⟨none, .string text⟩) := by
  refine ⟨isInert_of_step step calls aboutText, ?_, fun _ _ _ constant => ?_⟩
  · rw [step]
    exact iff_of_true refused notConstant
  · rw [notConstant] at constant
    contradiction

/-- Every request that names a node which is not in the tree leaves the engine as it is and calls
nobody.  It is refused, unless it binds a text that is no expression; such a text is its own value,
and nothing is kept up to date. -/
theorem inert_of_not_contains (listen : Listen κ σ) (engine : Engine κ σ) (node : NodeId)
    (absent : engine.tree.contains node = false) (request : Request κ)
    (named : request.place? = some node) :
    engine.IsInert listen request ∧
      (request.Refused (engine.perform listen request).answer ↔ request.bindsConstant = false) ∧
      ∀ text listener, request = .bind node text listener → request.bindsConstant = true →
        (engine.perform listen request).answer = .bound (.ok ⟨none, .string text⟩) := by
  have absent : ¬engine.tree.contains node = true := Bool.eq_false_iff.mp absent
  have unknown := Tree.isUnknown_of_not_contains absent
  have nothing : ∀ event ∈ ([] : List Event), event.isAboutText = true := by simp
  cases request with
  | attach parent =>
      cases named
      refine inert_of_refused ?_ rfl nothing (.attach node) rfl
      rw [perform, Step.map, Engine.attach, unknown.attach]
  | detach other =>
      cases named
      refine inert_of_refused ?_ rfl nothing (.detach node) rfl
      simp only [perform, Step.map, Engine.detach, unknown.detach, Subscriptions.removeOn_nil,
        List.length_nil]
  | declare other context =>
      cases named
      refine inert_of_refused ?_ ?_ nothing (.declare node context) rfl
      · rw [perform, Step.map, Engine.declare, unknown.declare]
      · rw [performCalls, unknown.declare]
  | removeContext other name =>
      cases named
      refine inert_of_refused ?_ ?_ nothing (.removeContext node name) rfl
      · rw [perform, Step.map, Engine.removeContext, unknown.removeContext]
      · rw [performCalls, unknown.removeContext]
  | addImplicit other sender context =>
      cases named
      refine inert_of_refused ?_ rfl nothing (.addImplicit node sender context) rfl
      rw [perform, Step.map, Engine.addImplicit, unknown.setImplicit]
  | bind other text listener =>
      cases named
      have aboutText := engine.exprEvents_isAboutText text (Expr.ofText text)
      cases constant : (Expr.ofText text).isInvalid with
      | false =>
          refine inert_of_refused ?_ rfl aboutText (.bind node text listener) constant
          rw [perform, Step.map, bind_of_not_contains absent constant]
      | true =>
          have step : engine.perform listen (.bind node text listener) =
              ⟨engine, .bound (.ok ⟨none, .string text⟩),
                engine.exprEvents text (Expr.ofText text)⟩ := by
            rw [perform, Step.map, bind_of_isInvalid constant]
          refine ⟨isInert_of_step step rfl aboutText, ?_, fun other listener same _ => ?_⟩
          · rw [step, Request.bindsConstant, constant]
            exact iff_of_false (by rintro ⟨⟩) Bool.noConfusion
          · cases same
            rw [step]
  | bindTemplate other text listener =>
      cases named
      refine inert_of_refused ?_ rfl (engine.templateEvents_isAboutText (Template.ofText text))
        (.bindTemplate node text listener) rfl
      rw [perform, Step.map, bindTemplate_of_not_contains absent]
  | write request =>
      cases named
      obtain ⟨error, failed, refused⟩ := writeTree_of_not_contains (κ := κ) absent
      refine inert_of_refused ?_ ?_ nothing refused rfl
      · rw [perform, Step.map, Engine.write, failed]
      · rw [performCalls, failed]
  | clearImplicit | rebind | unbind => contradiction

/-- The slot of a node that was detached is used for another node, which declares a context and has
a subscriber.  Nothing is written from the old handle, and of the texts that are bound on it one is
no expression. -/
theorem inert_of_not_contains_reused :
    let old : NodeId := ⟨0, 0⟩
    let new : NodeId := ⟨0, 1⟩
    let listen : Listen Unit Unit := fun _ _ memory => ([], memory)
    let start : Engine Unit Unit := Engine.new {} ()
    let engine := start.run listen [.attach none, .detach old, .attach none,
      .declare new ⟨"c", .null⟩, .bind new "c" ()]
    let write : Request Unit := .write ⟨old, "c", "", .bool true, none⟩
    let constant : Request Unit := .bind old "c(" ()
    (engine.tree.contains old = false ∧ engine.tree.contains new = true ∧
        engine.subscriptions.size = 1) ∧
      (write.place? = some old ∧ engine.IsInert listen write ∧
        write.Refused (engine.perform listen write).answer) ∧
      constant.place? = some old ∧ engine.IsInert listen constant ∧
        ¬constant.Refused (engine.perform listen constant).answer ∧
        (engine.perform listen constant).answer = .bound (.ok ⟨none, .string "c("⟩) := by
  intro old new listen start engine write constant
  have absent : engine.tree.contains old = false := by decide +kernel
  have live : engine.tree.contains new = true := by decide +kernel
  have subscribed : engine.subscriptions.size = 1 := by decide +kernel
  obtain ⟨inertWrite, refused, -⟩ := inert_of_not_contains listen engine old absent write rfl
  obtain ⟨inertConstant, notRefused, answered⟩ :=
    inert_of_not_contains listen engine old absent constant rfl
  have isConstant : constant.bindsConstant = true := by decide +kernel
  refine ⟨⟨absent, live, subscribed⟩, ⟨rfl, inertWrite, refused.mpr rfl⟩, rfl, inertConstant, ?_,
    answered "c(" () rfl isConstant⟩
  rw [notRefused, isConstant]
  exact Bool.noConfusion

end Engine

end LiveBinding
