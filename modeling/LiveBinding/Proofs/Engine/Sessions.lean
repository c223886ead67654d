import LiveBinding.Proofs.Engine.Detachment

/-!
# Sessions

Whoever has an engine makes requests of it, looks at it, and adds and drops operations, in any
order.  A session is the list of these turns, each with what came of it.  The way in which requests
are done is a parameter, so that two ways can be compared on the same session.
-/

namespace LiveBinding

/-- A look at an engine, which changes nothing. -/
inductive Query where
  | contains (node : NodeId)
  | size
  | parent (node : NodeId)
  | children (node : NodeId)
  | subtree (node : NodeId)
  | declared (node : NodeId)
  | implicit (node : NodeId) (sender : SenderId)
  | scope (node : NodeId)
  | scopeFor (node : NodeId) (sender : SenderId)
  | evaluate (node : NodeId) (text : String)
  | evaluateTemplate (node : NodeId) (text : String)
  | evaluateFor (node : NodeId) (sender : SenderId) (text : String)
  | subscriptionCount
  | operations
  | settings
  deriving DecidableEq

/-- What is done in one turn of a session. -/
inductive Act (κ : Type) where
  | request (request : Request κ)
  | query (query : Query)
  | register (name : String) (operation : Operation)
  | unregister (name : String)

/-- What is answered in a turn. -/
inductive Reply where
  | done (answer : Answer)
  | registered (result : Except Registry.Error Unit)
  | unregistered (wasThere : Bool)
  | truth (holds : Bool)
  | count (number : Nat)
  | node (found : Option NodeId)
  | nodes (found : List NodeId)
  | contexts (found : List Context)
  | context (found : Option Context)
  | scope (seen : Scope)
  | value (value : Value)
  | operations (registry : Registry)
  | settings (settings : Settings)

/-- A turn of a session. -/
structure Turn (ι κ σ : Type) where
  act : Act ι
  step : Step κ σ Reply

/-- A way of doing requests. -/
abbrev Performs (ι κ σ : Type) := Engine κ σ → Request ι → Step κ σ Answer

namespace Engine

variable {ι κ σ : Type} {performs : Performs ι κ σ} {engine : Engine κ σ}

/-- Look at an engine. -/
def ask (engine : Engine κ σ) : Query → Step κ σ Reply
  | .contains node => ⟨engine, .truth (engine.tree.contains node), []⟩
  | .size => ⟨engine, .count engine.tree.size, []⟩
  | .parent node => ⟨engine, .node (engine.tree.parent? node), []⟩
  | .children node => ⟨engine, .nodes (engine.tree.children node), []⟩
  | .subtree node => ⟨engine, .nodes (engine.tree.subtree node), []⟩
  | .declared node => ⟨engine, .contexts (engine.tree.declared node), []⟩
  | .implicit node sender => ⟨engine, .context (engine.tree.implicit? node sender), []⟩
  | .scope node => ⟨engine, .scope (engine.tree.scope node), []⟩
  | .scopeFor node sender => ⟨engine, .scope (engine.tree.scopeFor node sender), []⟩
  | .evaluate node text => (engine.evaluateText node text).map .value
  | .evaluateTemplate node text => (engine.evaluateTemplateText node text).map .value
  | .evaluateFor node sender text => (engine.evaluateForSender node sender text).map .value
  | .subscriptionCount => ⟨engine, .count engine.subscriptions.size, []⟩
  | .operations => ⟨engine, .operations engine.registry, []⟩
  | .settings => ⟨engine, .settings engine.settings, []⟩

/-- Do what is to be done in a turn. -/
def act (performs : Performs ι κ σ) (engine : Engine κ σ) : Act ι → Step κ σ Reply
  | .request request => (performs engine request).map .done
  | .query query => engine.ask query
  | .register name operation => (engine.register name operation).map .registered
  | .unregister name => (engine.unregister name).map .unregistered

/-- The turns of a session, each in the engine that the one before it left. -/
def session (performs : Performs ι κ σ) : Engine κ σ → List (Act ι) → List (Turn ι κ σ)
  | _, [] => []
  | engine, act :: rest =>
    let step := engine.act performs act
    ⟨act, step⟩ :: session performs step.engine rest

/-- The engine at the end of a session. -/
def afterSession (performs : Performs ι κ σ) (engine : Engine κ σ) (acts : List (Act ι)) :
    Engine κ σ :=
  acts.foldl (fun engine act => (engine.act performs act).engine) engine

theorem engine_ask (engine : Engine κ σ) (query : Query) : (engine.ask query).engine = engine := by
  cases query <;> rfl

/-- A turn is a request, or nothing changes but the operations. -/
theorem act_cases (performs : Performs ι κ σ) (engine : Engine κ σ) (act : Act ι) :
    (∃ request, act = .request request) ∨
      ∃ registry, (engine.act performs act).engine = { engine with registry } := by
  cases act with
  | request request => exact .inl ⟨request, rfl⟩
  | query query => exact .inr ⟨engine.registry, engine.engine_ask query⟩
  | register name operation =>
      right
      rw [Engine.act, Step.map, Engine.register]
      cases engine.registry.register name operation with
      | error => exact ⟨engine.registry, rfl⟩
      | ok registry => exact ⟨registry, rfl⟩
  | unregister name => exact .inr ⟨engine.registry.unregister name, rfl⟩

/-- What a request keeps, and what the operations have no part in, holds to the end of every
session. -/
theorem afterSession_induction {keeps : Engine κ σ → Prop} (start : keeps engine)
    (onRequest : ∀ engine request, keeps engine → keeps (performs engine request).engine)
    (onRegistry : ∀ (engine : Engine κ σ) registry, keeps engine → keeps { engine with registry })
    (acts : List (Act ι)) : keeps (engine.afterSession performs acts) := by
  induction acts generalizing engine with
  | nil => exact start
  | cons act rest ih =>
      suffices after : keeps (engine.act performs act).engine from ih after
      obtain ⟨request, rfl⟩ | ⟨registry, result⟩ := engine.act_cases performs act
      · exact onRequest engine request start
      · rw [result]
        exact onRegistry engine registry start

theorem Sound.afterSession (sound : engine.Sound) (listen : Listen κ σ) (acts : List (Act κ)) :
    (engine.afterSession (Engine.perform listen) acts).Sound :=
  afterSession_induction sound (fun _ request sound => sound.perform listen request)
    (fun _ registry sound => sound.withRegistry registry) acts

end Engine

end LiveBinding
