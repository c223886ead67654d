import LiveBinding.Engine.Cascade

/-!
# Runs

Every operation on an engine that concerns nodes, contexts or subscriptions, as a request, and
runs of requests one after the other.
-/

namespace LiveBinding

/-- An operation that an engine is asked to do. -/
inductive Request (κ : Type) where
  | attach (parent : Option NodeId)
  | detach (node : NodeId)
  | declare (node : NodeId) (context : Context)
  | removeContext (node : NodeId) (id : String)
  | addImplicit (node : NodeId) (sender : SenderId) (context : Context)
  | clearImplicit (sender : SenderId)
  | bind (node : NodeId) (text : String) (listener : κ)
  | bindTemplate (node : NodeId) (text : String) (listener : κ)
  | rebind (subscription : SubscriptionId) (text : String)
  | unbind (subscription : SubscriptionId)
  | write (request : WriteRequest)
  deriving DecidableEq

/-- The answer to a request. -/
inductive Answer where
  | attached (result : Except Tree.Error NodeId)
  | detached (count : Nat)
  | declared (result : Except Tree.Error Nat)
  | removed (notified : Option Nat)
  | implicitAdded (result : Except Tree.Error Unit)
  | implicitCleared (count : Nat)
  | bound (result : Except Tree.Error Bound)
  | rebound (value : Option Value)
  | unbound (wasLive : Bool)
  | written (result : Except WriteError Engine.Written)

/-- The same step with another answer. -/
def Step.map {κ σ α β : Type} (change : α → β) (step : Step κ σ α) : Step κ σ β :=
  ⟨step.engine, change step.answer, step.journal⟩

namespace Engine

variable {κ σ : Type}

/-- Do what is requested. -/
def perform (listen : Listen κ σ) (engine : Engine κ σ) : Request κ → Step κ σ Answer
  | .attach parent => (engine.attach parent).map .attached
  | .detach node => (engine.detach node).map .detached
  | .declare node context => (engine.declare listen node context).map .declared
  | .removeContext node id => (engine.removeContext listen node id).map .removed
  | .addImplicit node sender context =>
    (engine.addImplicit node sender context).map .implicitAdded
  | .clearImplicit sender => (engine.clearImplicit sender).map .implicitCleared
  | .bind node text listener => (engine.bind node text listener).map .bound
  | .bindTemplate node text listener => (engine.bindTemplate node text listener).map .bound
  | .rebind subscription text => (engine.rebind subscription text).map .rebound
  | .unbind subscription => (engine.unbind subscription).map .unbound
  | .write request => (engine.write listen request).map .written

/-- The steps of a run, each from the engine that the one before it left. -/
def steps (listen : Listen κ σ) : Engine κ σ → List (Request κ) → List (Step κ σ Answer)
  | _, [] => []
  | engine, request :: rest =>
    let step := engine.perform listen request
    step :: steps listen step.engine rest

/-- The engine after a run. -/
def run (listen : Listen κ σ) (engine : Engine κ σ) (requests : List (Request κ)) :
    Engine κ σ :=
  requests.foldl (fun engine request => (engine.perform listen request).engine) engine

end Engine

end LiveBinding
