import LiveBinding.Engine.Effect

/-!
# The engine

An engine holds a tree of nodes, the operations, the live subscriptions, and what the listeners
remember. This module has the operations that notify nobody: evaluation, binding and the changes
of the tree that no subscription can see.

Every operation answers the engine after it, an answer, and the journal of what happened.
-/

namespace LiveBinding

/-- The state of an engine. Listeners are named by `κ` and share the memory `σ`. -/
structure Engine (κ σ : Type) where
  tree : Tree
  registry : Registry
  subscriptions : Subscriptions κ
  settings : Settings
  memory : σ

/-- The outcome of an operation. -/
structure Step (κ σ α : Type) where
  engine : Engine κ σ
  answer : α
  journal : List Event := []

/-- The value of a bound text, and the subscription that keeps it up to date if there is one. -/
structure Bound where
  subscription : Option SubscriptionId
  value : Value
  deriving DecidableEq

namespace Engine

variable {κ σ : Type}

/-- An engine without nodes. -/
def new (settings : Settings) (memory : σ) : Engine κ σ :=
  ⟨.empty, .empty, .empty, settings, memory⟩

/-! ### Evaluation -/

/-- The events of a text that is no expression. -/
def exprEvents (engine : Engine κ σ) (text : String) : Expr → List Event
  | .invalid _ fault => if engine.settings.logParseFailures then [.unreadable text fault] else []
  | _ => []

/-- The events of a template with parts that are no expressions. -/
def templateEvents (engine : Engine κ σ) (template : Template) : List Event :=
  if engine.settings.logParseFailures then
    template.failures.map fun failure => .unreadablePart failure.1 template.source failure.2
  else []

/-- The value of what is watched on a node. -/
def evaluateOn (engine : Engine κ σ) (node : NodeId) (watched : Watched) : Value :=
  watched.evaluate engine.registry (engine.tree.scope node)

/-- The value of an expression on a node. -/
def evaluateText (engine : Engine κ σ) (node : NodeId) (text : String) : Step κ σ Value :=
  let expr := Expr.ofText text
  ⟨engine, engine.evaluateOn node (.expr expr), engine.exprEvents text expr⟩

/-- The value of a template on a node. -/
def evaluateTemplateText (engine : Engine κ σ) (node : NodeId) (text : String) :
    Step κ σ Value :=
  let template := Template.ofText text
  ⟨engine, engine.evaluateOn node (.template template), engine.templateEvents template⟩

/-- The value of an expression on a node on behalf of a sender. -/
def evaluateForSender (engine : Engine κ σ) (node : NodeId) (sender : SenderId)
    (text : String) : Step κ σ Value :=
  let expr := Expr.ofText text
  ⟨engine, expr.evaluate engine.registry (engine.tree.scopeFor node sender),
    engine.exprEvents text expr⟩

/-! ### The tree -/

/-- Attach a new node below a parent, or as a root. -/
def attach (engine : Engine κ σ) (parent : Option NodeId) :
    Step κ σ (Except Tree.Error NodeId) :=
  match engine.tree.attach parent with
  | .error error => ⟨engine, .error error, []⟩
  | .ok (node, tree) => ⟨{ engine with tree }, .ok node, []⟩

/-- Detach a node with its descendants and end their subscriptions. Answers the number of nodes
that are gone. -/
def detach (engine : Engine κ σ) (node : NodeId) : Step κ σ Nat :=
  let (removed, tree) := engine.tree.detach node
  ⟨{ engine with tree, subscriptions := engine.subscriptions.removeOn removed },
    removed.length, []⟩

/-- Give a node the implicit context of a sender. -/
def addImplicit (engine : Engine κ σ) (node : NodeId) (sender : SenderId)
    (context : Context) : Step κ σ (Except Tree.Error Unit) :=
  match engine.tree.setImplicit node sender context with
  | .error error => ⟨engine, .error error, []⟩
  | .ok tree => ⟨{ engine with tree }, .ok (), []⟩

/-- Drop the implicit contexts of a sender. Answers how many there were. -/
def clearImplicit (engine : Engine κ σ) (sender : SenderId) : Step κ σ Nat :=
  ⟨{ engine with tree := engine.tree.clearImplicit sender }, engine.tree.countImplicit sender, []⟩

/-! ### Operations -/

/-- Register an operation. -/
def register (engine : Engine κ σ) (name : String) (operation : Operation) :
    Step κ σ (Except Registry.Error Unit) :=
  match engine.registry.register name operation with
  | .error error => ⟨engine, .error error, []⟩
  | .ok registry => ⟨{ engine with registry }, .ok (), []⟩

/-- Drop a registered operation. Answers whether there was one. -/
def unregister (engine : Engine κ σ) (name : String) : Step κ σ Bool :=
  ⟨{ engine with registry := engine.registry.unregister name },
    engine.registry.isCustom name, []⟩

/-! ### Bindings -/

/-- Subscribe a listener to the value of a text on a node. -/
def subscribe (engine : Engine κ σ) (node : NodeId) (watched : Watched) (listener : κ)
    (journal : List Event) : Step κ σ (Except Tree.Error Bound) :=
  if engine.tree.contains node then
    ⟨{ engine with subscriptions := engine.subscriptions.add ⟨node, watched, listener⟩ },
      .ok ⟨some engine.subscriptions.nextId, engine.evaluateOn node watched⟩, journal⟩
  else ⟨engine, .error (.unknownNode node), journal⟩

/-- Bind an expression on a node. Text that is no expression is its own value, whatever the node,
and there is nothing to keep up to date. -/
def bind (engine : Engine κ σ) (node : NodeId) (text : String) (listener : κ) :
    Step κ σ (Except Tree.Error Bound) :=
  let expr := Expr.ofText text
  let journal := engine.exprEvents text expr
  if expr.isInvalid then ⟨engine, .ok ⟨none, .string text⟩, journal⟩
  else engine.subscribe node (.expr expr) listener journal

/-- Bind a template on a node. Without a valid expression there is nothing to keep up to date. -/
def bindTemplate (engine : Engine κ σ) (node : NodeId) (text : String) (listener : κ) :
    Step κ σ (Except Tree.Error Bound) :=
  let template := Template.ofText text
  let journal := engine.templateEvents template
  if template.hasValid then engine.subscribe node (.template template) listener journal
  else if engine.tree.contains node then
    ⟨engine, .ok ⟨none, template.evaluate engine.registry .empty⟩, journal⟩
  else ⟨engine, .error (.unknownNode node), journal⟩

/-- Let a subscription watch another text of the same kind. Text that is no expression ends the
subscription and is its own value. There is no answer for a subscription that is not live. -/
def rebind (engine : Engine κ σ) (id : SubscriptionId) (text : String) :
    Step κ σ (Option Value) :=
  match engine.subscriptions.get? id with
  | none => ⟨engine, none, []⟩
  | some subscription =>
    if subscription.watched.isTemplate then
      let template := Template.ofText text
      ⟨{ engine with
          subscriptions := engine.subscriptions.retarget id (.template template) },
        some (engine.evaluateOn subscription.node (.template template)),
        engine.templateEvents template ++ [.rebound id text]⟩
    else
      let expr := Expr.ofText text
      let journal := engine.exprEvents text expr
      if expr.isInvalid then
        ⟨{ engine with subscriptions := engine.subscriptions.remove id },
          some (.string text), journal⟩
      else
        ⟨{ engine with subscriptions := engine.subscriptions.retarget id (.expr expr) },
          some (engine.evaluateOn subscription.node (.expr expr)),
          journal ++ [.rebound id text]⟩

/-- End a subscription. Answers whether it was live. -/
def unbind (engine : Engine κ σ) (id : SubscriptionId) : Step κ σ Bool :=
  ⟨{ engine with subscriptions := engine.subscriptions.remove id },
    engine.subscriptions.contains id, []⟩

end Engine

end LiveBinding
