import LiveBinding.Context.Tree
import LiveBinding.Evaluation

/-!
# Subscriptions

A subscription keeps the value of a text on a node up to date. It names the listener to be told
when the value may have changed. Subscriptions are numbered in the order in which they were made,
and no number is used twice.
-/

namespace LiveBinding

/-- What a subscription evaluates. -/
inductive Watched where
  | expr (expr : Expr)
  | template (template : Template)
  deriving DecidableEq

namespace Watched

/-- The contexts that are read, in ascending order. -/
def contextIds : Watched → List String
  | .expr found => found.contextIds
  | .template found => found.contextIds

/-- Whether a context is read. -/
def references (watched : Watched) (id : String) : Bool := watched.contextIds.contains id

/-- Whether the text is a template. -/
def isTemplate : Watched → Bool
  | .expr _ => false
  | .template _ => true

/-- The value in a scope. -/
def evaluate (registry : Registry) (scope : Scope) : Watched → Value
  | .expr found => found.evaluate registry scope
  | .template found => found.evaluate registry scope

end Watched

/-- The number of a subscription. -/
structure SubscriptionId where
  number : Nat
  deriving DecidableEq, Repr

/-- A watched text on a node, and the listener to be told. -/
structure Subscription (κ : Type) where
  node : NodeId
  watched : Watched
  listener : κ
  deriving DecidableEq

/-- The live subscriptions in ascending order, and the last number that was given out. -/
structure Subscriptions (κ : Type) where
  issued : Nat
  live : List (SubscriptionId × Subscription κ)

namespace Subscriptions

variable {κ : Type}

/-- No subscriptions yet. -/
def empty : Subscriptions κ := ⟨0, []⟩

/-- The number that the next subscription gets. -/
def nextId (subscriptions : Subscriptions κ) : SubscriptionId := ⟨subscriptions.issued + 1⟩

/-- Add a subscription under the next number. -/
def add (subscriptions : Subscriptions κ) (subscription : Subscription κ) : Subscriptions κ :=
  ⟨subscriptions.issued + 1, subscriptions.live ++ [(subscriptions.nextId, subscription)]⟩

/-- The subscription of a number. -/
def get? (subscriptions : Subscriptions κ) (id : SubscriptionId) : Option (Subscription κ) :=
  subscriptions.live.lookup id

/-- Whether a subscription is live. -/
def contains (subscriptions : Subscriptions κ) (id : SubscriptionId) : Bool :=
  (subscriptions.get? id).isSome

/-- End a subscription. -/
def remove (subscriptions : Subscriptions κ) (id : SubscriptionId) : Subscriptions κ :=
  { subscriptions with live := subscriptions.live.filter (·.1 ≠ id) }

/-- End the subscriptions on some nodes. -/
def removeOn (subscriptions : Subscriptions κ) (nodes : List NodeId) : Subscriptions κ :=
  { subscriptions with live := subscriptions.live.filter (!nodes.contains ·.2.node) }

/-- The subscriptions on some nodes. -/
def idsOn (subscriptions : Subscriptions κ) (nodes : List NodeId) : List SubscriptionId :=
  (subscriptions.live.filter (nodes.contains ·.2.node)).map (·.1)

/-- Let a subscription watch something else. -/
def retarget (subscriptions : Subscriptions κ) (id : SubscriptionId) (watched : Watched) :
    Subscriptions κ :=
  { subscriptions with
    live := subscriptions.live.map fun entry =>
      if entry.1 = id then (id, { entry.2 with watched }) else entry }

/-- The number of live subscriptions. -/
def size (subscriptions : Subscriptions κ) : Nat := subscriptions.live.length

end Subscriptions

end LiveBinding
