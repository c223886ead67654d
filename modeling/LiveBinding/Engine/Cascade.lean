import LiveBinding.Engine.Basic

/-!
# Changes and their cascades

A change of a context opens a round: every live subscription that reads the context and sees it
from its node is told its new value, in the order of the numbers. Who is told is fixed when the
round opens. During the round listeners ask for effects:

* an unbinding and a detaching take effect on the rest of the round at once;
* texts are rebound and nodes are detached when the round is over, in this order;
* writes are queued.

Then the queued writes are done one by one, first come first served, each with a round of its own.
The number of queued writes that one change may lead to is limited, so every cascade ends.
-/

namespace LiveBinding

namespace Engine

variable {κ σ : Type}

/-- The subscriptions that read a context and see the one that a node declares. -/
def affected (engine : Engine κ σ) (owner : NodeId) (id : String) : List SubscriptionId :=
  (engine.subscriptions.live.filter fun entry =>
    entry.2.watched.references id && engine.tree.owner? entry.2.node id == some owner).map (·.1)

/-- Do a write in the tree. Answers the node that declares the context and the tree after it. -/
def writeTree (engine : Engine κ σ) (request : WriteRequest) :
    Except WriteError (NodeId × Tree) :=
  match Path.read request.path with
  | .error error => .error (.invalidPath request.path error)
  | .ok path =>
    match engine.tree.owner? request.origin request.contextId with
    | none => .error (.targetMissing request.contextId request.origin)
    | some owner =>
      let policy := request.policy.getD engine.settings.defaultPolicy
      match engine.tree.writeContext owner request.contextId
          (Value.write? policy path request.value) with
      | none => .error (.pathUnreachable request.contextId path)
      | some tree => .ok (owner, tree)

end Engine

/-- A round of notifications on its way. -/
structure Round (κ σ : Type) where
  engine : Engine κ σ
  cancelled : List SubscriptionId := []
  rebinds : List (SubscriptionId × String) := []
  detaches : List NodeId := []
  queue : List WriteRequest := []
  journal : List Event := []

namespace Round

variable {κ σ : Type}

/-- Take in an effect. -/
def take (round : Round κ σ) : Effect → Round κ σ
  | .write request =>
    { round with
      queue := round.queue ++ [request]
      journal := round.journal ++ [.queued request] }
  | .unbind id =>
    { round with
      cancelled := id :: round.cancelled
      engine := (round.engine.unbind id).engine }
  | .rebind id text => { round with rebinds := round.rebinds ++ [(id, text)] }
  | .detach node =>
    { round with
      cancelled :=
        round.engine.subscriptions.idsOn (round.engine.tree.subtree node) ++ round.cancelled
      detaches := round.detaches ++ [node] }

/-- Tell the listener of a subscription its value and take in its effects, unless the
subscription was cancelled in this round or is gone. -/
def notify (listen : Listen κ σ) (round : Round κ σ) (id : SubscriptionId) : Round κ σ :=
  if round.cancelled.contains id then round
  else
    match round.engine.subscriptions.get? id with
    | none => round
    | some subscription =>
      let value := round.engine.evaluateOn subscription.node subscription.watched
      let notification : Notification := ⟨id, subscription.node, value⟩
      let (effects, memory) := listen subscription.listener notification round.engine.memory
      let told := { round with
        engine := { round.engine with memory }
        journal := round.journal ++ [.notified notification] }
      effects.foldl take told

/-- Rebind a text as it was asked for. -/
def rebindOne (round : Round κ σ) (rebinding : SubscriptionId × String) : Round κ σ :=
  let step := round.engine.rebind rebinding.1 rebinding.2
  { round with engine := step.engine, journal := round.journal ++ step.journal }

/-- Detach a node as it was asked for. -/
def detachOne (round : Round κ σ) (node : NodeId) : Round κ σ :=
  { round with engine := (round.engine.detach node).engine }

/-- Do what was put off to the end of the round. -/
def close (round : Round κ σ) : Round κ σ :=
  let rebound := round.rebinds.foldl rebindOne round
  round.detaches.foldl detachOne rebound

/-- The round that tells some subscriptions, from its opening to its end. -/
def run (listen : Listen κ σ) (engine : Engine κ σ) (told : List SubscriptionId) : Round κ σ :=
  (told.foldl (notify listen) { engine }).close

end Round

namespace Engine

variable {κ σ : Type}

/-- Do queued writes, at most `budget` of them, each with its round. -/
def drain (listen : Listen κ σ) :
    (budget : Nat) → List WriteRequest → Engine κ σ → Engine κ σ × List Event
  | _, [], engine => (engine, [])
  | 0, request :: rest, engine =>
    (engine, [.limitReached engine.settings.maxSettleWrites (request :: rest).length])
  | budget + 1, request :: rest, engine =>
    match engine.writeTree request with
    | .error error =>
      let (final, journal) := drain listen budget rest engine
      (final, .refused request error :: journal)
    | .ok (owner, tree) =>
      let changed := { engine with tree }
      let round := Round.run listen changed (changed.affected owner request.contextId)
      let (final, journal) := drain listen budget (rest ++ round.queue) round.engine
      (final, .written request owner :: round.journal ++ journal)

/-- The cascade that starts by telling some subscriptions. -/
def settle (listen : Listen κ σ) (engine : Engine κ σ) (told : List SubscriptionId) :
    Engine κ σ × List Event :=
  let round := Round.run listen engine told
  let (final, journal) :=
    drain listen engine.settings.maxSettleWrites round.queue round.engine
  (final, round.journal ++ journal)

/-- What a write that was done tells: the node that declares the context, and how many listeners
were told. -/
structure Written where
  owner : NodeId
  notified : Nat
  deriving DecidableEq

/-- Write into a context that is seen from a node, and tell everybody concerned. -/
def write (listen : Listen κ σ) (engine : Engine κ σ) (request : WriteRequest) :
    Step κ σ (Except WriteError Written) :=
  match engine.writeTree request with
  | .error error => ⟨engine, .error error, []⟩
  | .ok (owner, tree) =>
    let changed := { engine with tree }
    let (final, journal) := settle listen changed (changed.affected owner request.contextId)
    ⟨final, .ok ⟨owner, Event.countNotified journal⟩, journal⟩

/-- Declare a context on a node and tell everybody who now sees it. Answers how many listeners
were told. -/
def declare (listen : Listen κ σ) (engine : Engine κ σ) (node : NodeId) (context : Context) :
    Step κ σ (Except Tree.Error Nat) :=
  match engine.tree.declare node context with
  | .error error => ⟨engine, .error error, []⟩
  | .ok (_, tree) =>
    let changed := { engine with tree }
    let (final, journal) := settle listen changed (changed.affected node context.id)
    ⟨final, .ok (Event.countNotified journal), journal⟩

/-- Remove a context from a node and tell everybody who saw it. Answers how many listeners were
told, if the node declares the context. -/
def removeContext (listen : Listen κ σ) (engine : Engine κ σ) (node : NodeId) (id : String) :
    Step κ σ (Option Nat) :=
  match engine.tree.removeContext node id with
  | none => ⟨engine, none, []⟩
  | some (_, tree) =>
    let (final, journal) := settle listen { engine with tree } (engine.affected node id)
    ⟨final, some (Event.countNotified journal), journal⟩

end Engine

end LiveBinding
