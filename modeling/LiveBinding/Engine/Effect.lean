import LiveBinding.Engine.Subscription
import LiveBinding.Settings

/-!
# Effects and events

A listener that is told about a value answers with effects: what it wants done. The engine writes
a journal of what happened, in order, from which its warnings are read.
-/

namespace LiveBinding

/-- A write that is asked for: where it starts, what it writes, and its policy if it names one. -/
structure WriteRequest where
  origin : NodeId
  contextId : String
  path : String
  value : Value
  policy : Option WritePolicy := none
  deriving DecidableEq

/-- Why a write fails. -/
inductive WriteError where
  | targetMissing (contextId : String) (origin : NodeId)
  | pathUnreachable (contextId : String) (path : Path)
  | invalidPath (path : String) (error : ParseError)
  deriving DecidableEq, Repr

/-- The wording of a failed write. -/
def WriteError.message : WriteError → String
  | .targetMissing contextId origin =>
    "no context '" ++ contextId ++ "' is visible from node " ++ origin.toText
  | .pathUnreachable contextId path =>
    "path '" ++ Path.toText path ++ "' cannot be reached in context '" ++ contextId ++ "'"
  | .invalidPath path error => "invalid path '" ++ path ++ "': " ++ error.message

/-- What a listener is told. -/
structure Notification where
  subscription : SubscriptionId
  node : NodeId
  value : Value
  deriving DecidableEq

/-- What a listener may ask for. -/
inductive Effect where
  /-- Write once the round of notifications is over. -/
  | write (request : WriteRequest)
  /-- Detach a node. Its subscriptions are told nothing more. -/
  | detach (node : NodeId)
  /-- End a subscription at once. -/
  | unbind (subscription : SubscriptionId)
  /-- Let a subscription watch another text once the round is over. -/
  | rebind (subscription : SubscriptionId) (text : String)
  deriving DecidableEq

/-- How listeners behave: told something, a listener changes what the listeners remember, and
asks for effects. -/
abbrev Listen (κ σ : Type) := κ → Notification → σ → List Effect × σ

/-- What happens in an engine. -/
inductive Event where
  /-- A text is no expression. -/
  | unreadable (text : String) (fault : Expr.Fault)
  /-- An interpolation of a template is no expression. -/
  | unreadablePart (part text : String) (fault : Expr.Fault)
  /-- A listener was told. -/
  | notified (notification : Notification)
  /-- A subscription watches another text from now on. -/
  | rebound (subscription : SubscriptionId) (text : String)
  /-- A write was put at the end of the queue. -/
  | queued (request : WriteRequest)
  /-- A write from the queue was done in the context that a node declares. -/
  | written (request : WriteRequest) (owner : NodeId)
  /-- A write from the queue failed. -/
  | refused (request : WriteRequest) (error : WriteError)
  /-- The limit of queued writes was reached, and the rest of the queue was dropped. -/
  | limitReached (limit dropped : Nat)
  deriving DecidableEq

namespace Event

/-- Whether a listener was told. -/
def isNotified : Event → Bool
  | .notified _ => true
  | _ => false

/-- The warning that an event gives. -/
def warning? : Event → Option String
  | .unreadable text fault =>
    some ("invalid binding expression '" ++ text ++ "': " ++ fault.message)
  | .unreadablePart part text fault =>
    some ("invalid interpolation '" ++ part ++ "' in '" ++ text ++ "': " ++ fault.message)
  | .refused _ error => some ("queued write dropped: " ++ error.message)
  | .limitReached limit dropped =>
    some ("settle limit of " ++ Text.natText limit ++ " writes reached, dropping " ++
      Text.natText dropped ++ " queued write(s)")
  | _ => none

/-- How many listeners were told. -/
def countNotified (journal : List Event) : Nat := journal.countP isNotified

end Event

end LiveBinding
