import LiveBinding.Value.Basic
import LiveBinding.Text.Numeral

/-!
# Contexts and handles

A context is a named value that a node declares. Nodes are known by handles: the place of the node
in its tree, and a count that tells apart the nodes that stood in one place one after the other.
-/

namespace LiveBinding

/-- A named value. -/
structure Context where
  id : String
  value : Value
  deriving DecidableEq

/-- A handle of a node. The generation counts the nodes that left the place before it, in 32
bits. -/
structure NodeId where
  index : Nat
  generation : UInt32
  deriving DecidableEq, Repr, Inhabited

/-- How messages show a handle. -/
def NodeId.toText (node : NodeId) : String :=
  "NodeId \x7b index: " ++ Text.natText node.index ++ ", generation: " ++
    Text.natText node.generation.toNat ++ " \x7d"

/-- Who dispatches an event that brings contexts of its own. -/
structure SenderId where
  value : UInt64
  deriving DecidableEq, Repr

end LiveBinding
