import LiveBinding.Context.Scope

/-!
# The tree of nodes

Nodes stand in numbered slots. A slot that a node left is used again for the next node, and its
generation is one higher, so that a handle of the old node does not reach the new one. A node
declares contexts, each name once, and holds at most one implicit context for each sender.
-/

namespace LiveBinding

/-- What a node holds: its place in the tree and its contexts, in order of declaration. -/
structure Tree.Node where
  parent : Option NodeId
  children : List NodeId := []
  contexts : List Context := []
  implicits : List (SenderId × Context) := []
  deriving DecidableEq

/-- A slot: the generation that a handle must have, and the node if there is one. -/
structure Tree.Slot where
  generation : UInt32
  node : Option Tree.Node
  deriving DecidableEq

/-- Slots by number, and the empty ones among them, the last one emptied first. -/
structure Tree where
  slots : List Tree.Slot
  free : List Nat
  deriving DecidableEq

/-- Why an operation on the tree fails. -/
inductive Tree.Error where
  | unknownNode (node : NodeId)
  deriving DecidableEq, Repr

/-- The wording of an error. -/
def Tree.Error.message : Tree.Error → String
  | .unknownNode node => "unknown or detached node " ++ node.toText

namespace Tree

/-- The tree without nodes. -/
def empty : Tree := ⟨[], []⟩

instance : Inhabited Tree := ⟨empty⟩

/-- The node of a handle. -/
def node? (tree : Tree) (id : NodeId) : Option Node :=
  tree.slots[id.index]?.bind fun slot =>
    if slot.generation = id.generation then slot.node else none

/-- Whether a handle belongs to a node of the tree. -/
def contains (tree : Tree) (id : NodeId) : Bool := (tree.node? id).isSome

/-- The number of nodes. -/
def size (tree : Tree) : Nat := tree.slots.countP (·.node.isSome)

/-- Change the node of a handle. -/
def modifyNode (tree : Tree) (id : NodeId) (change : Node → Node) : Tree :=
  if tree.contains id then
    { tree with slots := tree.slots.modify id.index fun slot =>
        { slot with node := slot.node.map change } }
  else tree

/-- The parent of a node, unless the node is a root or unknown. -/
def parent? (tree : Tree) (id : NodeId) : Option NodeId := (tree.node? id).bind (·.parent)

/-- The children of a node in the order in which they were attached. -/
def children (tree : Tree) (id : NodeId) : List NodeId := (tree.node? id).elim [] (·.children)

/-- The contexts that a node declares. -/
def declared (tree : Tree) (id : NodeId) : List Context := (tree.node? id).elim [] (·.contexts)

/-- The implicit context of a sender on a node. -/
def implicit? (tree : Tree) (id : NodeId) (sender : SenderId) : Option Context :=
  (tree.node? id).bind fun node => node.implicits.lookup sender

/-! ### Growing and shrinking -/

/-- Attach a new node below a parent, or as a root. -/
def attach (tree : Tree) (parent : Option NodeId) : Except Error (NodeId × Tree) :=
  match parent.filter (!tree.contains ·) with
  | some unknown => .error (.unknownNode unknown)
  | none =>
    let node : Node := { parent }
    let (id, grown) : NodeId × Tree :=
      match tree.free with
      | [] => (⟨tree.slots.length, 0⟩, { tree with slots := tree.slots ++ [⟨0, some node⟩] })
      | index :: free =>
        let generation := tree.slots[index]?.elim 0 (·.generation)
        (⟨index, generation⟩, ⟨tree.slots.set index ⟨generation, some node⟩, free⟩)
    match parent with
    | none => .ok (id, grown)
    | some parent =>
      .ok (id, grown.modifyNode parent fun node =>
        { node with children := node.children ++ [id] })

/-- A node and its descendants down to a depth, parents before children. -/
def subtreeWithin (tree : Tree) : (depth : Nat) → NodeId → List NodeId
  | 0, _ => []
  | depth + 1, id =>
    match tree.node? id with
    | none => []
    | some node => id :: node.children.flatMap (tree.subtreeWithin depth)

/-- A node and all its descendants, parents before children. No chain of descendants is longer
than the number of slots. -/
def subtree (tree : Tree) (id : NodeId) : List NodeId :=
  tree.subtreeWithin tree.slots.length id

/-- Empty a slot. -/
def release (tree : Tree) (id : NodeId) : Tree :=
  ⟨tree.slots.modify id.index fun slot => ⟨slot.generation + 1, none⟩, id.index :: tree.free⟩

/-- Take a node off the list of its parent. -/
def unlink (tree : Tree) (id : NodeId) : Tree :=
  match tree.parent? id with
  | none => tree
  | some parent =>
    tree.modifyNode parent fun node =>
      { node with children := node.children.filter (· ≠ id) }

/-- Detach a node with all its descendants. Answers the handles that are gone. -/
def detach (tree : Tree) (id : NodeId) : List NodeId × Tree :=
  let removed := tree.subtree id
  (removed, removed.foldl release (tree.unlink id))

/-! ### Contexts -/

/-- Put a context in place of the one of its name, or at the end. -/
def putContext (context : Context) : List Context → List Context
  | [] => [context]
  | other :: rest =>
    if other.id = context.id then context :: rest else other :: putContext context rest

/-- The context of a name among those of a node. -/
def context? (tree : Tree) (id : NodeId) (name : String) : Option Context :=
  (tree.declared id).find? (·.id == name)

/-- Declare a context on a node, in place of one of that name. Answers the value replaced. -/
def declare (tree : Tree) (id : NodeId) (context : Context) :
    Except Error (Option Value × Tree) :=
  if tree.contains id then
    .ok ((tree.context? id context.id).map (·.value),
      tree.modifyNode id fun node => { node with contexts := putContext context node.contexts })
  else .error (.unknownNode id)

/-- Remove a declared context. Answers the context removed, if there is one. -/
def removeContext (tree : Tree) (id : NodeId) (name : String) : Option (Context × Tree) :=
  (tree.context? id name).map fun context =>
    (context, tree.modifyNode id fun node =>
      { node with contexts := node.contexts.eraseP (·.id == name) })

/-- Put the implicit context of a sender in place of the one it had, or at the end. -/
def putImplicit (sender : SenderId) (context : Context) :
    List (SenderId × Context) → List (SenderId × Context)
  | [] => [(sender, context)]
  | (other, old) :: rest =>
    if other = sender then (sender, context) :: rest
    else (other, old) :: putImplicit sender context rest

/-- Give a node the implicit context of a sender. -/
def setImplicit (tree : Tree) (id : NodeId) (sender : SenderId) (context : Context) :
    Except Error Tree :=
  if tree.contains id then
    .ok (tree.modifyNode id fun node =>
      { node with implicits := putImplicit sender context node.implicits })
  else .error (.unknownNode id)

/-- The number of implicit contexts of a sender. -/
def countImplicit (tree : Tree) (sender : SenderId) : Nat :=
  tree.slots.foldl (fun total slot =>
    total + slot.node.elim 0 fun node => node.implicits.countP (·.1 == sender)) 0

/-- Drop the implicit contexts of a sender on all nodes. -/
def clearImplicit (tree : Tree) (sender : SenderId) : Tree :=
  { tree with slots := tree.slots.map fun slot =>
      { slot with node := slot.node.map fun node =>
          { node with implicits := node.implicits.filter (·.1 ≠ sender) } } }

/-! ### Scopes -/

/-- A node and the nodes above it, at most so many. -/
def ancestorsWithin (tree : Tree) : (count : Nat) → NodeId → List NodeId
  | 0, _ => []
  | count + 1, id =>
    id :: (tree.parent? id).elim [] (tree.ancestorsWithin count)

/-- A node and the nodes above it, nearest first. No chain of parents is longer than the number of
slots. -/
def ancestors (tree : Tree) (id : NodeId) : List NodeId :=
  tree.ancestorsWithin tree.slots.length id

/-- The contexts declared on a node as they are seen. -/
def declaredEntries (tree : Tree) (id : NodeId) : List Scope.Entry :=
  (tree.declared id).map fun context => ⟨some id, context, false⟩

/-- The implicit context of a sender on a node as it is seen. -/
def implicitEntries (tree : Tree) (sender : SenderId) (id : NodeId) : List Scope.Entry :=
  (tree.implicit? id sender).toList.map fun context => ⟨some id, context, true⟩

/-- What is seen from a node: its own contexts and those of the nodes above it. -/
def scope (tree : Tree) (id : NodeId) : Scope :=
  .ofEntries ((tree.ancestors id).flatMap tree.declaredEntries)

/-- What is seen from a node on behalf of a sender: implicit contexts come last. -/
def scopeFor (tree : Tree) (id : NodeId) (sender : SenderId) : Scope :=
  .ofEntries ((tree.ancestors id).flatMap tree.declaredEntries ++
    (tree.ancestors id).flatMap (tree.implicitEntries sender))

/-- The node whose context of a name is seen from a node. -/
def owner? (tree : Tree) (id : NodeId) (name : String) : Option NodeId :=
  ((tree.scope id).find? name).bind (·.owner)

/-- Write into a declared context. Answers nothing if there is none or if the write is refused. -/
def writeContext (tree : Tree) (id : NodeId) (name : String) (change : Value → Option Value) :
    Option Tree :=
  (tree.context? id name).bind fun context =>
    (change context.value).map fun value =>
      tree.modifyNode id fun node =>
        { node with contexts := putContext ⟨name, value⟩ node.contexts }

end Tree

end LiveBinding
