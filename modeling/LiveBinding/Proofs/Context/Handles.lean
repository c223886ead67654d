import LiveBinding.Proofs.Context.Detachment
import LiveBinding.Proofs.Context.Generations
import LiveBinding.Proofs.Context.Histories

/-!
# A handle names one node for ever

Slots are used again, and only the generation tells the nodes apart that stood in one slot.  Every
handle that was ever given out either reaches its node still, or its slot went on to a later
generation.  The next handle does neither, so it is a new one; and a handle whose node is gone
reaches nothing any more.
-/

namespace LiveBinding.Tree

variable {tree : Tree} {id : NodeId} {command : Command} {bound : Nat} {given : List NodeId}

/-! ### Unknown handles -/

/-- What is answered about a handle of no node, and what becomes of requests that name it. -/
structure IsUnknown (tree : Tree) (id : NodeId) : Prop where
  contains : tree.contains id = false
  parent? : tree.parent? id = none
  children : tree.children id = []
  subtree : tree.subtree id = []
  declared : tree.declared id = []
  implicit? : ∀ sender, tree.implicit? id sender = none
  scope : tree.scope id = .empty
  scopeFor : ∀ sender, tree.scopeFor id sender = .empty
  attach : tree.attach (some id) = .error (.unknownNode id)
  detach : tree.detach id = ([], tree)
  declare : ∀ context, tree.declare id context = .error (.unknownNode id)
  removeContext : ∀ name, tree.removeContext id name = none
  writeContext : ∀ name change, tree.writeContext id name change = none
  setImplicit : ∀ sender context, tree.setImplicit id sender context = .error (.unknownNode id)

/-- An unknown node has nothing above it. -/
theorem mem_ancestors_of_unknown {above : NodeId} (unknown : tree.node? id = none)
    (member : above ∈ tree.ancestors id) : above = id := by
  unfold ancestors at member
  cases slots : tree.slots.length with
  | zero =>
      rw [slots, ancestorsWithin] at member
      contradiction
  | succ levels =>
      have root : tree.parent? id = none := by rw [Tree.parent?, unknown, Option.bind_none]
      rw [slots, ancestorsWithin, root, Option.elim_none] at member
      exact List.mem_singleton.mp member

/-- Every query goes through the node of the handle. -/
theorem isUnknown_of_not_contains (absent : ¬tree.contains id = true) : tree.IsUnknown id := by
  have unknown := node?_eq_none_of_not_contains absent
  have noContexts : tree.declared id = [] := declared_eq_nil absent
  have noImplicit : ∀ sender, tree.implicit? id sender = none := by
    intro sender
    rw [Tree.implicit?, unknown, Option.bind_none]
  have noDeclared : (tree.ancestors id).flatMap tree.declaredEntries = [] := by
    rw [List.flatMap_eq_nil_iff]
    intro above member
    rw [mem_ancestors_of_unknown unknown member, declaredEntries, noContexts, List.map_nil]
  have nothingFor : ∀ sender, (tree.ancestors id).flatMap (tree.implicitEntries sender) = [] := by
    intro sender
    rw [List.flatMap_eq_nil_iff]
    intro above member
    rw [mem_ancestors_of_unknown unknown member, implicitEntries, noImplicit, Option.toList_none,
      List.map_nil]
  have noSubtree : tree.subtree id = [] := WellFormed.subtree_eq_nil absent
  have noContext : ∀ name, tree.context? id name = none := by
    intro name
    rw [Tree.context?, noContexts, List.find?_nil]
  exact {
    contains := Bool.eq_false_iff.mpr absent
    parent? := by rw [Tree.parent?, unknown, Option.bind_none]
    children := by rw [Tree.children, unknown, Option.elim_none]
    subtree := noSubtree
    declared := noContexts
    implicit? := noImplicit
    scope := by
      rw [Tree.scope, noDeclared]
      rfl
    scopeFor := by
      intro sender
      rw [Tree.scopeFor, noDeclared, nothingFor]
      rfl
    attach := by
      rw [attach_eq, Option.filter_some, Bool.eq_false_iff.mpr absent]
      rfl
    detach := by
      rw [Tree.detach, noSubtree, List.foldl_nil, unlink, Tree.parent?, unknown, Option.bind_none]
    declare := fun context => by rw [Tree.declare, if_neg absent]
    removeContext := fun name => by rw [Tree.removeContext, noContext, Option.map_none]
    writeContext := fun name change => by rw [Tree.writeContext, noContext, Option.bind_none]
    setImplicit := fun sender context => by rw [Tree.setImplicit, if_neg absent] }

/-! ### The next handle -/

/-- A slot that is there gives its own generation to the next handle. -/
theorem generation?_nextHandle {generation : UInt32}
    (found : tree.generation? tree.nextHandle.index = some generation) :
    tree.nextHandle.generation = generation := by
  unfold Tree.generation? at found
  cases free : tree.free with
  | nil =>
      simp only [nextHandle, free] at found
      rw [List.getElem?_eq_none (Nat.le_refl _)] at found
      contradiction
  | cons index rest =>
      simp only [nextHandle, free] at found ⊢
      obtain ⟨slot, here, rfl⟩ := Option.map_eq_some_iff.mp found
      rw [here, Option.elim_some]

theorem not_isSpent_nextHandle : ¬tree.IsSpent tree.nextHandle := by
  rintro ⟨generation, found, later⟩
  rw [generation?_nextHandle found] at later
  exact UInt32.lt_irrefl generation later

/-! ### What commands do to handles -/

theorem SameSlots.edit {before after : Tree} (edit : Edit before after) :
    SameSlots before after := by
  cases edit with
  | idle => exact .refl before
  | put id context => exact .modifyNode before id _
  | take id name => exact .modifyNode before id _
  | setImplicit done => exact .setImplicit done
  | clearImplicit sender => exact .clearImplicit before sender

theorem contains_edit {before after : Tree} (edit : Edit before after) (id : NodeId) :
    after.contains id = before.contains id := by
  obtain rfl | ⟨node, change, rfl⟩ | ⟨sender, rfl⟩ := edit_cases edit
  · rfl
  · exact contains_modifyNode before node id change
  · exact (sameContexts_clearImplicit before sender).contains id

/-- The handles that were given out are all different, and each of them reaches its node or is
spent.  No slot was filled more than so many times. -/
structure Accounts (bound : Nat) (tree : Tree) (given : List NodeId) : Prop where
  sound : tree.WellFormed
  young : tree.FilledAtMost bound
  nodup : given.Nodup
  each : ∀ id ∈ given, tree.contains id = true ∨ tree.IsSpent id

namespace Accounts

theorem empty : Accounts 0 Tree.empty [] where
  sound := .empty
  young := .empty 0
  nodup := List.nodup_nil
  each _ impossible := absurd impossible List.not_mem_nil

variable (accounts : Accounts bound tree given)

include accounts

theorem nextHandle_not_mem : tree.nextHandle ∉ given := by
  intro member
  obtain live | spent := accounts.each _ member
  · exact not_contains_nextHandle accounts.sound.freeAreEmpty live
  · exact not_isSpent_nextHandle spent

theorem index_lt (member : id ∈ given) : id.index < tree.slots.length := by
  obtain live | ⟨generation, found, -⟩ := accounts.each id member
  · exact index_lt_of_contains live
  · obtain ⟨slot, here, -⟩ := Option.map_eq_some_iff.mp found
    exact (List.getElem?_eq_some_iff.mp here).1

theorem grown {parent : Option NodeId}
    (known : ∀ above, parent = some above → tree.contains above = true) :
    Accounts (bound + 1) (tree.grown parent) (given ++ [tree.nextHandle]) where
  sound := accounts.sound.grown known
  young := accounts.young.grown accounts.sound parent
  nodup := by
    rw [List.nodup_append]
    refine ⟨accounts.nodup, List.nodup_singleton _, ?_⟩
    intro old member new isNew
    rw [List.mem_singleton.mp isNew]
    rintro rfl
    exact accounts.nextHandle_not_mem member
  each id member := by
    obtain old | new := List.mem_append.mp member
    · obtain live | spent := accounts.each id old
      · exact .inl ((contains_grown accounts.sound known id).mpr (.inr live))
      · exact .inr (spent.grown accounts.sound parent)
    · rw [List.mem_singleton.mp new]
      exact .inl ((contains_grown accounts.sound known _).mpr (.inl rfl))

theorem detach (small : bound < 2 ^ 32) (removed : NodeId) :
    Accounts bound (tree.detach removed).2 given where
  sound := accounts.sound.detach removed
  young := accounts.young.detach accounts.sound small removed
  nodup := accounts.nodup
  each id member := by
    obtain live | spent := accounts.each id member
    · by_cases inside : id ∈ tree.subtree removed
      · exact .inr (isSpent_of_mem_subtree accounts.sound accounts.young small inside)
      · exact .inl ((contains_detach accounts.sound removed id).mpr ⟨live, inside⟩)
    · exact .inr (spent.detach accounts.sound accounts.young small removed)

theorem edit {after : Tree} (edit : Edit tree after) : Accounts bound after given where
  sound := accounts.sound.edit edit
  young := accounts.young.congr (.edit edit)
  nodup := accounts.nodup
  each id member := by
    rw [contains_edit edit]
    exact (accounts.each id member).imp_right fun spent => spent.congr (.edit edit)

theorem perform (small : bound < 2 ^ 32) (command : Command) :
    Accounts (bound + (tree.perform command).attached.length) (tree.perform command).tree
      (given ++ (tree.perform command).attached) := by
  obtain ⟨parent, known, result⟩ | ⟨id, result⟩ | ⟨after, edit, result⟩ :=
    tree.perform_cases command
  all_goals rw [result]
  · exact accounts.grown known
  · rw [List.append_nil]
    exact accounts.detach small id
  · rw [List.append_nil]
    exact accounts.edit edit

/-- A command spends the handles that it takes back, and those that are spent stay so. -/
theorem isSpent_perform (small : bound < 2 ^ 32) (command : Command) :
    (∀ id ∈ (tree.perform command).detached, (tree.perform command).tree.IsSpent id) ∧
      ∀ id, tree.IsSpent id → (tree.perform command).tree.IsSpent id := by
  obtain ⟨parent, known, result⟩ | ⟨removed, result⟩ | ⟨after, edit, result⟩ :=
    tree.perform_cases command
  all_goals rw [result]
  · exact ⟨fun _ impossible => absurd impossible List.not_mem_nil,
      fun id spent => spent.grown accounts.sound parent⟩
  · exact ⟨fun id => isSpent_of_mem_subtree accounts.sound accounts.young small,
      fun id spent => spent.detach accounts.sound accounts.young small removed⟩
  · exact ⟨fun _ impossible => absurd impossible List.not_mem_nil,
      fun id spent => spent.congr (.edit edit)⟩

end Accounts

/-! ### Whole histories -/

namespace Accounts

theorem run (accounts : Accounts bound tree given) (commands : List Command)
    (few : bound + (tree.run commands).attached.length < 2 ^ 32) :
    Accounts (bound + (tree.run commands).attached.length) (tree.run commands).tree
      (given ++ (tree.run commands).attached) := by
  induction commands generalizing tree bound given with
  | nil => simpa [Tree.run] using accounts
  | cons command rest ih =>
      rw [Tree.run, List.length_append] at few ⊢
      have first := accounts.perform (by omega) command
      rw [← Nat.add_assoc, ← List.append_assoc]
      exact ih first (by omega)

/-- What is spent at the beginning or on the way is spent at the end. -/
theorem isSpent_run (accounts : Accounts bound tree given) (commands : List Command)
    (few : bound + (tree.run commands).attached.length < 2 ^ 32) :
    (∀ id ∈ (tree.run commands).detached, (tree.run commands).tree.IsSpent id) ∧
      ∀ id, tree.IsSpent id → (tree.run commands).tree.IsSpent id := by
  induction commands generalizing tree bound given with
  | nil => exact ⟨fun _ impossible => absurd impossible List.not_mem_nil, fun _ spent => spent⟩
  | cons command rest ih =>
      rw [Tree.run, List.length_append] at few
      have small : bound < 2 ^ 32 := by omega
      obtain ⟨takenBack, kept⟩ := accounts.isSpent_perform small command
      obtain ⟨takenBackLater, keptLater⟩ := ih (accounts.perform small command) (by omega)
      refine ⟨fun id member => ?_, fun id spent => keptLater id (kept id spent)⟩
      obtain here | later := List.mem_append.mp member
      · exact keptLater id (takenBack id here)
      · exact takenBackLater id later

end Accounts

/-- Whether a command asks for a node to be attached or detached. -/
def Command.movesNodes : Command → Bool
  | .attach _ => true
  | .detach _ => true
  | _ => false

/-- A command attaches one node at most, and only if it asks for it. -/
theorem length_attached_perform_le (tree : Tree) (command : Command) :
    (tree.perform command).attached.length ≤ [command].countP Command.movesNodes := by
  cases command with
  | attach parent =>
      rw [perform]
      cases tree.attach parent <;> simp [Command.movesNodes]
  | detach | clearImplicit => exact Nat.zero_le _
  | declare node context =>
      rw [perform]
      cases tree.declare node context <;> exact Nat.zero_le _
  | removeContext node name =>
      rw [perform]
      cases tree.removeContext node name <;> exact Nat.zero_le _
  | write node name policy path value =>
      rw [perform]
      cases tree.writeContext node name (Value.write? policy path value) <;> exact Nat.zero_le _
  | setImplicit node sender context =>
      rw [perform]
      cases tree.setImplicit node sender context <;> exact Nat.zero_le _

theorem length_attached_run_le (tree : Tree) (commands : List Command) :
    (tree.run commands).attached.length ≤ commands.countP Command.movesNodes := by
  induction commands generalizing tree with
  | nil => exact Nat.le_refl 0
  | cons command rest ih =>
      have first := tree.length_attached_perform_le command
      have later := ih (tree.perform command).tree
      rw [run, List.length_append, ← List.singleton_append, List.countP_append]
      omega

theorem run_append (tree : Tree) (earlier later : List Command) :
    tree.run (earlier ++ later) =
      ⟨((tree.run earlier).tree.run later).tree,
        (tree.run earlier).attached ++ ((tree.run earlier).tree.run later).attached,
        (tree.run earlier).detached ++ ((tree.run earlier).tree.run later).detached⟩ := by
  induction earlier generalizing tree with
  | nil => rfl
  | cons command rest ih =>
      rw [List.cons_append, run, ih, run]
      simp only [List.append_assoc]

/-- A run in which fewer than `2 ^ 32` commands attach or detach gives no handle out twice, and all
the handles have numbers of 32 bits.  A handle whose node was there when this node or one above it
was detached is unknown at the end, whatever came after. -/
theorem nodup_attached_run (commands : List Command)
    (few : commands.countP Command.movesNodes < 2 ^ 32) :
    let history := empty.run commands
    history.attached.Nodup ∧ (∀ id ∈ history.attached, id.index < 2 ^ 32) ∧
      ∀ earlier top later, commands = earlier ++ .detach top :: later →
        let before := (empty.run earlier).tree
        ∀ id, before.contains id = true → before.IsBelow id top → history.tree.IsUnknown id := by
  intro history
  have bounded : history.attached.length ≤ commands.countP Command.movesNodes :=
    empty.length_attached_run_le commands
  have atMost : 0 + history.attached.length < 2 ^ 32 := by omega
  have final := Accounts.empty.run commands atMost
  refine ⟨final.nodup, ?_, ?_⟩
  · intro id member
    have inside : id.index < history.tree.slots.length := final.index_lt member
    have slots : history.tree.slots.length ≤ 0 + history.attached.length :=
      empty.slots_length_run commands
    omega
  · intro earlier top later split before id live below
    have sound : before.WellFormed := WellFormed.empty.run earlier
    have member : id ∈ before.subtree top :=
      sound.mem_subtree.mpr ⟨live, (mem_ancestors_iff_isBelow sound live).mpr below⟩
    have takenBack : id ∈ history.detached := by
      change id ∈ (empty.run commands).detached
      rw [split, run_append, run]
      exact List.mem_append_right _ (List.mem_append_left _ member)
    have spent := (Accounts.empty.isSpent_run commands atMost).1 id takenBack
    exact isUnknown_of_not_contains spent.not_contains

/-- A node is detached together with the one above it, and its slot is used for another node that
is declared a context; then the other node is detached too and the slot is used once more. -/
theorem nodup_attached_run_reused :
    let earlier : List Command := [.attach none, .attach (some ⟨0, 0⟩), .attach (some ⟨1, 0⟩)]
    let later : List Command := [.attach none, .declare ⟨2, 1⟩ ⟨"a", .null⟩, .detach ⟨2, 1⟩,
      .attach (some ⟨0, 0⟩)]
    let commands := earlier ++ .detach ⟨1, 0⟩ :: later
    let history := empty.run commands
    commands.countP Command.movesNodes < 2 ^ 32 ∧ history.attached.Nodup ∧
      history.attached = [⟨0, 0⟩, ⟨1, 0⟩, ⟨2, 0⟩, ⟨2, 1⟩, ⟨2, 2⟩] ∧
      (empty.run earlier).tree.IsBelow ⟨2, 0⟩ ⟨1, 0⟩ ∧ history.tree.IsUnknown ⟨2, 0⟩ := by
  intro earlier later commands history
  have few : commands.countP Command.movesNodes < 2 ^ 32 := by decide
  obtain ⟨nodup, -, unknown⟩ := nodup_attached_run commands few
  have live : (empty.run earlier).tree.contains ⟨2, 0⟩ = true := by decide +kernel
  have pointer : (empty.run earlier).tree.parent? ⟨2, 0⟩ = some ⟨1, 0⟩ := by decide +kernel
  have below : (empty.run earlier).tree.IsBelow ⟨2, 0⟩ ⟨1, 0⟩ := .single pointer
  exact ⟨few, nodup, by decide +kernel, below,
    unknown earlier ⟨1, 0⟩ later rfl ⟨2, 0⟩ live below⟩

end LiveBinding.Tree
