import LiveBinding.Proofs.Context.Histories
import LiveBinding.Proofs.Context.Resolution
import LiveBinding.Proofs.Evaluation

/-!
# Scopes in layers

What is seen from a node are its own contexts, in the order in which it came to declare them, and
behind them what is seen from its parent under other names.  On behalf of a sender the implicit
contexts of the nodes on the way to the root follow, nearest first, as far as their names are new.
They hide nothing, so whoever reads only names that are seen without them does not notice them.
-/

namespace LiveBinding

/-! ### The first entry of each name -/

namespace Scope

/-- The candidates with new names.  They are looked at one by one, and the name of one that is kept
is not new any more. -/
def keepNew (names : List String) : List Entry → List Entry
  | [] => []
  | entry :: rest =>
    if entry.id ∈ names then keepNew names rest
    else entry :: keepNew (entry.id :: names) rest

/-- To keep the first entries and to drop some names afterwards comes to the same as never to keep
an entry of these names. -/
theorem filter_firstOfEachId (names : List String) (candidates : List Entry) :
    (firstOfEachId candidates).filter (·.id ∉ names) = keepNew names candidates := by
  induction candidates generalizing names with
  | nil => rfl
  | cons entry rest ih =>
      rw [firstOfEachId, keepNew]
      split
      · next old =>
          rw [List.filter_cons_of_neg (by simpa using old), List.filter_filter, ← ih]
          refine List.filter_congr fun other _ => ?_
          by_cases same : other.id = entry.id
          · simp [same, old]
          · simp [same]
      · next new =>
          rw [List.filter_cons_of_pos (by simpa using new), List.filter_filter, ← ih]
          refine congrArg (entry :: ·) (List.filter_congr fun other _ => ?_)
          simp [Bool.and_comm]

/-- What is new depends on which names there are, and not on their order. -/
theorem keepNew_congr {left right : List String} (same : ∀ name, name ∈ left ↔ name ∈ right)
    (candidates : List Entry) : keepNew left candidates = keepNew right candidates := by
  rw [← filter_firstOfEachId, ← filter_firstOfEachId]
  refine List.filter_congr fun entry _ => ?_
  simp only [same]

theorem mem_ids_firstOfEachId {candidates : List Entry} {name : String} :
    name ∈ (firstOfEachId candidates).map Entry.id ↔ name ∈ candidates.map Entry.id := by
  induction candidates with
  | nil => rfl
  | cons entry rest ih =>
      rw [firstOfEachId, List.map_cons, List.map_cons, List.mem_cons, List.mem_cons, ← ih]
      refine or_congr_right' fun different => ?_
      simp only [List.mem_map, List.mem_filter, decide_eq_true_eq]
      constructor
      · rintro ⟨other, ⟨member, -⟩, named⟩
        exact ⟨other, member, named⟩
      · rintro ⟨other, member, rfl⟩
        exact ⟨other, ⟨member, different⟩, rfl⟩

theorem nodup_ids_firstOfEachId (candidates : List Entry) :
    ((firstOfEachId candidates).map Entry.id).Nodup := by
  induction candidates with
  | nil => exact List.nodup_nil
  | cons entry rest ih =>
      rw [firstOfEachId, List.map_cons, List.nodup_cons]
      refine ⟨fun again => ?_, ih.sublist (List.filter_sublist.map _)⟩
      obtain ⟨other, member, same⟩ := List.mem_map.mp again
      exact of_decide_eq_true (List.mem_filter.mp member).2 same

/-- Entries with different names are the first ones of their names. -/
theorem firstOfEachId_of_nodup {candidates : List Entry}
    (distinct : (candidates.map Entry.id).Nodup) : firstOfEachId candidates = candidates := by
  induction candidates with
  | nil => rfl
  | cons entry rest ih =>
      obtain ⟨fresh, distinctRest⟩ := List.nodup_cons.mp distinct
      rw [firstOfEachId, ih distinctRest, List.filter_eq_self.mpr fun other member => ?_]
      refine decide_eq_true fun same => fresh ?_
      exact same ▸ List.mem_map_of_mem member

/-- Later candidates count as far as no earlier one has their names. -/
theorem firstOfEachId_append (earlier later : List Entry) :
    firstOfEachId (earlier ++ later) =
      firstOfEachId earlier ++
        (firstOfEachId later).filter (·.id ∉ earlier.map Entry.id) := by
  induction earlier with
  | nil => simp [firstOfEachId]
  | cons entry rest ih =>
      rw [List.cons_append, firstOfEachId, firstOfEachId, ih, List.filter_append,
        List.filter_filter, List.cons_append]
      refine congrArg (entry :: (firstOfEachId rest).filter _ ++ ·) ?_
      refine List.filter_congr fun other _ => ?_
      simp

end Scope

namespace Tree

variable {tree : Tree} {id parent : NodeId}

/-! ### Layers of declared contexts -/

/-- The names that a node declares. -/
def names (tree : Tree) (id : NodeId) : List String := (tree.declared id).map Context.id

theorem ids_declaredEntries (tree : Tree) (id : NodeId) :
    (tree.declaredEntries id).map Scope.Entry.id = tree.names id := by
  rw [declaredEntries, List.map_map]
  rfl

section

variable (sound : tree.WellFormed)

include sound

theorem firstOfEachId_declaredEntries (id : NodeId) :
    Scope.firstOfEachId (tree.declaredEntries id) = tree.declaredEntries id := by
  refine Scope.firstOfEachId_of_nodup ?_
  rw [ids_declaredEntries]
  exact sound.declared_nodup id

/-- A root sees its own contexts. -/
theorem entries_scope_of_root (live : tree.contains id = true) (root : tree.parent? id = none) :
    (tree.scope id).entries = tree.declaredEntries id := by
  rw [scope, sound.ancestors_of_root live root, List.flatMap_singleton]
  exact firstOfEachId_declaredEntries sound id

/-- Any other node sees its own contexts in front of those that its parent sees. -/
theorem entries_scope_of_child (below : tree.parent? id = some parent) :
    (tree.scope id).entries =
      tree.declaredEntries id ++
        (tree.scope parent).entries.filter (·.id ∉ tree.names id) := by
  have own := firstOfEachId_declaredEntries sound id
  rw [scope, sound.ancestors_of_child below, List.flatMap_cons]
  change Scope.firstOfEachId _ = _
  rw [Scope.firstOfEachId_append, own, ids_declaredEntries]
  rfl

end

/-! ### The layer of a sender -/

/-- Implicit contexts come behind all that is seen without them. -/
theorem entries_scopeFor (tree : Tree) (id : NodeId) (sender : SenderId) :
    (tree.scopeFor id sender).entries =
      (tree.scope id).entries ++
        Scope.keepNew (tree.scope id).ids
          ((tree.ancestors id).flatMap (tree.implicitEntries sender)) := by
  rw [scopeFor]
  change Scope.firstOfEachId _ = Scope.firstOfEachId _ ++ _
  rw [Scope.firstOfEachId_append, Scope.filter_firstOfEachId]
  refine congrArg (_ ++ ·) (Scope.keepNew_congr (fun name => ?_) _)
  exact Scope.mem_ids_firstOfEachId.symm

/-- A name that is seen without the implicit contexts leads with them to where it leads without. -/
theorem find?_scopeFor_of_seen {name : String} {entry : Scope.Entry} (sender : SenderId)
    (seen : (tree.scope id).find? name = some entry) :
    (tree.scopeFor id sender).find? name = some entry := by
  rw [Scope.find?] at seen ⊢
  rw [entries_scopeFor, List.find?_append, seen, Option.some_or]

/-- An expression whose contexts are seen without the implicit ones has the same value with
them. -/
theorem evaluate_scopeFor_of_seen (registry : Registry) {expr : Expr} (sender : SenderId)
    (seen : ∀ name ∈ expr.contextIds, ((tree.scope id).find? name).isSome) :
    expr.evaluate registry (tree.scopeFor id sender) = expr.evaluate registry (tree.scope id) := by
  refine Expr.evaluate_congr registry (.of_find? fun path member name root => ?_)
  obtain ⟨entry, found⟩ :=
    Option.isSome_iff_exists.mp (seen name (Expr.mem_contextIds.mpr ⟨path, member, root⟩))
  rw [find?_scopeFor_of_seen sender found, found]

/-! ### The order of declarations -/

/-- The names that a node declares after a command, in the order in which it came to declare them.
A new name goes to the end, and one that is declared again keeps its place. -/
def Command.namesAfter (id : NodeId) (names : List String) : Command → List String
  | .declare node context =>
    if node = id ∧ context.id ∉ names then names ++ [context.id] else names
  | .removeContext node name => if node = id then names.erase name else names
  | _ => names

theorem names_eq_map (tree : Tree) (id : NodeId) :
    tree.names id = (((tree.node? id).map Node.contexts).getD []).map Context.id := by
  rw [names, declared_eq_map]

theorem names_withContext (live : tree.contains id = true) (node : NodeId) (context : Context) :
    (tree.withContext node context).names id =
      if node = id ∧ context.id ∉ tree.names id then tree.names id ++ [context.id]
      else tree.names id := by
  obtain ⟨content, reached⟩ := contains_iff.mp live
  rw [names_eq_map, names_eq_map, withContext, node?_modifyNode]
  by_cases here : node = id
  · subst here
    simp only [if_true, reached, Option.map_some, Option.getD_some, map_id_putContext, true_and]
    exact ite_not ..|>.symm
  · rw [if_neg (Ne.symm here), if_neg fun both => here both.1]

theorem names_withoutContext (live : tree.contains id = true) (node : NodeId) (name : String) :
    (tree.withoutContext node name).names id =
      if node = id then (tree.names id).erase name else tree.names id := by
  obtain ⟨content, reached⟩ := contains_iff.mp live
  rw [names_eq_map, names_eq_map, withoutContext, node?_modifyNode]
  by_cases here : node = id
  · subst here
    simp only [if_true, reached, Option.map_some, Option.getD_some]
    rw [List.erase_eq_eraseP', List.eraseP_map]
    rfl
  · rw [if_neg (Ne.symm here), if_neg here]

theorem mem_names_iff {name : String} :
    name ∈ tree.names id ↔ (tree.context? id name).isSome := by
  rw [names, context?, List.find?_isSome]
  simp

/-- A command changes the names of a node that is there before and after it in their order. -/
theorem names_perform (sound : tree.WellFormed) (live : tree.contains id = true)
    (command : Command) (stays : (tree.perform command).tree.contains id = true) :
    (tree.perform command).tree.names id = command.namesAfter id (tree.names id) := by
  cases command with
  | attach above =>
      rw [perform]
      cases done : tree.attach above with
      | error => rfl
      | ok result =>
          obtain ⟨known, rfl⟩ := attach_eq_ok_iff.mp done
          exact congrArg (List.map Context.id) (declared_grown sound known id)
  | detach node =>
      have kept : id ∉ tree.subtree node := ((contains_detach sound node id).mp stays).2
      refine congrArg (List.map Context.id) ?_
      exact (declared_detach sound node id).trans (if_neg kept)
  | declare node context =>
      rw [perform, Command.namesAfter]
      cases done : tree.declare node context with
      | error =>
          have unknown : node ≠ id := by
            rintro rfl
            simp [declare, live] at done
          exact (if_neg fun both => unknown both.1).symm
      | ok result =>
          obtain ⟨-, rfl⟩ := declare_eq_ok_iff.mp done
          exact names_withContext live node context
  | removeContext node name =>
      rw [perform, Command.namesAfter]
      cases done : tree.removeContext node name with
      | none =>
          by_cases here : node = id
          · subst here
            rw [removeContext, Option.map_eq_none_iff] at done
            have undeclared : name ∉ tree.names node := by simp [mem_names_iff, done]
            exact (List.erase_of_not_mem undeclared).symm.trans (if_pos rfl).symm
          · exact (if_neg here).symm
      | some result =>
          obtain ⟨removed, after⟩ := result
          obtain ⟨-, rfl⟩ := removeContext_eq_some_iff.mp done
          exact names_withoutContext live node name
  | write node name policy path value =>
      rw [perform]
      cases done : tree.writeContext node name (Value.write? policy path value) with
      | none => rfl
      | some after =>
          obtain ⟨old, new, declared, -, rfl⟩ := writeContext_eq_some_iff.mp done
          refine (names_withContext live node ⟨name, new⟩).trans (if_neg ?_)
          rintro ⟨rfl, missing⟩
          exact missing (mem_names_iff.mpr (by rw [declared]; rfl))
  | setImplicit node sender context =>
      rw [perform]
      cases done : tree.setImplicit node sender context with
      | error => rfl
      | ok after =>
          exact congrArg (List.map Context.id) ((sameContexts_setImplicit done).declared id)
  | clearImplicit sender =>
      exact congrArg (List.map Context.id) ((sameContexts_clearImplicit tree sender).declared id)

/-- A new node declares nothing. -/
theorem names_of_attach (sound : tree.WellFormed) {above : Option NodeId} {after : Tree}
    (done : tree.attach above = .ok (id, after)) : after.names id = [] := by
  obtain ⟨known, result⟩ := attach_eq_ok_iff.mp done
  cases result
  rw [names, declared_grown sound known,
    declared_eq_nil (not_contains_nextHandle sound.freeAreEmpty)]
  rfl

/-! ### Scopes -/

/-- What is seen from a node, without implicit contexts and with those of a sender. -/
structure IsLayered (tree : Tree) (id : NodeId) : Prop where
  /-- The contexts of the node come first, and then those that its parent sees under other
  names. -/
  entries : (tree.scope id).entries =
    tree.declaredEntries id ++
      ((tree.parent? id).elim [] fun parent => (tree.scope parent).entries).filter
        (·.id ∉ tree.names id)
  ids_nodup : (tree.scope id).ids.Nodup
  /-- A name leads to the nearest node that declares it. -/
  find?_eq_some_iff : ∀ name entry, (tree.scope id).find? name = some entry ↔
    ∃ owner context, tree.IsNearest id name owner ∧ tree.context? owner name = some context ∧
      entry = ⟨some owner, context, false⟩
  find?_eq_none_iff : ∀ name, (tree.scope id).find? name = none ↔
    ∀ above, tree.IsBelow id above → tree.context? above name = none
  /-- The implicit contexts on the way to the root come last, as far as their names are new. -/
  entries_scopeFor : ∀ sender, ∃ line, tree.IsLineToRoot id line ∧
    (tree.scopeFor id sender).entries =
      (tree.scope id).entries ++
        Scope.keepNew (tree.scope id).ids (line.flatMap (tree.implicitEntries sender))
  evaluate_scopeFor : ∀ (sender : SenderId) (registry : Registry) (expr : Expr),
    (∀ name ∈ expr.contextIds, ((tree.scope id).find? name).isSome) →
      expr.evaluate registry (tree.scopeFor id sender) = expr.evaluate registry (tree.scope id)

section

variable (sound : tree.WellFormed)

include sound

theorem find?_scope_eq_some_iff {name : String} {entry : Scope.Entry} :
    (tree.scope id).find? name = some entry ↔
      ∃ owner context, tree.IsNearest id name owner ∧ tree.context? owner name = some context ∧
        entry = ⟨some owner, context, false⟩ := by
  constructor
  · intro found
    rw [find?_scope] at found
    obtain ⟨owner, -, declares⟩ := List.exists_of_findSome?_eq_some found
    obtain ⟨context, declared, rfl⟩ := Option.map_eq_some_iff.mp declares
    have seen : tree.owner? id name = some owner := by
      rw [owner?_eq_findSome?, found]
      rfl
    exact ⟨owner, context, isNearest_of_owner? sound seen, declared, rfl⟩
  · rintro ⟨owner, context, nearest, declared, rfl⟩
    obtain ⟨-, found, sameContext, entry⟩ :=
      find?_scope_of_owner? ((owner?_eq_some_iff sound).mpr nearest)
    cases declared.symm.trans sameContext
    exact entry

theorem find?_scope_eq_none_iff {name : String} :
    (tree.scope id).find? name = none ↔
      ∀ above, tree.IsBelow id above → tree.context? above name = none := by
  rw [← owner?_eq_none_iff sound]
  constructor
  · intro missing
    rw [owner?, missing]
    rfl
  · intro unowned
    cases found : (tree.scope id).find? name with
    | none => rfl
    | some entry =>
        obtain ⟨owner, -, nearest, -, -⟩ := (find?_scope_eq_some_iff sound).mp found
        rw [(owner?_eq_some_iff sound).mpr nearest] at unowned
        contradiction

theorem WellFormed.isLayered (live : tree.contains id = true) : tree.IsLayered id where
  entries := by
    cases pointer : tree.parent? id with
    | none => simp [entries_scope_of_root sound live pointer]
    | some parent => exact entries_scope_of_child sound pointer
  ids_nodup := Scope.nodup_ids_firstOfEachId _
  find?_eq_some_iff _ _ := find?_scope_eq_some_iff sound
  find?_eq_none_iff _ := find?_scope_eq_none_iff sound
  entries_scopeFor sender :=
    ⟨tree.ancestors id, sound.isLineToRoot live, tree.entries_scopeFor id sender⟩
  evaluate_scopeFor sender registry _ := evaluate_scopeFor_of_seen registry sender

end

/-- After every history a node sees its own contexts, in the order in which it came to declare them,
and behind them what its parent sees under other names; so a name leads to the nearest declaration.
The implicit contexts of a sender come last and hide nothing. -/
theorem isLayered_run (commands : List Command) {id : NodeId}
    (live : (empty.run commands).tree.contains id = true) :
    let tree := (empty.run commands).tree
    tree.IsLayered id ∧
      (∀ parent new after, tree.attach parent = .ok (new, after) → after.names new = []) ∧
      ∀ command, (tree.perform command).tree.contains id = true →
        (tree.perform command).tree.names id = command.namesAfter id (tree.names id) := by
  intro tree
  have sound : tree.WellFormed := WellFormed.empty.run commands
  refine ⟨sound.isLayered live, ?_, ?_⟩
  · intro parent new after done
    exact names_of_attach sound done
  · intro command stays
    exact names_perform sound live command stays

/-- Three nodes in a line of which the upper two declare one name, and a sender with contexts on all
of them, two of which have one name and one of which has a name that is declared. -/
theorem isLayered_run_shadowed :
    let top : NodeId := ⟨0, 0⟩
    let middle : NodeId := ⟨1, 0⟩
    let low : NodeId := ⟨2, 0⟩
    let sender : SenderId := ⟨7⟩
    let commands : List Command :=
      [.attach none, .attach (some top), .attach (some middle), .declare top ⟨"a", .null⟩,
        .declare top ⟨"b", .bool true⟩, .declare middle ⟨"c", .null⟩,
        .declare middle ⟨"a", .bool false⟩, .setImplicit low sender ⟨"b", .null⟩,
        .setImplicit middle sender ⟨"item", .bool true⟩,
        .setImplicit top sender ⟨"item", .null⟩]
    let tree := (empty.run commands).tree
    let expr := Expr.ofText "or(a, b)"
    tree.contains low = true ∧ tree.IsLayered low ∧
      (tree.scope low).ids = ["c", "a", "b"] ∧ tree.IsNearest low "a" middle ∧
      (tree.scopeFor low sender).ids = ["c", "a", "b", "item"] ∧
      (∀ name ∈ expr.contextIds, ((tree.scope low).find? name).isSome) ∧
      expr.evaluate .empty (tree.scopeFor low sender) = expr.evaluate .empty (tree.scope low) ∧
      (tree.perform (.declare middle ⟨"d", .null⟩)).tree.names middle = ["c", "a", "d"] := by
  intro top middle low sender commands tree expr
  have live : tree.contains low = true := by decide +kernel
  have liveMiddle : tree.contains middle = true := by decide +kernel
  obtain ⟨layered, -, -⟩ := isLayered_run commands live
  obtain ⟨-, -, order⟩ := isLayered_run commands liveMiddle
  have found : (tree.scope low).find? "a" =
      some ⟨some middle, ⟨"a", .bool false⟩, false⟩ := by decide +kernel
  obtain ⟨owner, context, nearest, -, entry⟩ := (layered.find?_eq_some_iff _ _).mp found
  cases entry
  have seen : ∀ name ∈ expr.contextIds, ((tree.scope low).find? name).isSome := by
    decide +kernel
  have declared := order (.declare middle ⟨"d", .null⟩) (by decide +kernel)
  refine ⟨live, layered, by decide +kernel, nearest, by decide +kernel, seen,
    layered.evaluate_scopeFor sender .empty expr seen, ?_⟩
  rw [declared]
  decide +kernel

end Tree

end LiveBinding
