import LiveBinding.Proofs.Context.Preservation

/-!
# Who sees which context

The context that is seen under a name is the one that the nearest ancestor declares.  Hence a
change of one context on one node concerns the nodes that see this very context, and nobody else:
no other node sees a different context under any name.
-/

namespace LiveBinding.Tree

variable {tree before after : Tree} {id owner : NodeId} {name : String}

/-! ### Ancestors in changed trees -/

/-- Nodes that stay, together with everything above them, keep their ancestors. -/
theorem WellFormed.ancestors_congr (sound : before.WellFormed) (soundAfter : after.WellFormed)
    (survives : NodeId → Prop)
    (upward : ∀ id parent, before.parent? id = some parent → survives id → survives parent)
    (same : ∀ id, before.contains id = true → survives id →
      after.contains id = true ∧ after.parent? id = before.parent? id)
    (live : before.contains id = true) (kept : survives id) :
    after.ancestors id = before.ancestors id := by
  induction id using sound.induction with
  | step id ih =>
      obtain ⟨liveAfter, pointerAfter⟩ := same id live kept
      cases pointer : before.parent? id with
      | none =>
          rw [pointer] at pointerAfter
          rw [sound.ancestors_of_root live pointer,
            soundAfter.ancestors_of_root liveAfter pointerAfter]
      | some parent =>
          rw [pointer] at pointerAfter
          rw [sound.ancestors_of_child pointer, soundAfter.ancestors_of_child pointerAfter,
            ih parent pointer (sound.contains_parent pointer) (upward id parent pointer kept)]

theorem SameShape.ancestors (shape : SameShape before after) (sound : before.WellFormed)
    (soundAfter : after.WellFormed) (live : before.contains id = true) :
    after.ancestors id = before.ancestors id :=
  sound.ancestors_congr soundAfter (fun _ => True) (fun _ _ _ _ => trivial)
    (fun id live _ => ⟨(shape.contains id).trans live, shape.parent? id⟩) live trivial

theorem ancestors_grown {parent : Option NodeId} (sound : tree.WellFormed)
    (known : ∀ above, parent = some above → tree.contains above = true)
    (live : tree.contains id = true) :
    (tree.grown parent).ancestors id = tree.ancestors id := by
  refine sound.ancestors_congr (sound.grown known) (fun _ => True)
    (fun _ _ _ _ => trivial) (fun id live _ => ⟨?_, ?_⟩) live trivial
  · exact (contains_grown sound known id).mpr (.inr live)
  · rw [parent?_grown sound known, if_neg (ne_nextHandle_of_contains sound live)]

theorem ancestors_detach {removed : NodeId} (sound : tree.WellFormed)
    (live : tree.contains id = true) (kept : id ∉ tree.subtree removed) :
    (tree.detach removed).2.ancestors id = tree.ancestors id := by
  refine sound.ancestors_congr (sound.detach removed)
    (fun id => id ∉ tree.subtree removed) ?_ (fun id live kept => ⟨?_, ?_⟩) live kept
  · exact fun id parent pointer kept member =>
      kept (mem_subtree_of_parent? sound pointer member)
  · exact (contains_detach sound removed id).mpr ⟨live, kept⟩
  · rw [parent?_detach sound, if_neg kept]

/-- Those above a node that stays stay too. -/
theorem not_mem_subtree_of_mem_ancestors {removed above : NodeId} (sound : tree.WellFormed)
    (live : tree.contains id = true) (kept : id ∉ tree.subtree removed)
    (member : above ∈ tree.ancestors id) : above ∉ tree.subtree removed := by
  intro inside
  apply kept
  rw [sound.mem_subtree]
  exact ⟨live, sound.mem_ancestors_trans live member (sound.mem_subtree.mp inside).2⟩

/-! ### Looking up a name -/

/-- The entry of a context that a node declares. -/
def declaration? (tree : Tree) (id : NodeId) (name : String) : Option Scope.Entry :=
  (tree.context? id name).map fun context => ⟨some id, context, false⟩

/-- The nearest declaration is the one that is seen. -/
theorem find?_scope (tree : Tree) (id : NodeId) (name : String) :
    (tree.scope id).find? name =
      (tree.ancestors id).findSome? fun above => tree.declaration? above name := by
  rw [scope, Scope.find?_ofEntries, List.find?_flatMap]
  congr 1
  funext above
  rw [declaredEntries, List.find?_map, declaration?, context?]
  rfl

theorem findSome?_declaration?_congr {line : List NodeId}
    (same : ∀ above ∈ line, after.context? above name = before.context? above name) :
    (line.findSome? fun above => after.declaration? above name) =
      line.findSome? fun above => before.declaration? above name := by
  induction line with
  | nil => rfl
  | cons head rest ih =>
      have sameEntry : after.declaration? head name = before.declaration? head name := by
        rw [declaration?, declaration?, same head List.mem_cons_self]
      rw [List.findSome?_cons, List.findSome?_cons, sameEntry,
        ih fun above member => same above (List.mem_cons_of_mem _ member)]

theorem find?_scope_congr (sameAncestors : after.ancestors id = before.ancestors id)
    (sameContexts : ∀ above ∈ before.ancestors id,
      after.context? above name = before.context? above name) :
    (after.scope id).find? name = (before.scope id).find? name := by
  rw [find?_scope, find?_scope, sameAncestors]
  exact findSome?_declaration?_congr sameContexts

/-- An owner is an ancestor, and declares what is seen. -/
theorem find?_scope_of_owner? (seen : tree.owner? id name = some owner) :
    owner ∈ tree.ancestors id ∧ ∃ context, tree.context? owner name = some context ∧
      (tree.scope id).find? name = some ⟨some owner, context, false⟩ := by
  obtain ⟨entry, found, owned⟩ := Option.bind_eq_some_iff.mp seen
  rw [find?_scope] at found ⊢
  obtain ⟨above, member, declares⟩ := List.exists_of_findSome?_eq_some found
  obtain ⟨context, declared, rfl⟩ := Option.map_eq_some_iff.mp declares
  rw [Option.some.injEq] at owned
  subst owned
  exact ⟨member, context, declared, found⟩

/-! ### A change of one context -/

/-- Two trees that differ at most in what one node declares under one name. -/
structure DifferOnlyAt (owner : NodeId) (name : String) (before after : Tree) : Prop where
  shape : SameShape before after
  context? : ∀ id other, id ≠ owner ∨ other ≠ name →
    after.context? id other = before.context? id other

theorem DifferOnlyAt.symm (differ : DifferOnlyAt owner name before after) :
    DifferOnlyAt owner name after before where
  shape := ⟨fun id => (differ.shape.contains id).symm, fun id => (differ.shape.parent? id).symm⟩
  context? id other apart := (differ.context? id other apart).symm

/-- A declaration that is not the one that is seen does not matter: whoever stands nearer hides
it. -/
theorem findSome?_of_ne_owner {line : List NodeId}
    (same : ∀ id, id ≠ owner → after.context? id name = before.context? id name)
    (declares : (before.context? owner name).isSome)
    (hidden : (line.findSome? fun above => before.declaration? above name).bind
      (·.owner) ≠ some owner) :
    (line.findSome? fun above => after.declaration? above name) =
      line.findSome? fun above => before.declaration? above name := by
  induction line with
  | nil => rfl
  | cons head rest ih =>
      rw [List.findSome?_cons, List.findSome?_cons]
      rw [List.findSome?_cons] at hidden
      have different : head ≠ owner := by
        rintro rfl
        obtain ⟨context, declared⟩ := Option.isSome_iff_exists.mp declares
        simp [declaration?, declared] at hidden
      have sameEntry : after.declaration? head name = before.declaration? head name := by
        rw [declaration?, declaration?, same head different]
      rw [sameEntry]
      cases entry : before.declaration? head name with
      | some found => rfl
      | none =>
          rw [entry] at hidden
          exact ih hidden

/-- Nodes that do not see the context that differs see the same in both trees. -/
theorem DifferOnlyAt.find?_scope (differ : DifferOnlyAt owner name before after)
    (sound : before.WellFormed) (soundAfter : after.WellFormed)
    (declares : (before.context? owner name).isSome) (live : before.contains id = true)
    {other : String} (unseen : other = name → before.owner? id name ≠ some owner) :
    (after.scope id).find? other = (before.scope id).find? other := by
  have sameAncestors := differ.shape.ancestors sound soundAfter live
  by_cases here : other = name
  · subst here
    have hidden := unseen rfl
    rw [owner?, Tree.find?_scope] at hidden
    rw [Tree.find?_scope, Tree.find?_scope, sameAncestors]
    exact findSome?_of_ne_owner (fun id apart => differ.context? id other (.inl apart))
      declares hidden
  · exact find?_scope_congr sameAncestors fun above _ => differ.context? above other (.inr here)

/-! ### Which context a change concerns -/

theorem find?_putContext (context : Context) (contexts : List Context) (name : String) :
    (putContext context contexts).find? (·.id == name) =
      if context.id = name then some context else contexts.find? (·.id == name) := by
  induction contexts with
  | nil => by_cases here : context.id = name <;> simp [putContext, here]
  | cons head rest ih =>
      rw [putContext]
      by_cases same : head.id = context.id
      · rw [if_pos same]
        by_cases here : context.id = name <;> simp [same, here]
      · rw [if_neg same]
        by_cases here : context.id = name
        · have apart : ¬head.id = name := fun equal => same (equal.trans here.symm)
          simp [here, apart, ih]
        · simp only [List.find?_cons, ih, if_neg here]

theorem find?_eraseP_of_ne {other : String} (different : other ≠ name)
    (contexts : List Context) :
    (contexts.eraseP (·.id == name)).find? (·.id == other) =
      contexts.find? (·.id == other) := by
  induction contexts with
  | nil => rfl
  | cons head rest ih =>
      by_cases here : head.id = name
      · simp [here, Ne.symm different]
      · simp only [List.eraseP_cons, beq_eq_false_iff_ne.mpr here, cond_false, List.find?_cons, ih]

/-- After a context was put on a node, the node declares it, and all else is as it was. -/
theorem context?_withContext (live : tree.contains id = true) (context : Context)
    (other : NodeId) (name : String) :
    (tree.withContext id context).context? other name =
      if other = id ∧ context.id = name then some context else tree.context? other name := by
  rw [context?, declared_eq_map, withContext, node?_modifyNode]
  by_cases here : other = id
  · subst here
    obtain ⟨node, reached⟩ := contains_iff.mp live
    simp [reached, find?_putContext, context?, declared]
  · simp only [here, if_false, false_and]
    rw [← declared_eq_map, context?]

theorem differOnlyAt_withContext (tree : Tree) (id : NodeId) (context : Context) :
    DifferOnlyAt id context.id tree (tree.withContext id context) where
  shape := sameShape_withContext tree id context
  context? other name apart := by
    by_cases live : tree.contains id = true
    · rw [context?_withContext live, if_neg]
      rintro ⟨here, same⟩
      exact apart.elim (· here) (· same.symm)
    · rw [withContext, modifyNode, if_neg live]

theorem differOnlyAt_withoutContext (tree : Tree) (id : NodeId) (name : String) :
    DifferOnlyAt id name tree (tree.withoutContext id name) where
  shape := sameShape_withoutContext tree id name
  context? other otherName apart := by
    rw [context?, context?, declared_eq_map, declared_eq_map, withoutContext, node?_modifyNode]
    by_cases here : other = id
    · have different := apart.resolve_left (fun away => away here)
      subst here
      cases tree.node? other with
      | none => simp
      | some node => simpa using find?_eraseP_of_ne different node.contexts
    · rw [if_neg here]

/-! ### Changes that concern no context -/

theorem context?_grown {parent : Option NodeId} (sound : tree.WellFormed)
    (known : ∀ above, parent = some above → tree.contains above = true) (other : NodeId)
    (name : String) : (tree.grown parent).context? other name = tree.context? other name := by
  rw [context?, declared_grown sound known, context?]

/-- A new node changes nothing for those that are there. -/
theorem find?_scope_grown {parent : Option NodeId} (sound : tree.WellFormed)
    (known : ∀ above, parent = some above → tree.contains above = true)
    (live : tree.contains id = true) (name : String) :
    ((tree.grown parent).scope id).find? name = (tree.scope id).find? name :=
  find?_scope_congr (ancestors_grown sound known live)
    fun above _ => context?_grown sound known above name

theorem declaredEntries_detach {removed : NodeId} (sound : tree.WellFormed)
    (kept : id ∉ tree.subtree removed) :
    (tree.detach removed).2.declaredEntries id = tree.declaredEntries id := by
  rw [declaredEntries, declared_detach sound, if_neg kept, declaredEntries]

theorem implicitEntries_detach {removed : NodeId} (sound : tree.WellFormed)
    (kept : id ∉ tree.subtree removed) (sender : SenderId) :
    (tree.detach removed).2.implicitEntries sender id = tree.implicitEntries sender id := by
  have same : (tree.detach removed).2.implicit? id sender = tree.implicit? id sender := by
    rw [implicit?, implicit?, node?_detach sound, if_neg kept]
    cases tree.node? id <;> rfl
  rw [implicitEntries, same, implicitEntries]

/-- Those that stay see the same after a subtree was taken away. -/
theorem scope_detach {removed : NodeId} (sound : tree.WellFormed)
    (live : tree.contains id = true) (kept : id ∉ tree.subtree removed) :
    (tree.detach removed).2.scope id = tree.scope id := by
  rw [scope, scope, ancestors_detach sound live kept]
  apply congrArg Scope.ofEntries
  apply List.flatMap_congr
  intro above member
  exact declaredEntries_detach sound (not_mem_subtree_of_mem_ancestors sound live kept member)

theorem scopeFor_detach {removed : NodeId} (sound : tree.WellFormed)
    (live : tree.contains id = true) (kept : id ∉ tree.subtree removed) (sender : SenderId) :
    (tree.detach removed).2.scopeFor id sender = tree.scopeFor id sender := by
  rw [scopeFor, scopeFor, ancestors_detach sound live kept]
  apply congrArg Scope.ofEntries
  apply congrArg₂
  all_goals
    apply List.flatMap_congr
    intro above member
    have stays := not_mem_subtree_of_mem_ancestors sound live kept member
  · exact declaredEntries_detach sound stays
  · exact implicitEntries_detach sound stays sender

/-- Two trees with the same nodes in the same places, which declare the same contexts. -/
structure SameContexts (before after : Tree) : Prop extends SameShape before after where
  declared : ∀ id, after.declared id = before.declared id

/-- A change that leaves the declared contexts alone changes no scope. -/
theorem SameContexts.find?_scope (same : SameContexts before after) (sound : before.WellFormed)
    (soundAfter : after.WellFormed) (live : before.contains id = true) (name : String) :
    (after.scope id).find? name = (before.scope id).find? name :=
  find?_scope_congr (same.ancestors sound soundAfter live)
    fun above _ => by rw [context?, same.declared above, context?]

theorem sameContexts_setImplicit {sender : SenderId} {context : Context}
    (done : tree.setImplicit id sender context = .ok after) : SameContexts tree after := by
  unfold setImplicit at done
  split at done
  · cases done
    refine ⟨.modifyNode tree id fun _ => rfl, declared_modifyNode ?_ id⟩
    intro node
    rfl
  · contradiction

theorem sameContexts_clearImplicit (tree : Tree) (sender : SenderId) :
    SameContexts tree (tree.clearImplicit sender) where
  contains above := by rw [contains, contains, node?_clearImplicit, Option.isSome_map]
  parent? above := by
    rw [parent?_eq_map, node?_clearImplicit, Option.map_map, parent?_eq_map]
    rfl
  declared above := by
    rw [declared_eq_map, node?_clearImplicit, Option.map_map, declared_eq_map]
    rfl

end LiveBinding.Tree
