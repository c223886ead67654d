import LiveBinding.Proofs.Context.Detachment

/-!
# To which node a name leads

Under a name a node sees the context of the nearest node, itself or above it, that declares one.
Which node this is depends on who declares the name, and not on the values: after one context got
a new value, every name leads every node to where it led before, and all else in the tree is as it
was.
-/

namespace LiveBinding.Tree

variable {tree before after : Tree} {id parent owner : NodeId} {name : String} {value : Value}

/-! ### The way up -/

theorem owner?_eq_findSome? (tree : Tree) (id : NodeId) (name : String) :
    tree.owner? id name =
      ((tree.ancestors id).findSome? fun above => tree.declaration? above name).bind (·.owner) := by
  rw [owner?, find?_scope]

theorem contains_of_declares (declares : (tree.context? id name).isSome) :
    tree.contains id = true := by
  by_contra absent
  rw [context?, declared_eq_nil absent] at declares
  contradiction

section Upward

variable (sound : tree.WellFormed)

include sound

/-- A node that declares a name sees its own context under it. -/
theorem owner?_of_declares (declares : (tree.context? id name).isSome) :
    tree.owner? id name = some id := by
  have live := contains_of_declares declares
  obtain ⟨context, declared⟩ := Option.isSome_iff_exists.mp declares
  have entry : tree.declaration? id name = some ⟨some id, context, false⟩ := by
    rw [declaration?, declared, Option.map_some]
  rw [owner?_eq_findSome?, sound.ancestors_eq live, List.findSome?_cons, entry]
  rfl

/-- A node that does not declare a name sees what its parent sees. -/
theorem owner?_of_parent? (undeclared : tree.context? id name = none)
    (below : tree.parent? id = some parent) : tree.owner? id name = tree.owner? parent name := by
  have entry : tree.declaration? id name = none := by
    rw [declaration?, undeclared, Option.map_none]
  rw [owner?_eq_findSome?, sound.ancestors_of_child below, List.findSome?_cons, entry,
    owner?_eq_findSome?]

omit sound in
/-- A root sees nothing under a name that it does not declare. -/
theorem owner?_of_root (undeclared : tree.context? id name = none)
    (root : tree.parent? id = none) : tree.owner? id name = none := by
  -- an unknown node counts as a root, so the bound on the ancestors may be zero
  have alone : ∀ above ∈ tree.ancestors id, above = id := by
    intro above member
    unfold ancestors at member
    cases count : tree.slots.length with
    | zero =>
        rw [count] at member
        exact absurd member List.not_mem_nil
    | succ count' =>
        rw [count, ancestorsWithin, root] at member
        exact List.mem_singleton.mp member
  cases seen : tree.owner? id name with
  | none => rfl
  | some owner =>
      obtain ⟨member, context, declared, -⟩ := find?_scope_of_owner? seen
      rw [alone owner member, undeclared] at declared
      contradiction

end Upward

/-! ### The nearest declaration -/

/-- A node stands at or above another one and declares a name, and whoever else there declares the
name stands above it. -/
structure IsNearest (tree : Tree) (id : NodeId) (name : String) (owner : NodeId) : Prop where
  below : tree.IsBelow id owner
  declares : (tree.context? owner name).isSome
  hides : ∀ above, tree.IsBelow id above → (tree.context? above name).isSome →
    tree.IsBelow owner above

/-- Who is nearest depends on the places of the nodes and on who declares the name. -/
theorem IsNearest.congr (nearest : before.IsNearest id name owner)
    (places : ∀ id, after.parent? id = before.parent? id)
    (declarers : ∀ id, (after.context? id name).isSome = (before.context? id name).isSome) :
    after.IsNearest id name owner := by
  have samePaths : after.IsBelow = before.IsBelow := by
    unfold IsBelow
    simp only [places]
  exact ⟨samePaths ▸ nearest.below, (declarers owner).trans nearest.declares,
    fun above higher declares => by
      rw [samePaths] at higher ⊢
      exact nearest.hides above higher ((declarers above).symm.trans declares)⟩

section Nearest

variable (sound : tree.WellFormed)

include sound

/-- No two nodes are above each other. -/
theorem eq_of_isBelow_of_isBelow {left right : NodeId} (up : tree.IsBelow left right)
    (down : tree.IsBelow right left) : left = right := by
  obtain ⟨rank, descends⟩ := sound.ranked
  -- a walk that moves at all ends at a lower rank
  have ordered : ∀ {lower upper : NodeId}, tree.IsBelow lower upper →
      lower = upper ∨ rank upper < rank lower := by
    intro lower upper path
    induction path with
    | refl => exact .inl rfl
    | tail _ pointer ih =>
        have higher := descends _ _ pointer
        obtain rfl | lower := ih
        · exact .inr higher
        · exact .inr (Nat.lt_trans higher lower)
  obtain same | higher := ordered up
  · exact same
  · obtain same | lower := ordered down
    · exact same.symm
    · exact absurd higher (Nat.lt_asymm lower)

/-- The context that is seen is that of the nearest node that declares the name. -/
theorem isNearest_of_owner? (seen : tree.owner? id name = some owner) :
    tree.IsNearest id name owner := by
  induction id using sound.induction with
  | step id ih =>
      cases own : tree.context? id name with
      | some context =>
          have declares : (tree.context? id name).isSome := by rw [own]; rfl
          rw [owner?_of_declares sound declares] at seen
          cases seen
          exact ⟨.refl, declares, fun above higher _ => higher⟩
      | none =>
          cases pointer : tree.parent? id with
          | none =>
              rw [owner?_of_root own pointer] at seen
              contradiction
          | some parent =>
              rw [owner?_of_parent? sound own pointer] at seen
              have nearest := ih parent pointer seen
              refine ⟨.head pointer nearest.below, nearest.declares, ?_⟩
              intro above higher declares
              obtain rfl | ⟨next, sameParent, rest⟩ := higher.cases_head
              · rw [own] at declares
                contradiction
              · rw [pointer, Option.some.injEq] at sameParent
                subst sameParent
                exact nearest.hides above rest declares

/-- Nothing is seen under a name exactly if nobody at or above the node declares it. -/
theorem owner?_eq_none_iff :
    tree.owner? id name = none ↔
      ∀ above, tree.IsBelow id above → tree.context? above name = none := by
  constructor
  · intro unseen above higher
    induction higher using Relation.ReflTransGen.head_induction_on with
    | refl =>
        by_contra declares
        rw [owner?_of_declares sound (Option.isSome_iff_ne_none.mpr declares)] at unseen
        contradiction
    | @head id parent pointer _ ih =>
        cases own : tree.context? id name with
        | some context =>
            rw [owner?_of_declares sound (by rw [own]; rfl)] at unseen
            contradiction
        | none => exact ih ((owner?_of_parent? sound own pointer).symm.trans unseen)
  · intro undeclared
    cases seen : tree.owner? id name with
    | none => rfl
    | some owner =>
        have nearest := isNearest_of_owner? sound seen
        have declares := nearest.declares
        rw [undeclared owner nearest.below] at declares
        contradiction

theorem owner?_eq_some_iff : tree.owner? id name = some owner ↔ tree.IsNearest id name owner := by
  refine ⟨isNearest_of_owner? sound, fun nearest => ?_⟩
  cases seen : tree.owner? id name with
  | none =>
      have declares := nearest.declares
      rw [(owner?_eq_none_iff sound).mp seen owner nearest.below] at declares
      contradiction
  | some found =>
      have foundNearest := isNearest_of_owner? sound seen
      have up := foundNearest.hides owner nearest.below nearest.declares
      have down := nearest.hides found foundNearest.below foundNearest.declares
      rw [eq_of_isBelow_of_isBelow sound up down]

end Nearest

/-- Where everybody stands in the same place and declares the same names, every name leads to the
same node. -/
theorem owner?_congr (sound : before.WellFormed) (soundAfter : after.WellFormed)
    (places : ∀ id, after.parent? id = before.parent? id)
    (declarers : ∀ id, (after.context? id name).isSome = (before.context? id name).isSome) :
    after.owner? id name = before.owner? id name := by
  apply Option.ext
  intro owner
  rw [owner?_eq_some_iff soundAfter, owner?_eq_some_iff sound]
  exact ⟨fun nearest => nearest.congr (fun id => (places id).symm) fun id => (declarers id).symm,
    fun nearest => nearest.congr places declarers⟩

/-! ### A new value for one context -/

/-- Two trees of which the second one has another value for one context, and nothing else that is
different. -/
structure Rewrites (owner : NodeId) (name : String) (value : Value) (before after : Tree) : Prop
    extends DifferOnlyAt owner name before after where
  children : ∀ id, after.children id = before.children id
  implicit? : ∀ id sender, after.implicit? id sender = before.implicit? id sender
  /-- The contexts of every node are declared in the order in which they were. -/
  declared : ∀ id, after.declared id = (before.declared id).map fun context =>
    if id = owner ∧ context.id = name then ⟨name, value⟩ else context
  rewritten : after.context? owner name = some ⟨name, value⟩

theorem implicit?_eq_map (tree : Tree) (id : NodeId) (sender : SenderId) :
    tree.implicit? id sender = ((tree.node? id).map Node.implicits).bind (·.lookup sender) := by
  cases reached : tree.node? id <;> simp [implicit?, reached]

theorem putContext_eq_map (context : Context) {contexts : List Context}
    (distinct : (contexts.map Context.id).Nodup) (declared : context.id ∈ contexts.map Context.id) :
    putContext context contexts =
      contexts.map fun other => if other.id = context.id then context else other := by
  induction contexts with
  | nil => exact absurd declared List.not_mem_nil
  | cons head rest ih =>
      obtain ⟨fresh, distinctRest⟩ := List.nodup_cons.mp distinct
      rw [putContext, List.map_cons]
      by_cases same : head.id = context.id
      · have others : ∀ other ∈ rest, other.id ≠ context.id := fun other member equal =>
          fresh (same ▸ equal ▸ List.mem_map_of_mem member)
        rw [if_pos same, if_pos same]
        refine congrArg (context :: ·) ((List.map_id rest).symm.trans ?_)
        exact List.map_congr_left fun other member => (if_neg (others other member)).symm
      · have later : context.id ∈ rest.map Context.id :=
          (List.mem_cons.mp declared).resolve_left fun equal => same equal.symm
        rw [if_neg same, if_neg same, ih distinctRest later]

theorem mem_ids_of_declares (declares : (tree.context? id name).isSome) :
    name ∈ (tree.declared id).map Context.id := by
  obtain ⟨context, member, named⟩ := List.find?_isSome.mp declares
  rw [beq_iff_eq] at named
  exact List.mem_map.mpr ⟨context, member, named⟩

theorem rewrites_withContext (sound : tree.WellFormed)
    (declares : (tree.context? owner name).isSome) (value : Value) :
    Rewrites owner name value tree (tree.withContext owner ⟨name, value⟩) where
  toDifferOnlyAt := differOnlyAt_withContext tree owner ⟨name, value⟩
  children id := by
    rw [children_eq_map, withContext, node?_modifyNode_map Node.children, children_eq_map]
    exact fun _ => rfl
  implicit? id sender := by
    rw [implicit?_eq_map, withContext, node?_modifyNode_map Node.implicits, implicit?_eq_map]
    exact fun _ => rfl
  declared id := by
    have names := sound.declared_nodup owner
    have listed := mem_ids_of_declares declares
    rw [declared_eq_map, withContext, node?_modifyNode]
    by_cases here : id = owner
    · subst here
      obtain ⟨node, reached⟩ := contains_iff.mp (contains_of_declares declares)
      rw [declared_eq reached] at names listed
      rw [if_pos rfl, declared_eq reached, reached]
      simpa using putContext_eq_map ⟨name, value⟩ names listed
    · rw [if_neg here, ← declared_eq_map]
      simp only [here, false_and, if_false, List.map_id']
  rewritten := by
    rw [context?_withContext (contains_of_declares declares), if_pos ⟨rfl, rfl⟩]

/-- A new value of one context leads nobody to another node. -/
theorem Rewrites.owner? (rewrites : Rewrites owner name value before after)
    (sound : before.WellFormed) (soundAfter : after.WellFormed)
    (declares : (before.context? owner name).isSome) (id : NodeId) (other : String) :
    after.owner? id other = before.owner? id other := by
  refine owner?_congr sound soundAfter rewrites.shape.parent? fun above => ?_
  by_cases here : above = owner ∧ other = name
  · obtain ⟨rfl, rfl⟩ := here
    rw [rewrites.rewritten, declares]
    rfl
  · rw [rewrites.context? above other (not_and_or.mp here)]

end LiveBinding.Tree
