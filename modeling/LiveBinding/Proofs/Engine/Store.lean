import LiveBinding.Engine.Subscription

/-!
# The store of subscriptions

The numbers of the live subscriptions ascend and are among those given out, so that a number finds
one subscription at most and the next number is new.
-/

namespace LiveBinding.Subscriptions

variable {κ : Type} {store : Subscriptions κ} {id other : SubscriptionId}
variable {subscription : Subscription κ}

/-- What every operation on the store keeps. -/
structure Ordered (store : Subscriptions κ) : Prop where
  ascending : store.live.Pairwise fun left right => left.1.number < right.1.number
  issued : ∀ entry ∈ store.live, entry.1.number ≤ store.issued

theorem Ordered.empty : (empty : Subscriptions κ).Ordered :=
  ⟨List.Pairwise.nil, fun _ member => nomatch member⟩

/-- Entries that are left over from an ordered store are ordered. -/
theorem Ordered.sublist (ordered : store.Ordered) {live : List (SubscriptionId × Subscription κ)}
    (fewer : live.Sublist store.live) : Ordered { store with live } :=
  ⟨ordered.ascending.sublist fewer, fun entry member => ordered.issued entry (fewer.subset member)⟩

theorem mem_live_of_get? (found : store.get? id = some subscription) :
    (id, subscription) ∈ store.live := by
  unfold get? at found
  obtain ⟨first, rest, split, -⟩ := List.lookup_eq_some_iff.mp found
  simp [split]

/-- In an ordered store every entry is the one that its number finds. -/
theorem Ordered.get?_of_mem (ordered : store.Ordered)
    (member : (id, subscription) ∈ store.live) : store.get? id = some subscription := by
  obtain ⟨issued, live⟩ := store
  have ascending : live.Pairwise fun left right => left.1.number < right.1.number :=
    ordered.ascending
  change (id, subscription) ∈ live at member
  change live.lookup id = some subscription
  clear ordered
  induction live with
  | nil => simp at member
  | cons head rest ih =>
      rw [List.pairwise_cons] at ascending
      obtain here | later := List.mem_cons.mp member
      · simp [← here]
      · have below := ascending.1 _ later
        have different : ¬id = head.1 := by
          rintro rfl
          exact Nat.lt_irrefl _ below
        rw [List.lookup_cons, beq_eq_false_iff_ne.mpr different]
        exact ih ascending.2 later

theorem Ordered.number_le (ordered : store.Ordered)
    (found : store.get? id = some subscription) : id.number ≤ store.issued :=
  ordered.issued _ (mem_live_of_get? found)

theorem Ordered.get?_nextId (ordered : store.Ordered) : store.get? store.nextId = none := by
  cases found : store.get? store.nextId with
  | none => rfl
  | some subscription =>
      have := ordered.number_le found
      simp only [nextId] at this
      omega

/-! ### Adding -/

theorem get?_add (ordered : store.Ordered) (subscription : Subscription κ)
    (other : SubscriptionId) :
    (store.add subscription).get? other =
      if other = store.nextId then some subscription else store.get? other := by
  unfold add get?
  rw [List.lookup_append]
  split
  · next new =>
      have absent := ordered.get?_nextId
      rw [get?] at absent
      simp [new, absent]
  · next old => simp [List.lookup_cons, beq_eq_false_iff_ne.mpr old]

theorem Ordered.add (ordered : store.Ordered) (subscription : Subscription κ) :
    (store.add subscription).Ordered where
  ascending := by
    rw [Subscriptions.add, List.pairwise_append]
    refine ⟨ordered.ascending, List.pairwise_singleton _ _, ?_⟩
    intro entry member new isNew
    rw [List.mem_singleton.mp isNew]
    exact Nat.lt_succ_of_le (ordered.issued entry member)
  issued entry member := by
    rw [Subscriptions.add] at member ⊢
    obtain old | new := List.mem_append.mp member
    · exact Nat.le_succ_of_le (ordered.issued entry old)
    · rw [List.mem_singleton.mp new]
      exact Nat.le_refl _

/-! ### Ending -/

theorem get?_remove (store : Subscriptions κ) (id other : SubscriptionId) :
    (store.remove id).get? other = if other = id then none else store.get? other := by
  unfold remove get?
  induction store.live with
  | nil => simp
  | cons head rest ih =>
      obtain ⟨number, subscription⟩ := head
      by_cases gone : number = id
      · subst gone
        rw [List.filter_cons_of_neg (by simp), ih]
        split
        · rfl
        · next different => simp [List.lookup_cons, beq_eq_false_iff_ne.mpr different]
      · rw [List.filter_cons_of_pos (by simpa using gone), List.lookup_cons, List.lookup_cons, ih]
        by_cases here : other = number
        · simp [here, gone]
        · simp [beq_eq_false_iff_ne.mpr here]

theorem Ordered.remove (ordered : store.Ordered) (id : SubscriptionId) :
    (store.remove id).Ordered :=
  ordered.sublist List.filter_sublist

/-- The subscriptions that outlive some nodes are those on other nodes. -/
theorem get?_removeOn_eq_some_iff (ordered : store.Ordered) {nodes : List NodeId} :
    (store.removeOn nodes).get? id = some subscription ↔
      store.get? id = some subscription ∧ subscription.node ∉ nodes := by
  have remaining : (store.removeOn nodes).Ordered := ordered.sublist List.filter_sublist
  constructor
  · intro found
    have member := mem_live_of_get? found
    rw [removeOn, List.mem_filter] at member
    exact ⟨ordered.get?_of_mem member.1, by simpa using member.2⟩
  · rintro ⟨found, elsewhere⟩
    refine remaining.get?_of_mem ?_
    rw [removeOn, List.mem_filter]
    exact ⟨mem_live_of_get? found, by simpa using elsewhere⟩

theorem Ordered.removeOn (ordered : store.Ordered) (nodes : List NodeId) :
    (store.removeOn nodes).Ordered :=
  ordered.sublist List.filter_sublist

theorem mem_idsOn (ordered : store.Ordered) {nodes : List NodeId} :
    id ∈ store.idsOn nodes ↔
      ∃ subscription, store.get? id = some subscription ∧ subscription.node ∈ nodes := by
  unfold idsOn
  rw [List.mem_map]
  constructor
  · rintro ⟨⟨number, subscription⟩, member, rfl⟩
    rw [List.mem_filter] at member
    exact ⟨subscription, ordered.get?_of_mem member.1, by simpa using member.2⟩
  · rintro ⟨subscription, found, onNode⟩
    refine ⟨(id, subscription), ?_, rfl⟩
    rw [List.mem_filter]
    exact ⟨mem_live_of_get? found, by simpa using onNode⟩

/-! ### Watching something else -/

theorem get?_retarget (store : Subscriptions κ) (id other : SubscriptionId)
    (watched : Watched) :
    (store.retarget id watched).get? other =
      if other = id then (store.get? id).map fun subscription => { subscription with watched }
      else store.get? other := by
  unfold retarget get?
  induction store.live with
  | nil => simp
  | cons head rest ih =>
      obtain ⟨number, subscription⟩ := head
      rw [List.map_cons]
      by_cases this : number = id
      · subst this
        rw [if_pos rfl, List.lookup_cons, List.lookup_cons, List.lookup_cons]
        by_cases here : other = number
        · simp [here]
        · simpa [here, beq_eq_false_iff_ne.mpr here] using ih
      · rw [if_neg this, List.lookup_cons, List.lookup_cons, List.lookup_cons]
        by_cases here : other = number
        · simp [this, here]
        · have notId : ¬id = number := fun same => this same.symm
          simpa [beq_eq_false_iff_ne.mpr here, beq_eq_false_iff_ne.mpr notId] using ih

theorem Ordered.retarget (ordered : store.Ordered) (id : SubscriptionId) (watched : Watched) :
    (store.retarget id watched).Ordered := by
  have numbers : ∀ entry : SubscriptionId × Subscription κ,
      (if entry.1 = id then (id, { entry.2 with watched }) else entry).1 = entry.1 := by
    intro entry
    split
    · next same => exact same.symm
    · rfl
  constructor
  · rw [Subscriptions.retarget, List.pairwise_map]
    refine ordered.ascending.imp fun below => ?_
    rw [numbers, numbers]
    exact below
  · intro entry member
    obtain ⟨old, oldMember, rfl⟩ := List.mem_map.mp member
    rw [numbers]
    exact ordered.issued old oldMember

end LiveBinding.Subscriptions
