import LiveBinding.Fields
import Mathlib.Data.List.Induction

/-!
# Laws of fields

What an insertion leaves does not depend on the order in which names come, and of two entries under
one name the second stays.  Insertion keeps fields in ascending order, and fields that ascend are
what their own entries make when they are inserted in order.
-/

namespace LiveBinding.Fields

variable {α : Type} {fields : Fields α} {name other : String}

/-! ### Two insertions -/

/-- The second of two entries under one name stays. -/
theorem insert_insert (name : String) (first second : α) (fields : Fields α) :
    insert name second (insert name first fields) = insert name second fields := by
  induction fields with
  | nil => simp [insert]
  | cons head rest ih =>
      obtain ⟨there, old⟩ := head
      rw [insert, insert]
      split
      · simp [insert]
      · next different =>
          split
          · simp [insert]
          · next notBefore => rw [insert, if_neg different, if_neg notBefore, ih]

theorem insert_comm_of_lt (before : name < other) (entry otherEntry : α) (fields : Fields α) :
    insert name entry (insert other otherEntry fields) =
      insert other otherEntry (insert name entry fields) := by
  have different : name ≠ other := fun same => String.lt_irrefl other (same ▸ before)
  have notAfter : ¬other < name := String.lt_asymm before
  induction fields with
  | nil => simp [insert, different, different.symm, before, notAfter]
  | cons head rest ih =>
      obtain ⟨there, old⟩ := head
      by_cases atOther : there = other
      · simp [insert, atOther, different, different.symm, before, notAfter]
      · by_cases behindOther : other < there
        · have behind : name < there := String.lt_trans before behindOther
          have notHere : there ≠ name := fun same => String.lt_irrefl name (same ▸ behind)
          simp [insert, atOther, behindOther, behind, notHere, different, different.symm, before,
            notAfter]
        · by_cases here : there = name
          · simp [insert, here, different, notAfter]
          · by_cases behind : name < there
            · simp [insert, atOther, behindOther, here, behind, different, notAfter]
            · simp [insert, atOther, behindOther, here, behind, ih]

/-- Entries under different names may be put in either order. -/
theorem insert_comm (different : name ≠ other) (entry otherEntry : α) (fields : Fields α) :
    insert name entry (insert other otherEntry fields) =
      insert other otherEntry (insert name entry fields) := by
  by_cases before : name < other
  · exact insert_comm_of_lt before entry otherEntry fields
  · have after : other < name := String.not_le.mp fun below =>
      different (String.le_antisymm below (String.not_lt.mp before))
    exact (insert_comm_of_lt after otherEntry entry fields).symm

/-! ### Fields in ascending order -/

theorem mem_insert {name : String} {entry : α} {field : String × α}
    (member : field ∈ insert name entry fields) : field = (name, entry) ∨ field ∈ fields := by
  induction fields with
  | nil => exact .inl (List.mem_singleton.mp member)
  | cons head rest ih =>
      obtain ⟨other, old⟩ := head
      unfold insert at member
      split at member
      · exact (List.mem_cons.mp member).imp_right (List.mem_cons_of_mem _)
      · split at member
        · exact List.mem_cons.mp member
        · obtain rfl | later := List.mem_cons.mp member
          · exact .inr List.mem_cons_self
          · exact (ih later).imp_right (List.mem_cons_of_mem _)

theorem Ascending.insert (ascending : fields.Ascending) (name : String) (entry : α) :
    (fields.insert name entry).Ascending := by
  induction fields with
  | nil => exact List.pairwise_singleton _ _
  | cons head rest ih =>
      obtain ⟨other, old⟩ := head
      obtain ⟨first, ascendingRest⟩ := List.pairwise_cons.mp ascending
      unfold Fields.insert
      split
      · next same => exact List.pairwise_cons.mpr ⟨same ▸ first, ascendingRest⟩
      · next different =>
          split
          · next before =>
              refine List.pairwise_cons.mpr ⟨fun field member => ?_, ascending⟩
              obtain rfl | later := List.mem_cons.mp member
              · exact before
              · exact String.lt_trans before (first field later)
          · next notBefore =>
              have after : other < name := String.not_le.mp fun below =>
                different (String.le_antisymm (String.not_lt.mp notBefore) below)
              refine List.pairwise_cons.mpr ⟨fun field member => ?_, ih ascendingRest⟩
              obtain rfl | later := mem_insert member
              · exact after
              · exact first field later

theorem insert_eq_append {name : String} (before : ∀ field ∈ fields, field.1 < name) (entry : α) :
    fields.insert name entry = fields ++ [(name, entry)] := by
  induction fields with
  | nil => rfl
  | cons head rest ih =>
      obtain ⟨first, others⟩ := List.forall_mem_cons.mp before
      have different : head.1 ≠ name := fun same => String.lt_irrefl name (same ▸ first)
      rw [insert, if_neg different, if_neg (String.lt_asymm first), ih others, List.cons_append]

/-- Fields that ascend are put together from their own entries. -/
theorem ofList_eq_self (ascending : fields.Ascending) : ofList fields = fields := by
  induction fields using List.reverseRecOn with
  | nil => rfl
  | append_singleton earlier last ih =>
      obtain ⟨ascendingEarlier, -, before⟩ := List.pairwise_append.mp ascending
      have below : ∀ field ∈ earlier, field.1 < last.1 := fun field member =>
        before field member last List.mem_cons_self
      rw [ofList, List.foldl_append, ← ofList, ih ascendingEarlier, List.foldl_cons,
        List.foldl_nil, insert_eq_append below]

end LiveBinding.Fields
