/-!
# Fields in ascending order

An object is a list of named entries in ascending order of their names, each name once. Insertion
keeps the order. What a look-up finds after an insertion does not depend on it.
-/

namespace LiveBinding

/-- Named entries. -/
abbrev Fields (α : Type) := List (String × α)

namespace Fields

variable {α : Type}

/-- The entry of a name. -/
def get? (name : String) : Fields α → Option α
  | [] => none
  | (other, entry) :: rest => if other = name then some entry else get? name rest

/-- Put an entry under a name, in place of the one that is there. -/
def insert (name : String) (entry : α) : Fields α → Fields α
  | [] => [(name, entry)]
  | (other, old) :: rest =>
    if other = name then (name, entry) :: rest
    else if name < other then (name, entry) :: (other, old) :: rest
    else (other, old) :: insert name entry rest

/-- Drop the entry of a name. -/
def erase (name : String) (fields : Fields α) : Fields α :=
  fields.filter (·.1 ≠ name)

/-- The names in order. -/
def names (fields : Fields α) : List String := fields.map (·.1)

/-- Fields from entries in any order; of entries with one name the last one stays. -/
def ofList (entries : List (String × α)) : Fields α :=
  entries.foldl (fun fields entry => insert entry.1 entry.2 fields) []

/-- Names ascend, so each occurs once. -/
def Ascending (fields : Fields α) : Prop := fields.Pairwise (·.1 < ·.1)

@[simp] theorem get?_nil (name : String) : get? name ([] : Fields α) = none := rfl

theorem get?_cons (name other : String) (entry : α) (rest : Fields α) :
    get? name ((other, entry) :: rest) = if other = name then some entry else get? name rest := rfl

@[simp] theorem get?_insert_self (name : String) (entry : α) (fields : Fields α) :
    get? name (insert name entry fields) = some entry := by
  induction fields with
  | nil => simp [insert, get?]
  | cons head rest ih =>
    obtain ⟨other, old⟩ := head
    unfold insert
    split
    · simp [get?]
    · next different =>
      split
      · simp [get?]
      · simp [get?, different, ih]

theorem get?_insert_of_ne {name asked : String} (different : name ≠ asked) (entry : α)
    (fields : Fields α) : get? asked (insert name entry fields) = get? asked fields := by
  induction fields with
  | nil => simp [insert, get?, different]
  | cons head rest ih =>
    obtain ⟨other, old⟩ := head
    unfold insert
    split
    · next same => subst same; simp [get?, different]
    · split
      · simp [get?, different]
      · simp [get?, ih]

@[simp] theorem get?_erase_self (name : String) (fields : Fields α) :
    get? name (erase name fields) = none := by
  induction fields with
  | nil => rfl
  | cons head rest ih =>
    unfold erase at ih ⊢
    rw [List.filter_cons]
    split
    · next kept =>
      have different : head.1 ≠ name := by simpa using kept
      rw [get?_cons, if_neg different]
      exact ih
    · exact ih

end Fields

end LiveBinding
