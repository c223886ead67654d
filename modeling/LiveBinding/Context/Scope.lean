import LiveBinding.Context.Basic

/-!
# Scopes

A scope is what can be seen from one point: contexts, nearest first, of which the first one of
each name counts. The others are hidden by it and do not belong to the scope.
-/

namespace LiveBinding

/-- A context as it is seen, with the node that declares it. A context that was given without a
tree has no owner. -/
structure Scope.Entry where
  owner : Option NodeId
  context : Context
  isImplicit : Bool
  deriving DecidableEq

/-- Contexts with different names, nearest first. -/
structure Scope where
  entries : List Scope.Entry
  deriving DecidableEq

namespace Scope

/-- The name of a seen context. -/
def Entry.id (entry : Entry) : String := entry.context.id

/-- The first entry of each name. -/
def firstOfEachId : List Entry → List Entry
  | [] => []
  | entry :: rest => entry :: (firstOfEachId rest).filter (·.id ≠ entry.id)

/-- The scope of candidates, nearest first. -/
def ofEntries (candidates : List Entry) : Scope := ⟨firstOfEachId candidates⟩

/-- The scope in which nothing is seen. -/
def empty : Scope := ⟨[]⟩

/-- The scope of contexts given without a tree. -/
def ofContexts (contexts : List Context) : Scope :=
  ofEntries (contexts.map fun context => ⟨none, context, false⟩)

/-- The entry of a name. -/
def find? (scope : Scope) (id : String) : Option Entry := scope.entries.find? (·.id == id)

/-- The value of a name. -/
def value? (scope : Scope) (id : String) : Option Value :=
  (scope.find? id).map (·.context.value)

/-- The names that are seen, nearest first. -/
def ids (scope : Scope) : List String := scope.entries.map Entry.id

/-- The first candidate of a name is the one that is seen. -/
theorem find?_ofEntries (candidates : List Entry) (id : String) :
    (ofEntries candidates).find? id = candidates.find? (·.id == id) := by
  unfold ofEntries find?
  induction candidates with
  | nil => rfl
  | cons entry rest ih =>
    rw [firstOfEachId, List.find?_cons, List.find?_cons]
    cases same : entry.id == id with
    | true => rfl
    | false =>
      have different : ¬ entry.id = id := by simpa using same
      simp only [List.find?_filter]
      rw [← ih]
      congr 1
      funext candidate
      by_cases found : candidate.id = id
      · simp [found, Ne.symm different]
      · simp [found]

end Scope

end LiveBinding
