import LiveBinding.Json.Reader
import LiveBinding.Proofs.Fields

/-!
# Objects that were read

The names in an object that was read ascend, in whatever order they were written, so each occurs
once.
-/

namespace LiveBinding

/-! ### The reader -/

namespace Json

theorem ascending_of_takeFields? {fuel depth : Nat} {before fields : Fields Json}
    {chars rest : List Char} (taken : takeFields? fuel depth before chars = some (fields, rest))
    (ascending : before.Ascending) : fields.Ascending := by
  induction fuel generalizing before chars with
  | zero => simp [takeFields?] at taken
  | succ fuel ih =>
      rw [takeFields?] at taken
      split at taken
      · obtain ⟨⟨name, _⟩, -, taken⟩ := Option.bind_eq_some_iff.mp taken
        dsimp only at taken
        split at taken
        · obtain ⟨⟨item, _⟩, -, taken⟩ := Option.bind_eq_some_iff.mp taken
          have extended := ascending.insert (String.ofList name) item
          dsimp only at taken
          split at taken
          · exact ih taken extended
          · cases taken
            exact extended
          · contradiction
        · contradiction
      · contradiction

theorem ascending_of_takeValue? {fuel depth : Nat} {fields : Fields Json} {chars rest : List Char}
    (taken : takeValue? fuel depth chars = some (.object fields, rest)) : fields.Ascending := by
  cases fuel with
  | zero => simp [takeValue?] at taken
  | succ fuel =>
      rw [takeValue?] at taken
      split at taken
      case h_4 =>
        split at taken
        · contradiction
        · cases taken
          exact List.Pairwise.nil
        · obtain ⟨⟨found, left⟩, fieldsTaken, same⟩ := Option.map_eq_some_iff.mp taken
          cases same
          exact ascending_of_takeFields? fieldsTaken List.Pairwise.nil
      case h_3 => split at taken <;> simp at taken
      -- no other document is an object
      all_goals simp at taken

/-- The names in an object that was read ascend. -/
theorem ascending_of_read? {text : String} {fields : Fields Json}
    (read : read? text = some (.object fields)) : fields.Ascending := by
  obtain ⟨⟨document, rest⟩, taken, complete⟩ := Option.bind_eq_some_iff.mp read
  dsimp only at complete
  split at complete
  · cases complete
    exact ascending_of_takeValue? taken
  · contradiction

end Json

namespace Value

theorem ofJsonFields_eq_map (fields : Fields Json) :
    ofJson.ofJsonFields fields = fields.map fun field => (field.1, ofJson field.2) := by
  induction fields with
  | nil => rfl
  | cons field fields ih =>
      obtain ⟨name, item⟩ := field
      rw [ofJson.ofJsonFields, ih, List.map_cons]

/-- A text whose value is an object is an object as a document. -/
theorem exists_fields_of_read? {text : String} {contexts : Fields Value}
    (read : (Json.read? text).map ofJson = some (.object contexts)) :
    ∃ fields, Json.read? text = some (.object fields) ∧
      contexts = fields.map fun field => (field.1, ofJson field.2) := by
  obtain ⟨document, found, value⟩ := Option.map_eq_some_iff.mp read
  cases document with
  | object fields =>
      rw [ofJson, ofJsonFields_eq_map, object.injEq] at value
      exact ⟨fields, found, value.symm⟩
  | null | bool | number | string | array => simp [ofJson] at value

/-- The names in an object that was read ascend. -/
theorem ascending_of_read? {text : String} {contexts : Fields Value}
    (read : (Json.read? text).map ofJson = some (.object contexts)) : contexts.Ascending := by
  obtain ⟨fields, found, rfl⟩ := exists_fields_of_read? read
  exact List.pairwise_map.mpr (Json.ascending_of_read? found)

end Value

end LiveBinding
