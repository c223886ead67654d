import LiveBinding.Operation.Builtin

/-!
# Folds of integers are exact

Sums, differences, products and quotients are taken over all operands from the left.  A total is an
integer as long as all operands so far are integers and no exact total left the range; from then on
it is a decimal, whatever follows.  So the result is an integer exactly if every total on the way is
one, and then nothing was rounded.  An operand that is not numeric leaves no result, wherever it
stands.
-/

namespace LiveBinding

/-! ### Integers among the values -/

/-- The integer that a value is, or that it denotes as a text. -/
def Value.integer? : Value → Option Int
  | .number (.int value) => some value.toInt
  | .string text => (Text.readInt64? text).map Int64.toInt
  | _ => none

/-- Whether 64 bits hold an integer. -/
def FitsInt64 (value : Int) : Prop :=
  Int64.minValue.toInt ≤ value ∧ value ≤ Int64.maxValue.toInt

instance (value : Int) : Decidable (FitsInt64 value) := inferInstanceAs (Decidable (_ ∧ _))

theorem fitsInt64_toInt (value : Int64) : FitsInt64 value.toInt :=
  ⟨value.minValue_le_toInt, value.toInt_le⟩

theorem FitsInt64.ofInt_eq_iff {exact : Int} (fits : FitsInt64 exact) {value : Int64} :
    Int64.ofInt exact = value ↔ exact = value.toInt := by
  rw [← Int64.toInt_inj, Int64.toInt_ofInt_of_le fits.1 (Int.lt_add_one_of_le fits.2)]

theorem Value.integer?_eq_some_iff {value : Value} {integer : Int} :
    value.integer? = some integer ↔
      ∃ reading, value.numeric? = some (.int reading) ∧ reading.toInt = integer := by
  cases value with
  | number number => cases number <;> simp [integer?, numeric?]
  | string text =>
      rw [integer?, numeric?, Number.ofText?]
      cases Text.readInt64? text <;> simp
  | null | bool | array | object => simp [integer?, numeric?]

namespace Arithmetic

variable {operation : Arithmetic} {operands : List Value}

/-! ### One step -/

/-- Whether an operation is defined for a right operand. -/
def Admits : Arithmetic → Int → Prop
  | .div, right => right ≠ 0
  | _, _ => True

theorem admits_toInt {right : Int64} :
    operation.Admits right.toInt ↔ ¬(operation = .div ∧ right = 0) := by
  cases operation <;> simp [Admits, ← Int64.toInt_inj]

theorem ne_int_of_combineDecimals? {left right : Decimal} {total : Number}
    (done : operation.combineDecimals? left right = some total) (value : Int64) :
    total ≠ .int value := by
  simp only [combineDecimals?] at done
  split at done
  · contradiction
  · split at done
    · cases done
      exact nofun
    · contradiction

/-- Two integers give an integer exactly if the exact result is defined and fits. -/
theorem combineInts?_eq_int_iff {left right value : Int64} :
    operation.combineInts? left right = some (.int value) ↔
      operation.Admits right.toInt ∧ FitsInt64 (operation.onInt left.toInt right.toInt) ∧
        operation.onInt left.toInt right.toInt = value.toInt := by
  simp only [combineInts?, admits_toInt]
  split
  · next undefined => exact iff_of_false nofun fun exact => exact.1 undefined
  · next defined =>
      rw [and_iff_right defined]
      split
      · next inRange =>
          have fits : FitsInt64 (operation.onInt left.toInt right.toInt) := inRange
          simp [fits, fits.ofInt_eq_iff]
      · next outside =>
          refine iff_of_false (fun done => ?_) fun exact => outside exact.1
          exact ne_int_of_combineDecimals? done value rfl

/-- Numbers give an integer only if both are integers. -/
theorem combine?_eq_int_iff {left right : Number} {value : Int64} :
    operation.combine? left right = some (.int value) ↔
      ∃ leftInt rightInt, left = .int leftInt ∧ right = .int rightInt ∧
        operation.combineInts? leftInt rightInt = some (.int value) := by
  cases left with
  | int leftInt =>
      cases right with
      | int rightInt => simp [combine?]
      | decimal =>
          simp only [reduceCtorEq, false_and, and_false, exists_false, iff_false]
          exact fun done => ne_int_of_combineDecimals? done value rfl
  | decimal =>
      simp only [reduceCtorEq, false_and, exists_false, iff_false]
      exact fun done => ne_int_of_combineDecimals? done value rfl

/-! ### Whole folds -/

theorem foldFrom_cons_eq_some_iff {total result : Number} {operand : Value} :
    operation.foldFrom total (operand :: operands) = some result ↔
      ∃ number next, operand.numeric? = some number ∧
        operation.combine? total number = some next ∧
          operation.foldFrom next operands = some result := by
  rw [foldFrom]
  cases operand.numeric? with
  | none => simp
  | some number =>
      cases combined : operation.combine? total number with
      | none => simp [combined]
      | some next => simp [combined]

/-- A fold that came to a decimal stays with decimals. -/
theorem foldFrom_decimal_ne_int (decimal : Decimal) (value : Int64) :
    operation.foldFrom (.decimal decimal) operands ≠ some (.int value) := by
  induction operands generalizing decimal with
  | nil => exact nofun
  | cons operand rest ih =>
      intro done
      obtain ⟨number, next, -, combined, later⟩ := foldFrom_cons_eq_some_iff.mp done
      cases next with
      | int next =>
          obtain ⟨_, _, impossible, -⟩ := combine?_eq_int_iff.mp combined
          contradiction
      | decimal next => exact ih next later

/-- From an integer on, a fold ends with an integer exactly if all operands are integers for which
the operation is defined and every exact total fits. -/
theorem foldFrom_eq_int_iff {start value : Int64} :
    operation.foldFrom (.int start) operands = some (.int value) ↔
      ∃ rest : List Int, operands.map Value.integer? = rest.map some ∧
        (∀ right ∈ rest, operation.Admits right) ∧
          (∀ count, FitsInt64 ((rest.take count).foldl operation.onInt start.toInt)) ∧
            rest.foldl operation.onInt start.toInt = value.toInt := by
  induction operands generalizing start with
  | nil =>
      rw [foldFrom, Option.some.injEq, Number.int.injEq, ← Int64.toInt_inj]
      constructor
      · intro same
        refine ⟨[], rfl, nofun, fun count => ?_, same⟩
        rw [List.take_nil]
        exact fitsInt64_toInt start
      · rintro ⟨rest, integers, -, -, result⟩
        cases List.map_eq_nil_iff.mp integers.symm
        exact result
  | cons operand operands ih =>
      rw [foldFrom_cons_eq_some_iff]
      constructor
      · rintro ⟨number, next, reading, combined, later⟩
        cases next with
        | decimal next => exact absurd later (foldFrom_decimal_ne_int next value)
        | int next =>
            obtain ⟨_, right, same, rfl, exactly⟩ := combine?_eq_int_iff.mp combined
            cases same
            obtain ⟨admitted, fits, total⟩ := combineInts?_eq_int_iff.mp exactly
            obtain ⟨rest, integers, allAdmitted, allFit, result⟩ := ih.mp later
            rw [← total] at allFit result
            refine ⟨right.toInt :: rest, ?_, ?_, fun count => ?_, result⟩
            · rw [List.map_cons, List.map_cons, integers,
                Value.integer?_eq_some_iff.mpr ⟨right, reading, rfl⟩]
            · exact List.forall_mem_cons.mpr ⟨admitted, allAdmitted⟩
            · cases count with
              | zero => exact fitsInt64_toInt start
              | succ count => exact allFit count
      · rintro ⟨rest, integers, admitted, fits, result⟩
        cases rest with
        | nil => contradiction
        | cons right rest =>
            rw [List.map_cons, List.map_cons, List.cons.injEq] at integers
            obtain ⟨integer, others⟩ := integers
            obtain ⟨reading, isReading, rfl⟩ := Value.integer?_eq_some_iff.mp integer
            obtain ⟨firstAdmitted, othersAdmitted⟩ := List.forall_mem_cons.mp admitted
            have firstFits := fits 1
            let next := Int64.ofInt (operation.onInt start.toInt reading.toInt)
            have total : operation.onInt start.toInt reading.toInt = next.toInt :=
              (FitsInt64.ofInt_eq_iff firstFits).mp rfl
            refine ⟨.int reading, .int next, isReading, ?_, ?_⟩
            · exact combine?_eq_int_iff.mpr ⟨start, reading, rfl, rfl,
                combineInts?_eq_int_iff.mpr ⟨firstAdmitted, firstFits, total⟩⟩
            · refine ih.mpr ⟨rest, others, othersAdmitted, fun count => ?_, ?_⟩
              · rw [← total]
                exact fits (count + 1)
              · rw [← total]
                exact result

/-- The operands denote integers, the operation is defined for all of them, every exact total from
the left fits, and the last one is the result. -/
def FoldsExactly (exact : Int → Int → Int) (admits : Int → Prop) (operands : List Value)
    (result : Int) : Prop :=
  ∃ first rest, operands.map Value.integer? = (first :: rest).map some ∧
    (∀ right ∈ rest, admits right) ∧
      (∀ count, FitsInt64 ((rest.take count).foldl exact first)) ∧
        rest.foldl exact first = result

/-- There are no more totals than operands. -/
theorem fits_of_le_length {exact : Int → Int → Int} {first : Int} {rest : List Int}
    (fits : ∀ count ≤ rest.length, FitsInt64 ((rest.take count).foldl exact first)) (count : Nat) :
    FitsInt64 ((rest.take count).foldl exact first) := by
  obtain short | past := Nat.le_total count rest.length
  · exact fits count short
  · have whole := fits rest.length (Nat.le_refl _)
    rwa [List.take_length, ← List.take_of_length_le past] at whole

theorem fold_eq_int_iff {value : Int64} :
    operation.fold operands = .number (.int value) ↔
      FoldsExactly operation.onInt operation.Admits operands value.toInt := by
  cases operands with
  | nil =>
      refine iff_of_false nofun ?_
      rintro ⟨first, rest, impossible, -⟩
      contradiction
  | cons first operands =>
      have folded : operation.fold (first :: operands) = .number (.int value) ↔
          ∃ start, first.numeric? = some start ∧
            operation.foldFrom start operands = some (.int value) := by
        rw [fold]
        cases first.numeric? with
        | none => simp
        | some start => cases result : operation.foldFrom start operands <;> simp [result]
      rw [folded]
      constructor
      · rintro ⟨start, reading, later⟩
        cases start with
        | decimal start => exact absurd later (foldFrom_decimal_ne_int start value)
        | int start =>
            obtain ⟨rest, integers, exact⟩ := foldFrom_eq_int_iff.mp later
            refine ⟨start.toInt, rest, ?_, exact⟩
            rw [List.map_cons, List.map_cons, integers,
              Value.integer?_eq_some_iff.mpr ⟨start, reading, rfl⟩]
      · rintro ⟨start, rest, integers, exact⟩
        rw [List.map_cons, List.map_cons, List.cons.injEq] at integers
        obtain ⟨start, reading, rfl⟩ := Value.integer?_eq_some_iff.mp integers.1
        exact ⟨.int start, reading, foldFrom_eq_int_iff.mpr ⟨rest, integers.2, exact⟩⟩

/-! ### Operands that are not numeric -/

theorem foldFrom_eq_none_of_mem {operand : Value} (member : operand ∈ operands)
    (notNumeric : operand.numeric? = none) (total : Number) :
    operation.foldFrom total operands = none := by
  induction operands generalizing total with
  | nil => contradiction
  | cons first rest ih =>
      refine Option.eq_none_iff_forall_ne_some.mpr fun result done => ?_
      obtain ⟨number, next, reading, -, later⟩ := foldFrom_cons_eq_some_iff.mp done
      rcases List.mem_cons.mp member with rfl | member
      · rw [notNumeric] at reading
        contradiction
      · rw [ih member next] at later
        contradiction

theorem fold_eq_null_of_mem {operand : Value} (member : operand ∈ operands)
    (notNumeric : operand.numeric? = none) : operation.fold operands = .null := by
  cases operands with
  | nil => contradiction
  | cons first rest =>
      rw [fold]
      rcases List.mem_cons.mp member with rfl | member
      · rw [notNumeric]
      · cases first.numeric? with
        | none => rfl
        | some start =>
            simp only
            rw [foldFrom_eq_none_of_mem member notNumeric]
            rfl

end Arithmetic

/-! ### The four operations -/

namespace Builtin

open Arithmetic

/-- An operation has an integer as its result exactly if there is an operand, all operands are
integers or texts of integers, no divisor is zero and no exact total from the left leaves the range,
and this integer is then the exact result.  With an operand that is not numeric, at any position,
there is no result. -/
theorem apply_folds_exactly (operands : List Value) :
    (∀ result,
      (Builtin.sum.apply operands = .number (.int result) ↔
        FoldsExactly (· + ·) (fun _ => True) operands result.toInt) ∧
      (Builtin.subtract.apply operands = .number (.int result) ↔
        FoldsExactly (· - ·) (fun _ => True) operands result.toInt) ∧
      (Builtin.multiply.apply operands = .number (.int result) ↔
        FoldsExactly (· * ·) (fun _ => True) operands result.toInt) ∧
      (Builtin.divide.apply operands = .number (.int result) ↔
        FoldsExactly Int.tdiv (· ≠ 0) operands result.toInt)) ∧
    ((∃ operand ∈ operands, operand.numeric? = none) →
      ∀ operation ∈ [Builtin.sum, .subtract, .multiply, .divide],
        operation.apply operands = .null) := by
  refine ⟨fun result => ⟨?_, ?_, ?_, ?_⟩, ?_⟩
  · exact fold_eq_int_iff
  · exact fold_eq_int_iff
  · exact fold_eq_int_iff
  · exact fold_eq_int_iff
  · rintro ⟨operand, member, notNumeric⟩
    simp only [List.forall_mem_cons, List.not_mem_nil, false_implies, implies_true, and_true]
    refine ⟨?_, ?_, ?_, ?_⟩ <;> exact fold_eq_null_of_mem member notNumeric

/-- A total that leaves the range does not come back to an integer, even if the exact result is in
range again, and an operand that is not numeric is found behind it.  The same operands in another
order have an exact sum, and a quotient is cut toward zero. -/
theorem apply_folds_exactly_there_and_back :
    (∀ result : Int64,
      Builtin.sum.apply [.int Int64.maxValue, .string "1", .int (-1)] ≠ .number (.int result)) ∧
    (∃ operand ∈ [Value.int Int64.maxValue, .string "1", .bool true],
      operand.numeric? = none) ∧
    Builtin.sum.apply [.int Int64.maxValue, .string "1", .bool true] = .null ∧
    Builtin.sum.apply [.int Int64.maxValue, .int (-1), .string "1"] =
      .number (.int Int64.maxValue) ∧
    Builtin.divide.apply [.int (-7), .string "2"] = .number (.int (-3)) := by
  refine ⟨fun result same => ?_, ⟨.bool true, by simp, rfl⟩, ?_, ?_, ?_⟩
  · obtain ⟨first, rest, integers, -, fits, -⟩ :=
      ((apply_folds_exactly [.int Int64.maxValue, .string "1", .int (-1)]).1 result).1.mp same
    have total : (first :: rest).map some = [some Int64.maxValue.toInt, some 1, some (-1)] :=
      integers.symm.trans (by decide)
    cases rest with
    | nil => simp at total
    | cons second rest =>
        simp only [List.map_cons, List.cons.injEq, Option.some.injEq] at total
        obtain ⟨rfl, rfl, -⟩ := total
        have inRange : Int64.maxValue.toInt + 1 ≤ Int64.maxValue.toInt := (fits 1).2
        exact absurd inRange (by decide)
  · exact (apply_folds_exactly _).2 ⟨.bool true, by simp, rfl⟩ .sum (by simp)
  · refine ((apply_folds_exactly _).1 Int64.maxValue).1.mpr
      ⟨Int64.maxValue.toInt, [-1, 1], by decide, fun _ _ => trivial, ?_, by decide⟩
    exact fits_of_le_length (by decide)
  · refine ((apply_folds_exactly _).1 (-3)).2.2.2.mpr
      ⟨-7, [2], by decide, by decide, ?_, by decide⟩
    exact fits_of_le_length (by decide)

end Builtin

end LiveBinding
