import LiveBinding.Operation.Comparison
import Mathlib.Data.Rat.Floor
import Mathlib.Tactic.Linarith

/-!
# Comparison of an integer and a decimal

An integer and a decimal are compared exactly, without rounding the integer: they are equal if
they stand for one number, and in order the decimal counts by its integer part.  The integer part
is clamped to the range of integers, so a decimal past an end of the range compares with the
integer at that end as if it were that integer.
-/

namespace LiveBinding

/-- The part of a number in front of its fraction. -/
def integerPart (number : ℚ) : ℤ := if 0 ≤ number then ⌊number⌋ else ⌈number⌉

@[simp] theorem integerPart_intCast (value : ℤ) : integerPart value = value := by
  rw [integerPart, Int.floor_intCast, Int.ceil_intCast, ite_self]

namespace Decimal

/-- The number that a decimal stands for, if it is finite. -/
def number? : Decimal → Option ℚ
  | .finite negative steps _ => some (signedSteps negative steps / unit)
  | .infinite _ => none
  | .nan => none

/-! ### Signed numbers of parts -/

theorem natAbs_signedSteps (negative : Bool) (steps : Nat) :
    (signedSteps negative steps).natAbs = steps := by
  cases negative with
  | false => simp [signedSteps]
  | true => simp [signedSteps]

section

-- The parts of one get a name, so that no tactic computes the steps that make one.
variable {parts : Nat} (positive : 0 < parts) (negative : Bool) {steps : Nat}
include positive

theorem integerPart_signedSteps :
    integerPart (signedSteps negative steps / parts) = signedSteps negative (steps / parts) := by
  have castPositive : (0 : ℚ) < parts := Nat.cast_pos.mpr positive
  rw [integerPart]
  cases negative with
  | false =>
      have sign : (0 : ℚ) ≤ (signedSteps false steps : ℤ) / (parts : ℚ) := by
        simp only [signedSteps, Bool.false_eq_true, if_false, Int.cast_natCast]
        positivity
      rw [if_pos sign, Rat.floor_intCast_div_natCast]
      simp [signedSteps]
  | true =>
      split
      · next sign =>
          rw [le_div_iff₀ castPositive, zero_mul] at sign
          have zero : 0 ≤ signedSteps true steps := by exact_mod_cast sign
          simp only [signedSteps, if_true] at zero
          obtain rfl : steps = 0 := by omega
          simp [signedSteps]
      · rw [Rat.ceil_intCast_div_natCast]
        simp [signedSteps]

theorem signedSteps_div_of_dvd (divides : parts ∣ steps) :
    (signedSteps negative steps / parts : ℚ) = signedSteps negative (steps / parts) := by
  obtain ⟨whole, rfl⟩ := divides
  have nonzero : (parts : ℚ) ≠ 0 := (Nat.cast_pos.mpr positive).ne'
  rw [Nat.mul_div_cancel_left _ positive, div_eq_iff nonzero]
  cases negative with
  | false => simp [signedSteps, mul_comm]
  | true => simp [signedSteps, mul_comm]

/-- An integer is a number of parts exactly if these are whole and the integer is their number. -/
theorem intCast_eq_signedSteps_div_iff (value : ℤ) :
    (value : ℚ) = signedSteps negative steps / parts ↔
      steps % parts = 0 ∧ signedSteps negative (steps / parts) = value := by
  constructor
  · intro same
    have whole : parts ∣ steps := by
      rw [eq_div_iff (Nat.cast_pos.mpr positive).ne'] at same
      have product : signedSteps negative steps = value * parts := by exact_mod_cast same.symm
      have divides : (parts : ℤ) ∣ signedSteps negative steps := product ▸ Int.dvd_mul_left ..
      cases negative with
      | false => exact Int.natCast_dvd_natCast.mp divides
      | true => exact Int.natCast_dvd_natCast.mp (Int.dvd_neg.mp divides)
    rw [signedSteps_div_of_dvd positive negative whole] at same
    exact ⟨Nat.mod_eq_zero_of_dvd whole, by exact_mod_cast same.symm⟩
  · rintro ⟨remainder, rfl⟩
    exact (signedSteps_div_of_dvd positive negative (Nat.dvd_of_mod_eq_zero remainder)).symm

theorem abs_signedSteps_div_lt {bound : Nat} (small : steps < bound * parts) :
    |(signedSteps negative steps / parts : ℚ)| < bound := by
  have castPositive : (0 : ℚ) < parts := Nat.cast_pos.mpr positive
  have magnitude : |(signedSteps negative steps : ℚ)| = steps := by
    rw [← Int.cast_abs, Int.abs_eq_natAbs, natAbs_signedSteps, Int.cast_natCast]
  rw [abs_div, abs_of_pos castPositive, div_lt_iff₀ castPositive, magnitude]
  exact_mod_cast small

theorem natAbs_signedSteps_div_lt {bound : Nat} (small : steps < bound * parts) :
    (signedSteps negative (steps / parts)).natAbs < bound := by
  rw [natAbs_signedSteps]
  exact (Nat.div_lt_iff_lt_mul positive).mpr small

end

/-! ### Integer parts -/

/-- The integer part is clamped to the range of integers. -/
theorem toInt_truncate (negative : Bool) {steps : Nat} (onGrid : OnGrid steps) :
    (finite negative steps onGrid).truncate.toInt =
      max Int64.minValue.toInt
        (min Int64.maxValue.toInt (signedSteps negative (steps / unit))) := by
  have least : Int64.minValue.toInt = -2 ^ 63 := rfl
  have greatest : Int64.maxValue.toInt = 2 ^ 63 - 1 := rfl
  simp only [truncate]
  generalize signedSteps negative (steps / unit) = whole
  split
  · omega
  · split
    · omega
    · rw [Int64.toInt_ofInt_of_le (by omega) (by omega)]
      omega

/-! ### Large decimals -/

/-- From 52 binary digits in front of the point on, there are none behind it. -/
theorem unit_dvd_of_onGrid {steps : Nat} (onGrid : OnGrid steps) (large : 2 ^ 52 * unit ≤ steps) :
    unit ∣ steps := by
  have positive := unit_pos
  have digits : unit ∣ spacing steps := by
    unfold unit spacing at *
    generalize depth = bits at *
    have nonzero : steps ≠ 0 := by omega
    have log : 52 + bits ≤ steps.log2 := by
      rw [Nat.le_log2 nonzero, Nat.pow_add]
      exact large
    exact Nat.pow_dvd_pow 2 (by omega)
  exact digits.trans (Nat.dvd_of_mod_eq_zero onGrid.2)

variable (negative : Bool) {steps : Nat} (onGrid : OnGrid steps)
include onGrid

/-- A decimal stands for its integer part, unless it is small. -/
theorem signedSteps_whole_or_small :
    (signedSteps negative steps / unit : ℚ) = signedSteps negative (steps / unit) ∨
      |(signedSteps negative steps / unit : ℚ)| < 2 ^ 52 ∧
        (signedSteps negative (steps / unit)).natAbs < 2 ^ 52 := by
  have positive := unit_pos
  rcases Nat.lt_or_ge steps (2 ^ 52 * unit) with small | large
  · exact .inr ⟨by exact_mod_cast abs_signedSteps_div_lt positive negative small,
      natAbs_signedSteps_div_lt positive negative small⟩
  · exact .inl (signedSteps_div_of_dvd positive negative (unit_dvd_of_onGrid onGrid large))

theorem lt_signedSteps_div_iff {bound : ℤ} (large : 2 ^ 52 ≤ bound) :
    (bound : ℚ) < signedSteps negative steps / unit ↔
      bound < signedSteps negative (steps / unit) := by
  rcases signedSteps_whole_or_small negative onGrid with whole | ⟨small, smallWhole⟩
  · rw [whole]
    exact Int.cast_lt
  · have castLarge : (2 ^ 52 : ℚ) ≤ bound := by exact_mod_cast large
    exact iff_of_false (by linarith [(abs_lt.mp small).2]) (by omega)

theorem signedSteps_div_lt_iff {bound : ℤ} (large : bound ≤ -2 ^ 52) :
    signedSteps negative steps / unit < (bound : ℚ) ↔
      signedSteps negative (steps / unit) < bound := by
  rcases signedSteps_whole_or_small negative onGrid with whole | ⟨small, smallWhole⟩
  · rw [whole]
    exact Int.cast_lt
  · have castLarge : (bound : ℚ) ≤ -2 ^ 52 := by exact_mod_cast large
    exact iff_of_false (by linarith [(abs_lt.mp small).1]) (by omega)

/-- A decimal whose integer part is large has no fraction. -/
theorem mod_unit_of_large (large : 2 ^ 52 ≤ (signedSteps negative (steps / unit)).natAbs) :
    steps % unit = 0 := by
  rcases Nat.lt_or_ge steps (2 ^ 52 * unit) with few | many
  · have small := natAbs_signedSteps_div_lt unit_pos negative few
    omega
  · exact Nat.mod_eq_zero_of_dvd (unit_dvd_of_onGrid onGrid many)

end Decimal

/-! ### Relations -/

/-- What a relation says of an integer and a number: equality is exact, and the order is that of
the integer and the integer part of the number. -/
def Relation.HoldsExactly (relation : Relation) (integer : ℤ) (number : ℚ) : Prop :=
  match relation with
  | .eq => (integer : ℚ) = number
  | .gt => integerPart number < integer
  | .gte => integerPart number ≤ integer
  | .lt => integer < integerPart number
  | .lte => integer ≤ integerPart number

instance (relation : Relation) (integer : ℤ) (number : ℚ) :
    Decidable (relation.HoldsExactly integer number) :=
  match relation with
  | .eq => inferInstanceAs (Decidable ((integer : ℚ) = number))
  | .gt => inferInstanceAs (Decidable (integerPart number < integer))
  | .gte => inferInstanceAs (Decidable (integerPart number ≤ integer))
  | .lt => inferInstanceAs (Decidable (integer < integerPart number))
  | .lte => inferInstanceAs (Decidable (integer ≤ integerPart number))

/-- The relation with its sides exchanged. -/
def Relation.converse : Relation → Relation
  | .eq => .eq
  | .gt => .lt
  | .gte => .lte
  | .lt => .gt
  | .lte => .gte

/-- A number past the end of the range of integers at which an integer is. -/
def PastEnd (integer : Int64) (number : ℚ) : Prop :=
  integer = Int64.maxValue ∧ (Int64.maxValue.toInt : ℚ) < number ∨
    integer = Int64.minValue ∧ number < (Int64.minValue.toInt : ℚ)

instance (integer : Int64) (number : ℚ) : Decidable (PastEnd integer number) :=
  inferInstanceAs (Decidable (_ ∨ _))

/-- The number as which a decimal counts against an integer. -/
def countedAgainst (integer : Int64) (number : ℚ) : ℚ :=
  if PastEnd integer number then integer.toInt else number

theorem pastEnd_signedSteps_iff (integer : Int64) (negative : Bool) {steps : Nat}
    (onGrid : Decimal.OnGrid steps) :
    let whole := Decimal.signedSteps negative (steps / Decimal.unit)
    PastEnd integer (Decimal.signedSteps negative steps / Decimal.unit) ↔
      integer.toInt = Int64.maxValue.toInt ∧ Int64.maxValue.toInt < whole ∨
        integer.toInt = Int64.minValue.toInt ∧ whole < Int64.minValue.toInt := by
  intro whole
  rw [PastEnd, Decimal.lt_signedSteps_div_iff negative onGrid (by decide),
    Decimal.signedSteps_div_lt_iff negative onGrid (by decide), ← Int64.toInt_inj,
    ← Int64.toInt_inj]

/-- What is clamped is the whole of what the decimal counts as, or beyond an end at which the
integer is not. -/
theorem integerPart_countedAgainst (integer : Int64) (negative : Bool) {steps : Nat}
    (onGrid : Decimal.OnGrid steps) :
    let whole := Decimal.signedSteps negative (steps / Decimal.unit)
    integerPart (countedAgainst integer (Decimal.signedSteps negative steps / Decimal.unit)) =
      if integer.toInt = Int64.maxValue.toInt ∧ Int64.maxValue.toInt < whole ∨
        integer.toInt = Int64.minValue.toInt ∧ whole < Int64.minValue.toInt
      then integer.toInt else whole := by
  intro whole
  simp only [countedAgainst, pastEnd_signedSteps_iff integer negative onGrid]
  split
  · exact integerPart_intCast _
  · exact Decimal.integerPart_signedSteps Decimal.unit_pos negative

namespace Number

variable {decimal : Decimal} {number : ℚ} (stands : decimal.number? = some number)
include stands

/-- The order of an integer and a clamped integer part is that of the integer and the part of
what the decimal counts as. -/
theorem compare_truncate (integer : Int64) :
    compare integer decimal.truncate =
      compare integer.toInt (integerPart (countedAgainst integer number)) := by
  cases decimal with
  | finite negative steps onGrid =>
      cases stands
      have low := integer.le_toInt
      have high := integer.toInt_lt
      have least : Int64.minValue.toInt = -2 ^ 63 := rfl
      have greatest : Int64.maxValue.toInt = 2 ^ 63 - 1 := rfl
      rw [integerPart_countedAgainst integer negative onGrid]
      simp only [compare, compareOfLessAndEq, Int64.lt_iff_toInt_lt, ← Int64.toInt_inj,
        Decimal.toInt_truncate]
      generalize Decimal.signedSteps negative (steps / Decimal.unit) = whole
      grind
  | _ => contradiction

/-- An integer equals a decimal exactly if it is the number that the decimal counts as. -/
theorem isIntegral_and_truncate_eq_iff (integer : Int64) :
    (decimal.isIntegral && decimal.truncate == integer) = true ↔
      (integer.toInt : ℚ) = countedAgainst integer number := by
  cases decimal with
  | finite negative steps onGrid =>
      cases stands
      have low := integer.le_toInt
      have high := integer.toInt_lt
      have least : Int64.minValue.toInt = -2 ^ 63 := rfl
      have greatest : Int64.maxValue.toInt = 2 ^ 63 - 1 := rfl
      have whole := Decimal.mod_unit_of_large negative onGrid
      have exactly :=
        @Decimal.intCast_eq_signedSteps_div_iff _ Decimal.unit_pos negative steps integer.toInt
      rw [Bool.and_eq_true, beq_iff_eq, ← Int64.toInt_inj, Decimal.toInt_truncate,
        Decimal.isIntegral, beq_iff_eq]
      simp only [countedAgainst, pastEnd_signedSteps_iff integer negative onGrid]
      generalize Decimal.signedSteps negative (steps / Decimal.unit) = part at *
      split
      · next past => exact iff_of_true ⟨whole (by omega), by omega⟩ rfl
      · next within =>
          rw [exactly]
          exact and_congr_right fun _ => by omega
  | _ => contradiction

end Number

/-! ### Values -/

namespace Value

theorem isNull_of_numeric? {value : Value} {number : Number}
    (reading : value.numeric? = some number) : value.isNull = false := by
  cases value with
  | null => contradiction
  | _ => rfl

variable {left right : Value}

/-- An integer and a decimal, one of them perhaps a text, are compared as these numbers. -/
theorem pairing_of_numeric? {integer : Int64} {decimal : Decimal}
    (first : left.numeric? = some (.int integer))
    (second : right.numeric? = some (.decimal decimal))
    (kinds : left = .int integer ∨ right = .decimal decimal) :
    pairing left right = .numeric (some (.int integer)) (some (.decimal decimal)) ∧
      pairing right left = .numeric (some (.decimal decimal)) (some (.int integer)) := by
  rcases kinds with rfl | rfl
  · cases right with
    | number =>
        cases second
        exact ⟨rfl, rfl⟩
    | string => exact ⟨congrArg _ second, congrArg (Pairing.numeric · _) second⟩
    | _ => contradiction
  · cases left with
    | number =>
        cases first
        exact ⟨rfl, rfl⟩
    | string => exact ⟨congrArg (Pairing.numeric · _) first, congrArg _ first⟩
    | _ => contradiction

section

variable {leftNumber rightNumber : Number}
  (paired : pairing left right = .numeric (some leftNumber) (some rightNumber))
include paired

theorem equal_of_pairing : left.equal right = leftNumber.equal rightNumber := by
  simp only [equal, paired]

theorem order?_of_pairing : left.order? right = leftNumber.order? rightNumber := by
  simp only [order?, paired]

end

end Value

namespace Relation

variable {left right : Value} {integer : ℤ} {number : ℚ} (relation : Relation)

theorem holds_iff_of_order
    (equal : left.equal right = true ↔ (integer : ℚ) = number)
    (order : left.order? right = some (compare integer (integerPart number))) :
    relation.holds left right = true ↔ relation.HoldsExactly integer number := by
  cases relation with
  | eq => exact equal
  | gt => simp [holds, HoldsExactly, order, compare_gt_iff_gt]
  | gte => simp [holds, HoldsExactly, order, compare_gt_iff_gt, le_iff_lt_or_eq, @eq_comm _ integer]
  | lt => simp [holds, HoldsExactly, order, compare_lt_iff_lt]
  | lte => simp [holds, HoldsExactly, order, compare_lt_iff_lt, le_iff_lt_or_eq]

theorem holds_converse_iff_of_order
    (equal : left.equal right = true ↔ (integer : ℚ) = number)
    (order : left.order? right = some (compare (integerPart number) integer)) :
    relation.holds left right = true ↔ relation.converse.HoldsExactly integer number := by
  cases relation with
  | eq => exact equal
  | gt => simp [holds, converse, HoldsExactly, order, compare_gt_iff_gt]
  | gte =>
      simp [holds, converse, HoldsExactly, order, compare_gt_iff_gt, le_iff_lt_or_eq,
        @eq_comm _ integer]
  | lt => simp [holds, converse, HoldsExactly, order, compare_lt_iff_lt]
  | lte => simp [holds, converse, HoldsExactly, order, compare_lt_iff_lt, le_iff_lt_or_eq]

/-- An integer and a decimal, in either order, are compared exactly, with the decimal counting as
the integer where it is past the end of the range at which the integer is.  One of the values may
be a text that reads as the integer or the decimal. -/
theorem apply_int_decimal {left right : Value} {integer : Int64} {decimal : Decimal} {number : ℚ}
    (first : left.numeric? = some (.int integer))
    (second : right.numeric? = some (.decimal decimal))
    (kinds : left = .int integer ∨ right = .decimal decimal)
    (stands : decimal.number? = some number) (relation : Relation) :
    let counted := countedAgainst integer number
    relation.apply [left, right] = .bool (relation.HoldsExactly integer.toInt counted) ∧
      relation.apply [right, left] =
        .bool (relation.converse.HoldsExactly integer.toInt counted) := by
  intro counted
  obtain ⟨paired, pairedBack⟩ := Value.pairing_of_numeric? first second kinds
  have equal := Number.isIntegral_and_truncate_eq_iff stands integer
  have order := Number.compare_truncate stands integer
  have orderBack :
      compare decimal.truncate integer = compare (integerPart counted) integer.toInt := by
    rw [Std.OrientedOrd.eq_swap, order, ← Std.OrientedOrd.eq_swap]
  have forward : relation.holds left right = true ↔ _ := relation.holds_iff_of_order
    (Value.equal_of_pairing paired ▸ equal)
    ((Value.order?_of_pairing paired).trans (congrArg some order))
  have backward : relation.holds right left = true ↔ _ := relation.holds_converse_iff_of_order
    (Value.equal_of_pairing pairedBack ▸ equal)
    ((Value.order?_of_pairing pairedBack).trans (congrArg some orderBack))
  simp only [apply, Value.isNull_of_numeric? first, Value.isNull_of_numeric? second, Bool.or_self,
    Bool.false_eq_true, if_false, Value.bool.injEq]
  exact ⟨Bool.eq_iff_iff.mpr (by simpa using forward),
    Bool.eq_iff_iff.mpr (by simpa using backward)⟩

/-- A text that reads as an integer of 54 binary digits, and the decimal next to it. -/
theorem apply_int_decimal_of_54_digits :
    (Value.string "9007199254740993").numeric? = some (.int 9007199254740993) ∧
      (Decimal.ofInt 9007199254740992).number? = some 9007199254740992 ∧
      Relation.eq.apply [.string "9007199254740993", .decimal (.ofInt 9007199254740992)] =
        .bool false ∧
      Relation.lt.apply [.decimal (.ofInt 9007199254740992), .string "9007199254740993"] =
        .bool true := by
  have reading : (Value.string "9007199254740993").numeric? = some (.int 9007199254740993) := by
    decide +kernel
  have stands : (Decimal.ofInt 9007199254740992).number? = some 9007199254740992 := by
    decide +kernel
  have compared := apply_int_decimal reading rfl (.inr rfl) stands
  exact ⟨reading, stands, (compared .eq).1.trans (congrArg Value.bool (by decide +kernel)),
    (compared .lt).2.trans (congrArg Value.bool (by decide +kernel))⟩

/-- The greatest integer equals the decimal that is larger by one. -/
theorem not_exact_past_end :
    ¬∀ (integer : Int64) (decimal : Decimal) (number : ℚ) (relation : Relation),
      decimal.number? = some number →
        relation.apply [.int integer, .decimal decimal] =
          .bool (relation.HoldsExactly integer.toInt number) := by
  intro exact
  have stands : (Decimal.ofInt 9223372036854775808).number? = some 9223372036854775808 := by
    decide +kernel
  have refuted := Value.bool.inj (exact Int64.maxValue _ _ .eq stands)
  exact absurd refuted (by decide +kernel)

end Relation

end LiveBinding
