import LiveBinding.Operation.Builtin
import LiveBinding.Proofs.Decimal.Integers
import LiveBinding.Proofs.Operation.MixedComparison

/-!
# Comparison of texts of integers

Two texts are compared by the decimals they denote, also if both are texts of integers.  So they
compare as the integers do, except that integers with the same nearest decimal count as equal; this
happens only beyond the integers of 53 binary digits.  The generic order is the same for integers
and for their texts, since it takes the texts of the integers too.
-/

namespace LiveBinding

open Decimal (nearestSteps signedSteps compare_nearestSteps)

/-- Whether two integers are different, but have one nearest decimal. -/
def Merged (left right : Int64) : Prop :=
  left ≠ right ∧ (Decimal.ofInt left.toInt).denotesSame (Decimal.ofInt right.toInt) = true

instance (left right : Int64) : Decidable (Merged left right) := inferInstanceAs (Decidable (_ ∧ _))

theorem natAbs_toInt_lt (value : Int64) : value.toInt.natAbs < Decimal.leastInfinite := by
  have low := value.le_toInt
  have high := value.toInt_lt
  have large : 2 ^ 63 < Decimal.leastInfinite := by decide +kernel
  omega

theorem merged_iff {left right : Int64} :
    Merged left right ↔ left ≠ right ∧ nearestSteps left.toInt = nearestSteps right.toInt := by
  rw [Merged, Decimal.denotesSame,
    Decimal.compare?_ofInt (natAbs_toInt_lt left) (natAbs_toInt_lt right), beq_iff_eq,
    Option.some.injEq, Std.compare_eq_iff_eq]

/-- The order of the nearest decimals is that of the integers, unless these are merged. -/
theorem compare_nearestSteps_toInt (left right : Int64) :
    compare (nearestSteps left.toInt) (nearestSteps right.toInt) =
      if Merged left right then .eq else compare left right := by
  have machine : compare left.toInt right.toInt = compare left right := by
    simp only [compare, compareOfLessAndEq, Int64.lt_iff_toInt_lt, ← Int64.toInt_inj]
  rw [compare_nearestSteps, machine]
  by_cases same : left = right
  · subst same
    simp [merged_iff, Std.ReflCmp.compare_self]
  · simp [merged_iff, same]

/-- The text of an integer denotes the nearest decimal. -/
theorem finiteOfText?_of_readInt64? {text : String} {value : Int64}
    (reads : Text.readInt64? text = some value) :
    ∃ negative steps onGrid,
      Decimal.finiteOfText? text = some (.finite negative steps onGrid) ∧
        signedSteps negative steps = nearestSteps value.toInt := by
  obtain ⟨negative, digits, sign, numeral, denotes⟩ := Text.exists_of_readInt64? reads
  have signed : value.toInt = signedSteps negative (Text.readNat digits) := denotes
  have magnitude : value.toInt.natAbs = Text.readNat digits := by
    rw [signed, Decimal.natAbs_signedSteps]
  have small := natAbs_toInt_lt value
  rw [magnitude] at small
  obtain ⟨onGrid, nearest⟩ := Decimal.exists_ofRatio_eq negative small
  have read := Decimal.ofText?_of_isNumeral sign numeral
  rw [Decimal.toDecimal_natural negative (Nat.lt_of_lt_of_le small Decimal.leastInfinite_bounds.2),
    nearest] at read
  refine ⟨negative, _, onGrid, ?_, ?_⟩
  · rw [Decimal.finiteOfText?, read]
    rfl
  · rw [signed, Decimal.signedSteps_roundRatio]

section

variable {left right : String} {first second : Int64}
  (readsFirst : Text.readInt64? left = some first)
  (readsSecond : Text.readInt64? right = some second)
include readsFirst readsSecond

theorem compareTexts_of_readInt64? :
    Value.compareTexts left right =
      some (if Merged first second then .eq else compare first second) := by
  obtain ⟨_, _, _, isLeft, leftSteps⟩ := finiteOfText?_of_readInt64? readsFirst
  obtain ⟨_, _, _, isRight, rightSteps⟩ := finiteOfText?_of_readInt64? readsSecond
  rw [Value.compareTexts, isLeft, isRight]
  simp only [Decimal.compare?]
  rw [leftSteps, rightSteps, compare_nearestSteps_toInt]

/-- Texts of integers stand in the relations in which the integers stand, but merged integers count
as equal. -/
theorem holds_of_readInt64? (relation : Relation) :
    relation.holds (.string left) (.string right) =
      relation.holds (.int first) (.int (if Merged first second then first else second)) := by
  have generic := compareTexts_of_readInt64? readsFirst readsSecond
  have order : (Value.string left).order? (.string right) =
      (Value.int first).order? (.int (if Merged first second then first else second)) := by
    refine generic.trans ?_
    split
    · exact congrArg some Std.ReflCmp.compare_self.symm
    · rfl
  have equal : (Value.string left).equal (.string right) =
      (Value.int first).equal (.int (if Merged first second then first else second)) := by
    refine (congrArg (· == some Ordering.eq) generic).trans ?_
    split
    · exact (beq_self_eq_true first).symm
    · rw [Bool.eq_iff_iff, beq_iff_eq, Option.some.injEq, Std.compare_eq_iff_eq]
      exact beq_iff_eq.symm
  cases relation <;> simp only [Relation.holds, equal, order]

end

/-! ### The operations -/

/-- For two texts that read as integers, the generic order is the one of the integers, and the
relations are those of the integers with merged ones counted as equal.  So all relations are those
of the integers exactly if these are not merged, as they never are if one is below `2 ^ 53`. -/
theorem Relation.apply_integer_texts {left right : String} {first second : Int64}
    (readsFirst : Text.readInt64? left = some first)
    (readsSecond : Text.readInt64? right = some second) :
    Builtin.comparison.apply [.string left, .string right] =
        Builtin.comparison.apply [.int first, .int second] ∧
      (∀ relation : Relation, relation.apply [.string left, .string right] =
        relation.apply [.int first, .int (if Merged first second then first else second)]) ∧
      ((∀ relation : Relation, relation.apply [.string left, .string right] =
        relation.apply [.int first, .int second]) ↔ ¬Merged first second) ∧
      (Merged first second →
        2 ^ 53 ≤ first.toInt.natAbs ∧ 2 ^ 53 ≤ second.toInt.natAbs) := by
  have relations : ∀ relation : Relation, relation.apply [.string left, .string right] =
      relation.apply [.int first, .int (if Merged first second then first else second)] :=
    fun relation => congrArg Value.bool (holds_of_readInt64? readsFirst readsSecond relation)
  refine ⟨?_, relations, ⟨fun all merged => ?_, fun apart relation => ?_⟩, fun merged => ?_⟩
  · have texts := compareTexts_of_readInt64? readsFirst readsSecond
    have integers := compareTexts_of_readInt64? (Text.readInt64?_intText first)
      (Text.readInt64?_intText second)
    exact congrArg orderValue (texts.trans integers.symm)
  · have equal := (relations .eq).symm.trans (all .eq)
    rw [if_pos merged] at equal
    have same : (first == first) = (first == second) := Value.bool.inj equal
    rw [beq_self_eq_true] at same
    exact merged.1 (beq_iff_eq.mp same.symm)
  · rw [relations relation, if_neg apart]
  · obtain ⟨different, nearest⟩ := merged_iff.mp merged
    have differentInts := mt Int64.toInt_inj.mp different
    exact ⟨Decimal.le_natAbs_of_nearestSteps_eq differentInts nearest,
      Decimal.le_natAbs_of_nearestSteps_eq (Ne.symm differentInts) nearest.symm⟩

/-- Texts of two integers of 54 binary digits that have one nearest decimal. -/
theorem Relation.apply_integer_texts_of_54_digits :
    Text.readInt64? "9007199254740993" = some 9007199254740993 ∧
      Text.readInt64? "9007199254740992" = some 9007199254740992 ∧
      Relation.eq.apply [.string "9007199254740993", .string "9007199254740992"] = .bool true ∧
      Relation.eq.apply [.int 9007199254740993, .int 9007199254740992] = .bool false ∧
      Builtin.comparison.apply [.string "9007199254740993", .string "9007199254740992"] =
        Builtin.comparison.apply [.int 9007199254740993, .int 9007199254740992] := by
  have readsFirst : Text.readInt64? "9007199254740993" = some 9007199254740993 := by
    decide +kernel
  have readsSecond : Text.readInt64? "9007199254740992" = some 9007199254740992 := by
    decide +kernel
  have merged : Merged 9007199254740993 9007199254740992 := by decide +kernel
  obtain ⟨generic, relations, -⟩ := Relation.apply_integer_texts readsFirst readsSecond
  rw [if_pos merged] at relations
  exact ⟨readsFirst, readsSecond, relations .eq, by decide, generic⟩

end LiveBinding
