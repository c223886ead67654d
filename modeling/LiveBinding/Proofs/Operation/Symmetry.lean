import LiveBinding.Operation.Builtin
import LiveBinding.Proofs.Operation.MixedComparison
import LiveBinding.Proofs.Value.Agreement

/-!
# Comparison from both sides

Two values are compared in ways that depend on their kinds, but in each way the two sides may be
exchanged: equality stays, and an order is turned round.  So each relation is the converse one with
its sides exchanged, and the answers to the relations of order are those of a single order, or of
none.
-/

namespace LiveBinding

namespace Number

theorem equal_comm (left right : Number) : left.equal right = right.equal left := by
  cases left with
  | int =>
      cases right with
      | int => exact Bool.beq_comm
      | decimal => rfl
  | decimal =>
      cases right with
      | int => rfl
      | decimal => exact Decimal.denotesSame_comm _ _

theorem order?_swap (left right : Number) :
    right.order? left = (left.order? right).map Ordering.swap := by
  cases left with
  | int =>
      cases right with
      | int => exact congrArg some Std.OrientedOrd.eq_swap
      | decimal => exact congrArg some Std.OrientedOrd.eq_swap
  | decimal =>
      cases right with
      | int => exact congrArg some Std.OrientedOrd.eq_swap
      | decimal => exact Decimal.compare?_swap _ _

end Number

namespace Value

/-! ### The generic order -/

theorem compareTexts_swap (left right : String) :
    compareTexts right left = (compareTexts left right).map Ordering.swap := by
  have plain : some (compare right left) = (some (compare left right)).map Ordering.swap :=
    congrArg some Std.OrientedOrd.eq_swap
  rw [compareTexts, compareTexts]
  cases Decimal.finiteOfText? left with
  | none => cases Decimal.finiteOfText? right <;> exact plain
  | some leftDecimal =>
      cases Decimal.finiteOfText? right with
      | none => exact plain
      | some rightDecimal => exact Decimal.compare?_swap leftDecimal rightDecimal

theorem genericOrder?_swap (left right : Value) :
    right.genericOrder? left = (left.genericOrder? right).map Ordering.swap := by
  cases left with
  | null | object => cases right <;> rfl
  | bool | number | string =>
      cases right with
      | bool | number | string => exact compareTexts_swap _ _
      | null | array | object => rfl
  | array =>
      cases right with
      | array => exact congrArg some Std.OrientedOrd.eq_swap
      | _ => rfl

theorem compareTexts_self (text : String) : compareTexts text text = some .eq := by
  rw [compareTexts]
  cases denoted : Decimal.finiteOfText? text with
  | none => exact congrArg some Std.ReflCmp.compare_self
  | some decimal =>
      obtain ⟨-, finite⟩ := Option.filter_eq_some_iff.mp denoted
      refine Decimal.compare?_self ?_
      rintro rfl
      contradiction

/-! ### Equality and order -/

/-- A way to compare with the sides exchanged. -/
def Pairing.swap : Pairing → Pairing
  | .numeric left right => .numeric right left
  | .generic => .generic
  | .other => .other

theorem pairing_swap (left right : Value) : pairing right left = (pairing left right).swap := by
  cases left <;> cases right <;> rfl

theorem order?_swap (left right : Value) :
    right.order? left = (left.order? right).map Ordering.swap := by
  simp only [order?, pairing_swap left right]
  cases pairing left right with
  | numeric first second =>
      cases first with
      | none => cases second <;> rfl
      | some leftNumber =>
          cases second with
          | none => rfl
          | some rightNumber => exact Number.order?_swap leftNumber rightNumber
  | generic => exact genericOrder?_swap left right
  | other => rfl

theorem equal_comm (left right : Value) : left.equal right = right.equal left := by
  simp only [equal, pairing_swap left right]
  cases pairing left right with
  | numeric first second =>
      cases first with
      | none => cases second <;> rfl
      | some leftNumber =>
          cases second with
          | none => rfl
          | some rightNumber => exact Number.equal_comm leftNumber rightNumber
  | generic =>
      simp only [Pairing.swap]
      rw [genericOrder?_swap left right, map_swap_beq_eq]
  | other =>
      cases left with
      | null | number | string | array => cases right <;> rfl
      | bool =>
          cases right with
          | bool => exact Bool.beq_comm
          | _ => rfl
      | object =>
          cases right with
          | object => exact agrees_comm _ _
          | _ => rfl

/-- A value equals itself if every decimal in it is a number. -/
theorem equal_self {value : Value} (areNumbers : value.CarriesOnly (· ≠ .nan)) :
    value.equal value = true := by
  cases value with
  | null => rfl
  | bool value => exact beq_self_eq_true value
  | number value =>
      cases value with
      | int value => exact beq_self_eq_true value
      | decimal value =>
          have isNumber := (carriesOnly_decimal value).mp areNumbers
          exact beq_iff_eq.mpr (Decimal.compare?_self isNumber)
  | string text => exact beq_iff_eq.mpr (compareTexts_self text)
  | array items => exact beq_iff_eq.mpr (congrArg some Std.ReflCmp.compare_self)
  | object fields => exact agrees_self areNumbers

end Value

/-! ### The operations -/

namespace Relation

theorem holds_converse (relation : Relation) (left right : Value) :
    relation.converse.holds right left = relation.holds left right := by
  have turned := Value.order?_swap left right
  cases relation with
  | eq => exact Value.equal_comm right left
  | _ =>
      simp only [converse, holds, turned]
      obtain _ | _ | _ | _ := left.order? right <;> rfl

theorem apply_of_not_null (relation : Relation) {left right : Value} (someLeft : left ≠ .null)
    (someRight : right ≠ .null) :
    relation.apply [left, right] = .bool (relation.holds left right) := by
  cases left with
  | null => contradiction
  | _ =>
      cases right with
      | null => contradiction
      | _ => rfl

/-- What greater, greater or equal, less, and less or equal answer, in this order. -/
def orderAnswers (left right : Value) : List Value :=
  [gt, gte, lt, lte].map (·.apply [left, right])

/-- Answers that fit together: nothing holds, or just one of being greater, being less, and being
both greater or equal and less or equal. -/
def consistentAnswers : List (List Value) :=
  [[.bool false, .bool false, .bool false, .bool false],
    [.bool true, .bool true, .bool false, .bool false],
    [.bool false, .bool false, .bool true, .bool true],
    [.bool false, .bool true, .bool false, .bool true]]

theorem orderAnswers_mem {left right : Value} (someLeft : left ≠ .null)
    (someRight : right ≠ .null) : orderAnswers left right ∈ consistentAnswers := by
  simp only [orderAnswers, List.map_cons, List.map_nil, apply_of_not_null _ someLeft someRight,
    holds]
  obtain _ | _ | _ | _ := left.order? right <;> decide

/-- Each relation of two values is the converse relation of these values exchanged, and the generic
order changes its sign, or is null from both sides.  Of values that are not null the relations of
order hold as if there were one order of them, or none, and such a value equals itself unless there
is something in it that is not a number. -/
theorem apply_eq_converse_apply (left right : Value) :
    (∀ relation : Relation,
      relation.apply [left, right] = relation.converse.apply [right, left]) ∧
      (Builtin.comparison.apply [left, right] = .null ∧
          Builtin.comparison.apply [right, left] = .null ∨
        ∃ sign : Int64, (sign = -1 ∨ sign = 0 ∨ sign = 1) ∧
          Builtin.comparison.apply [left, right] = .int sign ∧
          Builtin.comparison.apply [right, left] = .int (-sign)) ∧
      (left ≠ .null → right ≠ .null → orderAnswers left right ∈ consistentAnswers) ∧
      (left ≠ .null → left.CarriesOnly (· ≠ .nan) →
        Relation.eq.apply [left, left] = .bool true) := by
  refine ⟨fun relation => ?_, ?_, orderAnswers_mem, fun someLeft areNumbers => ?_⟩
  · simp only [apply, holds_converse, Bool.or_comm left.isNull]
  · have turned := Value.genericOrder?_swap left right
    simp only [Builtin.apply, turned]
    obtain _ | _ | _ | _ := left.genericOrder? right
    · exact .inl ⟨rfl, rfl⟩
    · exact .inr ⟨-1, .inl rfl, rfl, rfl⟩
    · exact .inr ⟨0, .inr (.inl rfl), rfl, rfl⟩
    · exact .inr ⟨1, .inr (.inr rfl), rfl, rfl⟩
  · rw [apply_of_not_null _ someLeft someLeft]
    exact congrArg Value.bool (Value.equal_self areNumbers)

/-- A text of a decimal and an integer, and an object with an infinite decimal in a list. -/
theorem apply_eq_converse_apply_of_text :
    let text : Value := .string "1.5e0"
    let nested : Value := .object [("a", .array [.decimal (.infinite true), .string "NaN"])]
    text ≠ .null ∧ Value.int 1 ≠ .null ∧
      orderAnswers text (.int 1) ∈ consistentAnswers ∧
      Relation.lte.apply [.int 1, text] = .bool true ∧
      nested ≠ .null ∧ nested.CarriesOnly (· ≠ .nan) ∧
      Relation.eq.apply [nested, nested] = .bool true := by
  intro text nested
  have someText : text ≠ .null := nofun
  have someInteger : Value.int 1 ≠ .null := nofun
  have someNested : nested ≠ .null := nofun
  have areNumbers : nested.CarriesOnly (· ≠ .nan) := by simp [nested]
  obtain ⟨mirrored, -, orders, -⟩ := apply_eq_converse_apply text (.int 1)
  have greaterOrEqual : Relation.gte.apply [text, .int 1] = .bool true := by decide +kernel
  obtain ⟨-, -, -, self⟩ := apply_eq_converse_apply nested nested
  exact ⟨someText, someInteger, orders someText someInteger,
    (mirrored .gte).symm.trans greaterOrEqual, someNested, areNumbers, self someNested areNumbers⟩

end Relation

end LiveBinding
