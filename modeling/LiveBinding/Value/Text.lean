import LiveBinding.Value.Basic
import LiveBinding.Decimal.Text
import LiveBinding.Text.Quote

/-!
# The text of a value

The text of a value is compact interchange text in which a decimal keeps its point. Spliced into
other text, a string stands without quotes and nothing stands for itself.
-/

namespace LiveBinding

/-- The text of a number. -/
def Number.toText : Number → String
  | .int value => Text.intText value.toInt
  | .decimal value => value.toText

namespace Value

/-- The text of a value. -/
def toText : Value → String
  | .null => "null"
  | .bool value => if value then "true" else "false"
  | .number value => value.toText
  | .string text => Text.quote text
  | .array items => "[" ++ Text.join "," (itemTexts items) ++ "]"
  | .object fields => "\x7b" ++ Text.join "," (fieldTexts fields) ++ "\x7d"
where
  itemTexts : List Value → List String
    | [] => []
    | item :: items => item.toText :: itemTexts items
  fieldTexts : List (String × Value) → List String
    | [] => []
    | (name, item) :: fields => (Text.quote name ++ ":" ++ item.toText) :: fieldTexts fields

/-- The text of a value inside other text. -/
def splicedText : Value → String
  | .null => ""
  | .string text => text
  | value => value.toText

theorem itemTexts_eq_map (items : List Value) : toText.itemTexts items = items.map toText := by
  induction items with
  | nil => rfl
  | cons item items ih => rw [toText.itemTexts, ih, List.map_cons]

end Value

end LiveBinding
