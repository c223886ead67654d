import LiveBinding.Json.Basic
import LiveBinding.Decimal.Text
import LiveBinding.Text.Quote

/-!
# The text of a document

A document is written without any blanks, or with one item on a line and two blanks for each
level. Empty lists and objects stay on their line.
-/

namespace LiveBinding.Json

/-- The text of a number. Decimals that are not finite have none and are written as null. -/
def Number.toText : Number → String
  | .integer value => Text.intText value
  | .decimal value => value.toInterchange?.getD "null"

/-- The text of a truth value. -/
def boolText (value : Bool) : String := if value then "true" else "false"

/-- The text of a document without blanks. -/
def toText : Json → String
  | .null => "null"
  | .bool value => boolText value
  | .number value => value.toText
  | .string text => Text.quote text
  | .array items => "[" ++ Text.join "," (itemTexts items) ++ "]"
  | .object fields => "\x7b" ++ Text.join "," (fieldTexts fields) ++ "\x7d"
where
  itemTexts : List Json → List String
    | [] => []
    | item :: items => item.toText :: itemTexts items
  fieldTexts : List (String × Json) → List String
    | [] => []
    | (name, item) :: fields => (Text.quote name ++ ":" ++ item.toText) :: fieldTexts fields

/-- A new line, indented for a level. -/
def newline (level : Nat) : String :=
  String.ofList ('\n' :: List.replicate (2 * level) ' ')

/-- Lines between an opening and a closing bracket, if there are any. -/
def bracketed (level : Nat) (opening closing : String) (lines : List String) : String :=
  if lines.isEmpty then opening ++ closing
  else
    opening ++ newline (level + 1) ++ Text.join ("," ++ newline (level + 1)) lines ++
      newline level ++ closing

/-- The text of a document on many lines, the first of them at a level. -/
def prettyAt (level : Nat) : Json → String
  | .null => "null"
  | .bool value => boolText value
  | .number value => value.toText
  | .string text => Text.quote text
  | .array items => bracketed level "[" "]" (itemLines (level + 1) items)
  | .object fields => bracketed level "\x7b" "\x7d" (fieldLines (level + 1) fields)
where
  itemLines (level : Nat) : List Json → List String
    | [] => []
    | item :: items => prettyAt level item :: itemLines level items
  fieldLines (level : Nat) : List (String × Json) → List String
    | [] => []
    | (name, item) :: fields =>
      (Text.quote name ++ ": " ++ prettyAt level item) :: fieldLines level fields

/-- The text of a document on many lines. -/
def pretty (json : Json) : String := prettyAt 0 json

end LiveBinding.Json
