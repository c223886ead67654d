import LiveBinding.Expr.Basic

/-!
# JSON documents

Documents hold the data that come from outside and go there. A number of a document is an integer
of any size or a finite decimal, so a value and its document differ in two points only: integers
beyond 64 bits become decimals, and decimals that are not finite become null.
-/

namespace LiveBinding

/-- A number of a document. -/
inductive Json.Number where
  | integer (value : Int)
  | decimal (value : Decimal)
  deriving DecidableEq

/-- Documents. The fields of an object are written in the order in which they stand. -/
inductive Json where
  | null
  | bool (value : Bool)
  | number (value : Json.Number)
  | string (text : String)
  | array (items : List Json)
  | object (fields : List (String × Json))
  deriving Inhabited

/-- An integer of a document as a number: a decimal if it takes more than 64 bits. -/
def Json.Number.toNumber : Json.Number → LiveBinding.Number
  | .integer value =>
    if Int64.minValue.toInt ≤ value ∧ value ≤ Int64.maxValue.toInt then
      .int (Int64.ofInt value)
    else .decimal (Decimal.ofInt value)
  | .decimal value => .decimal value

/-- A number in a document, where only finite decimals have a place. -/
def Number.toJson : Number → Json
  | .int value => .number (.integer value.toInt)
  | .decimal value => if value.isFinite then .number (.decimal value) else .null

namespace Value

/-- The value of a document. -/
def ofJson : Json → Value
  | .null => .null
  | .bool value => .bool value
  | .number value => .number value.toNumber
  | .string text => .string text
  | .array items => .array (ofJsonItems items)
  | .object fields => .object (ofJsonFields fields)
where
  ofJsonItems : List Json → List Value
    | [] => []
    | item :: items => ofJson item :: ofJsonItems items
  ofJsonFields : List (String × Json) → List (String × Value)
    | [] => []
    | (name, item) :: fields => (name, ofJson item) :: ofJsonFields fields

/-- The document of a value. -/
def toJson : Value → Json
  | .null => .null
  | .bool value => .bool value
  | .number value => value.toJson
  | .string text => .string text
  | .array items => .array (toJsonItems items)
  | .object fields => .object (toJsonFields fields)
where
  toJsonItems : List Value → List Json
    | [] => []
    | item :: items => item.toJson :: toJsonItems items
  toJsonFields : List (String × Value) → List (String × Json)
    | [] => []
    | (name, item) :: fields => (name, item.toJson) :: toJsonFields fields

theorem ofJsonItems_eq_map (items : List Json) :
    ofJson.ofJsonItems items = items.map ofJson := by
  induction items with
  | nil => rfl
  | cons item items ih => rw [ofJson.ofJsonItems, ih, List.map_cons]

theorem toJsonItems_eq_map (items : List Value) :
    toJson.toJsonItems items = items.map toJson := by
  induction items with
  | nil => rfl
  | cons item items ih => rw [toJson.toJsonItems, ih, List.map_cons]

end Value

/-- A step of a path as a document. -/
def Segment.toJson : Segment → Json
  | .key name => .object [("key", .string name)]
  | .index position => .object [("index", .number (.integer position))]

namespace Expr

/-- A document that names the kind of an expression before its content. -/
def tagged (kind : String) (content : Json) : Json :=
  .object [("kind", .string kind), ("value", content)]

/-- The document of an expression. -/
def toJson : Expr → Json
  | .literal value => tagged "literal" value.toJson
  | .binding path => tagged "binding" (.array (path.map Segment.toJson))
  | .call name arguments =>
    tagged "function" (.object [("name", .string name), ("args", .array (toJsonAll arguments))])
  | .invalid text fault =>
    tagged "invalid" (.object [("text", .string text), ("reason", .string fault.message)])
where
  toJsonAll : List Expr → List Json
    | [] => []
    | argument :: rest => argument.toJson :: toJsonAll rest

end Expr

end LiveBinding
