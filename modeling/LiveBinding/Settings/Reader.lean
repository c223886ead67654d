import LiveBinding.Settings
import LiveBinding.Toml.Reader

/-!
# Reading settings

Settings stand in the table `engine` of a document, where each may be left out. Names that mean
nothing here are passed over. Instead of a table there may be a list of the settings in order.
-/

namespace LiveBinding.Settings

/-- The policy with a name. -/
def policyNamed? (name : String) : Option WritePolicy :=
  if name = "create" then some .create
  else if name = "existing" then some .existing
  else none

/-- Whether an item has room for content and holds none. -/
def isVoid : Toml → Bool
  | .array [] => true
  | .table _ [] => true
  | _ => false

/-- A policy is named by a text, or by the only name in a table, which then holds nothing. -/
def policy? : Toml → Option WritePolicy
  | .string text => policyNamed? text
  | .table _ [(name, content)] => if isVoid content then policyNamed? name else none
  | _ => none

/-- A number of writes. -/
def count? : Toml → Option Nat
  | .integer value => if 0 ≤ value.toInt then some value.toInt.toNat else none
  | _ => none

/-- A choice between yes and no. -/
def flag? : Toml → Option Bool
  | .bool value => some value
  | _ => none

/-- What an item says, or the usual choice if it is left out. -/
def orUsual? {α : Type} (read : Toml → Option α) (usual : α) : Option Toml → Option α
  | none => some usual
  | some item => read item

/-- Settings from the items that stand for them. -/
def ofItems? (policy writes failures : Option Toml) : Option Settings := do
  let usual : Settings := {}
  some {
    defaultPolicy := ← orUsual? policy? usual.defaultPolicy policy
    maxSettleWrites := ← orUsual? count? usual.maxSettleWrites writes
    logParseFailures := ← orUsual? flag? usual.logParseFailures failures }

/-- Settings from a list of items in order. -/
def ofList? (items : List Toml) : Option Settings := ofItems? items[0]? items[1]? items[2]?

/-- Settings from one item. A moment counts as a table of names that mean nothing here. -/
def ofItem? : Toml → Option Settings
  | .table _ fields =>
    ofItems? (Fields.get? "default_policy" fields) (Fields.get? "max_settle_writes" fields)
      (Fields.get? "log_parse_failures" fields)
  | .array items => ofList? items
  | .rows earlier last => ofList? ((earlier ++ [last]).map (.table .header))
  | .moment _ => some {}
  | _ => none

/-- Settings from a document. -/
def ofDocument? (document : Fields Toml) : Option Settings :=
  orUsual? ofItem? {} (document.get? "engine")

/-- Read settings. -/
def read? (text : String) : Option Settings := (Toml.read? text).bind ofDocument?

end LiveBinding.Settings
