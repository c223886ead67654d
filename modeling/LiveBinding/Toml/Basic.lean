import LiveBinding.Decimal.Basic
import LiveBinding.Fields

/-!
# TOML documents

A document is a table of named items. Its text is a list of statements: an entry gives an item to
a key, a header opens a table, and a row header opens one more row of a list of tables. No item is
given twice, and a table that was written in one way is not added to in another. So a table
remembers how it came into being while the document is put together.
-/

namespace LiveBinding

/-- How a table came into being. -/
inductive Toml.Origin where
  /-- The table is written in braces, so it is complete. -/
  | inline
  /-- The table is opened by its own header. -/
  | header
  /-- The table was named on the way to another one, and its own header may follow. -/
  | implied
  /-- The table was named on the way to the last name of a key. -/
  | dotted
  deriving DecidableEq, Repr

/-- Items of a document. A list of tables that have headers is kept apart from an array, because
rows can be added to it; it has at least one row. -/
inductive Toml where
  | string (text : String)
  | integer (value : Int64)
  | decimal (value : Decimal)
  | bool (value : Bool)
  | moment (text : String)
  | array (items : List Toml)
  | table (origin : Toml.Origin) (fields : List (String × Toml))
  | rows (earlier : List (List (String × Toml))) (last : List (String × Toml))
  deriving Inhabited

namespace Toml

/-- A dotted key: the names on the way and the last name. -/
structure Key where
  path : List String
  name : String
  deriving DecidableEq, Repr

/-- Every name of a key. -/
def Key.names (key : Key) : List String := key.path ++ [key.name]

/-- A statement of a document. -/
inductive Statement where
  | entry (key : Key) (item : Toml)
  | header (key : Key)
  | row (key : Key)

/-- What is done to a table, given how it came into being. -/
abbrev Change : Type := Origin → Fields Toml → Option (Fields Toml)

/-- Change the table that is found under a name; if nothing is found, it is made. Of a list of
tables the last row is changed. A dotted key does not enter a table with a header of its own. -/
def enter? (made : Origin) (change : Change) : Option Toml → Option Toml
  | none => (change made []).map (.table made)
  | some (.table origin fields) =>
    if origin = .inline ∨ (made = .dotted ∧ origin = .header) then none
    else (change origin fields).map (.table origin)
  | some (.rows earlier last) => (change .header last).map (.rows earlier)
  | some _ => none

/-- Change the table that some names lead to. -/
def changeAt? (made : Origin) (change : Change) : List String → Change
  | [] => change
  | name :: path => fun _ fields =>
    (enter? made (changeAt? made change path) (fields.get? name)).map
      fun item => fields.insert name item

/-- Give an item to a name that has none. -/
def place? (name : String) (item : Toml) (fields : Fields Toml) : Option (Fields Toml) :=
  match fields.get? name with
  | none => some (fields.insert name item)
  | some _ => none

/-- Give an item to a key. The names on the way must lead to a table that such keys made. -/
def addField? (key : Key) (item : Toml) : Change :=
  changeAt? .dotted
    (fun origin fields =>
      if origin = .dotted ↔ key.path = [] then none else place? key.name item fields)
    key.path

/-- Open a table. What headers below it have put there stays. -/
def openTable? (name : String) : Change := fun _ fields =>
  match fields.get? name with
  | none => some (fields.insert name (.table .header []))
  | some (.table .implied found) => some (fields.insert name (.table .header found))
  | some _ => none

/-- Open a row of a list of tables. -/
def openRow? (name : String) : Change := fun _ fields =>
  match fields.get? name with
  | none => some (fields.insert name (.rows [] []))
  | some (.rows earlier last) => some (fields.insert name (.rows (earlier ++ [last]) []))
  | some _ => none

/-- A document that is being put together, and the names that lead to the open table. -/
structure Draft where
  root : Fields Toml
  opened : List String

/-- Follow a statement. -/
def Draft.add? (draft : Draft) : Statement → Option Draft
  | .entry key item =>
    (changeAt? .implied (addField? key item) draft.opened .header draft.root).map
      fun root => ⟨root, draft.opened⟩
  | .header key =>
    (changeAt? .implied (openTable? key.name) key.path .header draft.root).map
      fun root => ⟨root, key.names⟩
  | .row key =>
    (changeAt? .implied (openRow? key.name) key.path .header draft.root).map
      fun root => ⟨root, key.names⟩

/-- The document that some statements describe, if they agree with each other. -/
def ofStatements? (statements : List Statement) : Option (Fields Toml) :=
  (statements.foldlM Draft.add? ⟨[], []⟩).map (·.root)

/-- The table that entries in braces describe. -/
def ofEntries? (entries : List (Key × Toml)) : Option Toml :=
  (entries.foldlM (fun fields entry => addField? entry.1 entry.2 .header fields) []).map
    (.table .inline)

end Toml

end LiveBinding
