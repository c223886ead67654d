import LiveBinding.Operation.Builtin
import LiveBinding.Text.CharClass

/-!
# The registry of operations

A registry adds operations of its own to the built-in ones. Their names are words, so that an
expression can call them, and never those of built-in operations. A name that nobody registered
calls the operation that is always null.
-/

namespace LiveBinding

/-- A function from parameters to a result. -/
abbrev Operation := List Value → Value

/-- The operations that were added, by name. -/
structure Registry where
  custom : Fields Operation

/-- Why an operation cannot be registered under a name. -/
inductive Registry.Error where
  | reservedName (name : String)
  | invalidName (name : String)
  deriving DecidableEq, Repr

/-- The wording of an error. -/
def Registry.Error.message : Registry.Error → String
  | .reservedName name => "'" ++ name ++ "' is a built-in operation and cannot be replaced"
  | .invalidName name => "invalid operation name '" ++ name ++ "'"

namespace Registry

/-- The registry of the built-in operations alone. -/
def empty : Registry := ⟨[]⟩

instance : Inhabited Registry := ⟨empty⟩

/-- Register an operation, in place of one of that name. -/
def register (registry : Registry) (name : String) (operation : Operation) :
    Except Error Registry :=
  if (Builtin.ofName? name).isSome then .error (.reservedName name)
  else if Text.isName name then .ok ⟨registry.custom.insert name operation⟩
  else .error (.invalidName name)

/-- Drop a registered operation. -/
def unregister (registry : Registry) (name : String) : Registry :=
  ⟨registry.custom.erase name⟩

/-- Whether an operation was registered under a name. -/
def isCustom (registry : Registry) (name : String) : Bool := (registry.custom.get? name).isSome

/-- Whether a name calls an operation. -/
def contains (registry : Registry) (name : String) : Bool :=
  (Builtin.ofName? name).isSome || registry.isCustom name

/-- The names that were registered, in ascending order. -/
def customNames (registry : Registry) : List String := registry.custom.names

/-- How a registry is shown in a listing: the names that were registered. -/
def toText (registry : Registry) : String :=
  "OperationRegistry \x7b custom: [" ++
    Text.join ", " (registry.customNames.map Text.listed) ++ "] \x7d"

/-- Call an operation by name. -/
def call (registry : Registry) (name : String) (parameters : List Value) : Value :=
  match Builtin.ofName? name with
  | some builtin => builtin.apply parameters
  | none =>
    match registry.custom.get? name with
    | some operation => operation parameters
    | none => .null

end Registry

end LiveBinding
