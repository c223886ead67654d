import LiveBinding.Json.Reader
import LiveBinding.Text.Cut

/-!
# Assignments

An assignment tells to write a value at a path of a context: `id:path=value`. The value is a JSON
document or else the text as it stands.
-/

namespace LiveBinding

/-- A write that is asked for by a text. -/
structure Assignment where
  contextId : String
  path : String
  value : Value
  deriving DecidableEq

namespace Assignment

/-- Why a text is no assignment. -/
inductive Fault where
  | noContext
  | noValue
  | emptyContext
  deriving DecidableEq, Repr

/-- The wording of a fault. -/
def Fault.message (text : String) (fault : Fault) : String :=
  let reason :=
    match fault with
    | .noContext => "expected id:path=value"
    | .noValue => "missing '='"
    | .emptyContext => "empty context id"
  "invalid --set '" ++ text ++ "': " ++ reason

/-- The value of a document, or else the text. -/
def valueOf (text : String) : Value :=
  match Json.read? text with
  | some document => .ofJson document
  | none => .string text

/-- Read an assignment. The first colon ends the name of the context and the first equals sign
behind it ends the path. -/
def read (text : String) : Except Fault Assignment :=
  match Text.cut? ':' text with
  | none => .error .noContext
  | some (contextId, rest) =>
    match Text.cut? '=' rest with
    | none => .error .noValue
    | some (path, written) =>
      if contextId = "" then .error .emptyContext
      else .ok ⟨contextId, path, valueOf written⟩

/-- How notices name an assignment. -/
def label (assignment : Assignment) : String := assignment.contextId ++ ":" ++ assignment.path

end Assignment

end LiveBinding
