import LiveBinding.Context.Scope
import LiveBinding.Operation.Registry
import LiveBinding.Template
import LiveBinding.Value.Write

/-!
# Evaluation

An expression has a value in a scope. If one of the contexts that it reads is not seen, the whole
expression is null; a part of a context that is missing is null by itself. Text that could not be
read is its own value.
-/

namespace LiveBinding

/-- The value that a binding reads. -/
def Scope.read? (scope : Scope) : Path → Option Value
  | .key id :: rest => (scope.value? id).bind (Value.lookup? rest)
  | _ => none

namespace Expr

/-- The value of an expression whose contexts are taken as they are. -/
def reduce (registry : Registry) (scope : Scope) : Expr → Value
  | .literal value => value
  | .binding path => (scope.read? path).getD .null
  | .call name arguments => registry.call name (reduceAll registry scope arguments)
  | .invalid text _ => .string text
where
  reduceAll (registry : Registry) (scope : Scope) : List Expr → List Value
    | [] => []
    | argument :: rest => reduce registry scope argument :: reduceAll registry scope rest

/-- The value of an expression: null if it reads a context that is not seen. -/
def evaluate (registry : Registry) (scope : Scope) (expr : Expr) : Value :=
  if expr.contextIds.all fun id => (scope.find? id).isSome then expr.reduce registry scope
  else .null

end Expr

namespace Template

/-- The text of a part. -/
def Piece.render (registry : Registry) (scope : Scope) : Piece → String
  | .text plain => plain
  | .expr found => (found.evaluate registry scope).splicedText

/-- The value of a template: that of its expression if it is nothing else, and otherwise the
texts of its parts together. -/
def evaluate (registry : Registry) (scope : Scope) (template : Template) : Value :=
  match template.single? with
  | some expr => expr.evaluate registry scope
  | none => .string (String.join (template.pieces.map (·.render registry scope)))

end Template

end LiveBinding
