import LiveBinding.Expr.ParseError
import LiveBinding.Path
import LiveBinding.Value.Basic

/-!
# Expressions

An expression is a literal value, a binding that reads a part of a named context, or a call of an
operation. Text that cannot be read is an expression too: it stands for itself and keeps the
reason.
-/

namespace LiveBinding

/-- Why a text is not a valid expression. Only a template can leave an interpolation open. -/
inductive Expr.Fault where
  | malformed (error : ParseError)
  | unterminatedInterpolation
  deriving DecidableEq, Repr

/-- The wording of a fault. -/
def Expr.Fault.message : Expr.Fault → String
  | .malformed error => error.message
  | .unterminatedInterpolation => "unterminated interpolation"

/-- Expressions. The first step of a binding names the context it reads. -/
inductive Expr where
  | literal (value : Value)
  | binding (path : Path)
  | call (name : String) (arguments : List Expr)
  | invalid (text : String) (fault : Expr.Fault)
  deriving Inhabited

namespace Expr

/-- Whether the expression is text that could not be read. -/
def isInvalid : Expr → Bool
  | .invalid .. => true
  | _ => false

/-- The context that a path reads, if its first step is a name. -/
def rootOfPath : Path → Option String
  | .key name :: _ => some name
  | _ => none

/-- The context that a binding reads. -/
def root? : Expr → Option String
  | .binding path => rootOfPath path
  | _ => none

/-- The contexts that an expression reads, in order of occurrence. -/
def reads : Expr → List String
  | .literal _ => []
  | .binding path => (rootOfPath path).toList
  | .call _ arguments => readsAll arguments
  | .invalid .. => []
where
  readsAll : List Expr → List String
    | [] => []
    | argument :: rest => argument.reads ++ readsAll rest

/-- The names in a list, in ascending order and each once. -/
def distinct (names : List String) : List String :=
  (Fields.ofList (names.map (·, ()))).names

/-- The contexts that an expression reads, in ascending order. -/
def contextIds (expr : Expr) : List String := distinct expr.reads

/-! ### Identity -/

/-- Identity as a test. -/
def identical : Expr → Expr → Bool
  | .literal left, .literal right => left == right
  | .binding left, .binding right => left == right
  | .call leftName left, .call rightName right => leftName == rightName && identicalAll left right
  | .invalid leftText leftFault, .invalid rightText rightFault =>
    leftText == rightText && leftFault == rightFault
  | _, _ => false
where
  identicalAll : List Expr → List Expr → Bool
    | [], [] => true
    | left :: lefts, right :: rights => left.identical right && identicalAll lefts rights
    | _, _ => false

mutual

theorem eq_of_identical : (left right : Expr) → identical left right = true → left = right
  | .literal _, right, same => by cases right <;> simp_all [identical]
  | .binding _, right, same => by cases right <;> simp_all [identical]
  | .invalid .., right, same => by cases right <;> simp_all [identical]
  | .call name arguments, right, same => by
    cases right with
    | call otherName others =>
      rw [identical, Bool.and_eq_true, beq_iff_eq] at same
      rw [same.1, eq_of_identicalAll arguments others same.2]
    | _ => simp [identical] at same

theorem eq_of_identicalAll : (left right : List Expr) →
    identical.identicalAll left right = true → left = right
  | [], right, same => by cases right <;> simp_all [identical.identicalAll]
  | expr :: exprs, right, same => by
    cases right with
    | nil => simp [identical.identicalAll] at same
    | cons other others =>
      rw [identical.identicalAll, Bool.and_eq_true] at same
      rw [eq_of_identical expr other same.1, eq_of_identicalAll exprs others same.2]

end

mutual

theorem identical_self : (expr : Expr) → identical expr expr = true
  | .literal _ => by simp [identical]
  | .binding _ => by simp [identical]
  | .invalid .. => by simp [identical]
  | .call name arguments => by
    rw [identical, Bool.and_eq_true]
    exact ⟨beq_self_eq_true name, identicalAll_self arguments⟩

theorem identicalAll_self : (exprs : List Expr) → identical.identicalAll exprs exprs = true
  | [] => rfl
  | expr :: exprs => by
    rw [identical.identicalAll, Bool.and_eq_true]
    exact ⟨identical_self expr, identicalAll_self exprs⟩

end

@[simp] theorem identical_eq_true {left right : Expr} :
    identical left right = true ↔ left = right :=
  ⟨eq_of_identical left right, fun same => same ▸ identical_self left⟩

instance : DecidableEq Expr := fun _ _ => decidable_of_iff _ identical_eq_true

end Expr

end LiveBinding
