import LiveBinding.Expr.Parser

/-!
# Templates

A template is text with expressions in it, each between `@{` and `}`. A backslash before `@{`
makes it plain text. The closing brace is found by skipping quoted strings, so a brace inside a
string does not close. What cannot be read stays in the template as the text that it was.
-/

namespace LiveBinding

/-- A part of a template. -/
inductive Template.Piece where
  | text (text : String)
  | expr (expr : Expr)
  deriving DecidableEq

/-- The source of a template and its parts in order. -/
structure Template where
  source : String
  pieces : List Template.Piece
  deriving DecidableEq

namespace Template

/-- The characters up to the brace that closes an interpolation, and those behind it. Inside
quotes a backslash hides the character behind it. -/
def takeBody (quoted : Bool) : List Char → Option (List Char × List Char)
  | [] => none
  | '}' :: rest =>
    if quoted then (takeBody quoted rest).map fun out => ('}' :: out.1, out.2)
    else some ([], rest)
  | '\'' :: rest => (takeBody (!quoted) rest).map fun out => ('\'' :: out.1, out.2)
  | '\\' :: char :: rest =>
    if quoted then (takeBody quoted rest).map fun out => ('\\' :: char :: out.1, out.2)
    else (takeBody quoted (char :: rest)).map fun out => ('\\' :: out.1, out.2)
  | char :: rest => (takeBody quoted rest).map fun out => (char :: out.1, out.2)

/-- An interpolation is made of its body, the closing brace and what follows. -/
theorem takeBody_eq {quoted : Bool} {chars : List Char} {out : List Char × List Char}
    (taken : takeBody quoted chars = some out) : chars = out.1 ++ '}' :: out.2 := by
  fun_induction takeBody quoted chars generalizing out with
  | case1 => simp at taken
  | case3 => cases taken; simp
  | _ =>
    rename_i ih
    obtain ⟨inner, found, rfl⟩ := Option.map_eq_some_iff.mp taken
    simp [ih found]

/-- The characters that open an interpolation. -/
def opening : List Char := ['@', '{']

/-- The expression in an interpolation. An invalid one keeps the braces in its text. -/
def interpolation (body : List Char) : Expr :=
  match Expr.ofText (String.ofList body) with
  | .invalid _ fault => .invalid (String.ofList (opening ++ body ++ ['}'])) fault
  | expr => expr

/-- Put plain text in front, as one part with plain text that already stands there. -/
def addText (chars : List Char) : List Piece → List Piece
  | .text text :: rest => .text (String.ofList (chars ++ text.toList)) :: rest
  | pieces => .text (String.ofList chars) :: pieces

/-- What follows an interpolation is shorter than what follows its opening. -/
theorem length_of_takeBody {quoted : Bool} {chars : List Char} {out : List Char × List Char}
    (taken : takeBody quoted chars = some out) : out.2.length < chars.length := by
  rw [takeBody_eq taken, List.length_append, List.length_cons]
  omega

/-- The parts of a template. An interpolation that is never closed takes the rest of the text. -/
def piecesOf : List Char → List Piece
  | [] => []
  | '\\' :: '@' :: '{' :: rest => addText opening (piecesOf rest)
  | '@' :: '{' :: rest =>
    match taken : takeBody false rest with
    | some (body, after) =>
      have := length_of_takeBody taken
      .expr (interpolation body) :: piecesOf after
    | none => [.expr (.invalid (String.ofList (opening ++ rest)) .unterminatedInterpolation)]
  | char :: rest => addText [char] (piecesOf rest)
termination_by chars => chars.length
decreasing_by all_goals simp only [List.length_cons] at *; omega

/-- Read a template. Every text is one. -/
def ofText (text : String) : Template := ⟨text, piecesOf text.toList⟩

/-- The expression of a part. -/
def Piece.expr? : Piece → Option Expr
  | .text _ => none
  | .expr found => some found

/-- The expressions of a template in order. -/
def expressions (template : Template) : List Expr := template.pieces.filterMap Piece.expr?

/-- The expression that is the whole template, if it is valid. Such a template denotes the value
of the expression and not a text. -/
def single? (template : Template) : Option Expr :=
  match template.pieces with
  | [.expr expr] => if expr.isInvalid then none else some expr
  | _ => none

/-- The text and the fault of an expression that could not be read. -/
def failure? : Expr → Option (String × Expr.Fault)
  | .invalid text fault => some (text, fault)
  | _ => none

/-- What could not be read, in order. -/
def failures (template : Template) : List (String × Expr.Fault) :=
  template.expressions.filterMap failure?

/-- Whether there is something to evaluate. -/
def hasValid (template : Template) : Bool := template.expressions.any (!·.isInvalid)

/-- The contexts that a template reads, in ascending order. -/
def contextIds (template : Template) : List String :=
  Expr.distinct (template.expressions.flatMap Expr.reads)

end Template

end LiveBinding
