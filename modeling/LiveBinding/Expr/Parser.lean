import LiveBinding.Expr.Lexer
import LiveBinding.Expr.Basic
import LiveBinding.Decimal.Text

/-!
# From tokens to expressions and paths

Recursive descent over the tokens of a text, without their positions:

* an expression is a literal, a call or a binding;
* a call is a word, an opening parenthesis, expressions between commas, and a closing one;
* a binding is a name and a path tail, and a path tail is names behind points and positions in
  brackets;
* a path is empty, a star, or a name or position with a path tail.

A reader answers what it read and the tokens left over. It fails with the number of tokens left
where the problem shows, from which the position in the text follows.
-/

namespace LiveBinding

/-- Calls nested deeper than this are refused. -/
def Expr.maxNesting : Nat := 256

namespace Parser

/-- A cause, and how many tokens are left where it shows. -/
structure Failure where
  remaining : Nat
  cause : ParseError.Cause
  deriving DecidableEq, Repr

/-- A failure at the first of the tokens left over. -/
def failAt {α : Type} (rest : List Token) (cause : ParseError.Cause) : Except Failure α :=
  .error ⟨rest.length, cause⟩

/-- Whether a path goes on with the next token. -/
def continuesPath : List Token → Bool
  | .dot :: _ => true
  | .openBracket :: _ => true
  | _ => false

/-- The value of a reserved word. -/
def keyword? (word : String) : Option Value :=
  if word = "null" then some .null
  else if word = "true" then some (.bool true)
  else if word = "false" then some (.bool false)
  else none

/-- The position that digits without a sign denote, if it is in range. -/
def index? (digits : String) : Option Nat :=
  if Text.isNumeral digits.toList then
    let position := Text.readNat digits.toList
    if position < Segment.indexLimit then some position else none
  else none

/-- The decimal that digits with a point denote. The digits of a token always denote one. -/
def decimalOf (digits : String) : Decimal := (Decimal.ofText? digits).getD default

/-- A name of a field: a word, or digits without a sign. -/
def key? : Token → Option String
  | .word name => some name
  | .integer digits => if digits.toList.head? = some '-' then none else some digits
  | _ => none

/-- The names and positions that continue a path. -/
def pathTail : List Token → Except Failure (Path × List Token)
  | .dot :: token :: rest =>
    match key? token with
    | some name => (pathTail rest).map fun out => (.key name :: out.1, out.2)
    | none => failAt (token :: rest) (.expectedKey (some token))
  | [.dot] => failAt [] (.expectedKey none)
  | .openBracket :: .integer digits :: rest =>
    match index? digits with
    | none => failAt (.integer digits :: rest) (.invalidIndex digits)
    | some position =>
      match rest with
      | .closeBracket :: rest =>
        (pathTail rest).map fun out => (.index position :: out.1, out.2)
      | rest => failAt rest (.expectedCloseBracket rest.head?)
  | .openBracket :: rest => failAt rest (.expectedIndex rest.head?)
  | rest => .ok ([], rest)

theorem pathTail_length {input : List Token} {out : Path × List Token}
    (read : pathTail input = .ok out) : out.2.length ≤ input.length := by
  fun_induction pathTail input generalizing out with
  | case1 token rest name found ih =>
    cases tail : pathTail rest with
    | error failure => simp [tail, Except.map] at read
    | ok inner =>
      simp only [tail, Except.map, Except.ok.injEq] at read
      subst read
      have := ih tail
      simp only [List.length_cons]
      omega
  | case5 digits position found rest ih =>
    cases tail : pathTail rest with
    | error failure => simp [tail, Except.map] at read
    | ok inner =>
      simp only [tail, Except.map, Except.ok.injEq] at read
      subst read
      have := ih tail
      simp only [List.length_cons]
      omega
  | _ => simp_all [failAt]; try (subst read; simp)

/-- What a reader that takes at least one token answers. -/
abbrev Outcome (α : Type) (input : List Token) : Type :=
  Except Failure { out : α × List Token // out.2.length < input.length }

/-- A binding whose first name has been taken. -/
def bindingFrom (name : String) (first : Token) (rest : List Token) :
    Outcome Expr (first :: rest) :=
  match read : pathTail rest with
  | .error failure => .error failure
  | .ok out =>
    .ok ⟨(.binding (.key name :: out.1), out.2),
      Nat.lt_succ_of_le (pathTail_length read)⟩

/-- An expression that is the first token alone. -/
def literalFrom (value : Value) (first : Token) (rest : List Token) :
    Outcome Expr (first :: rest) :=
  .ok ⟨(.literal value, rest), Nat.lt_succ_self _⟩

/-- A number or a binding that starts with digits. -/
def integerFrom (digits : String) (rest : List Token) :
    Outcome Expr (.integer digits :: rest) :=
  if continuesPath rest then
    match key? (.integer digits) with
    | some name => bindingFrom name _ rest
    | none => failAt (.integer digits :: rest) (.expectedKey (some (.integer digits)))
  else
    match Text.readInt64? digits with
    | some value => literalFrom (.int value) _ rest
    | none => failAt (.integer digits :: rest) (.integerOutOfRange digits)

/-- A reserved word that stands alone, or a binding that starts with a word. -/
def wordFrom (word : String) (rest : List Token) : Outcome Expr (.word word :: rest) :=
  if continuesPath rest then bindingFrom word _ rest
  else
    match keyword? word with
    | some value => literalFrom value _ rest
    | none => bindingFrom word _ rest

mutual

/-- The expression that starts with the first token, inside `depth` calls. -/
def exprFrom (depth : Nat) : (input : List Token) → Outcome Expr input
  | [] => failAt [] .unexpectedEnd
  | .string text :: rest => literalFrom (.string text) _ rest
  | .decimal digits :: rest =>
    literalFrom (.decimal (decimalOf digits)) _ rest
  | .integer digits :: rest => integerFrom digits rest
  | .word name :: .openParen :: .closeParen :: rest =>
    if Expr.maxNesting ≤ depth then failAt (.openParen :: .closeParen :: rest) .nestedTooDeeply
    else .ok ⟨(.call name [], rest), by simp only [List.length_cons]; omega⟩
  | .word name :: .openParen :: rest =>
    if Expr.maxNesting ≤ depth then failAt (.openParen :: rest) .nestedTooDeeply
    else
      match argumentsFrom (depth + 1) name rest with
      | .error failure => .error failure
      | .ok ⟨(arguments, left), shorter⟩ =>
        .ok ⟨(.call name arguments, left), by simp only [List.length_cons] at *; omega⟩
  | .word word :: rest => wordFrom word rest
  | token :: rest => failAt (token :: rest) (.expectedExpression token)
termination_by input => 2 * input.length

/-- The arguments of a call from the next one on, at least one, with the closing parenthesis. -/
def argumentsFrom (depth : Nat) (name : String) (input : List Token) :
    Outcome (List Expr) input :=
  if input.head? = some .comma ∨ input.head? = some .closeParen then
    failAt input (.emptyArgument name)
  else
    match exprFrom depth input with
    | .error failure => .error failure
    | .ok ⟨(argument, left), shorter⟩ =>
      match left, shorter with
      | .comma :: rest, shorter =>
        match argumentsFrom depth name rest with
        | .error failure => .error failure
        | .ok ⟨(arguments, left), shorter'⟩ =>
          .ok ⟨(argument :: arguments, left), by simp only [List.length_cons] at *; omega⟩
      | .closeParen :: rest, shorter =>
        .ok ⟨([argument], rest), by simp only [List.length_cons] at *; omega⟩
      | [], _ => failAt [] (.unbalancedCall name)
      | token :: rest, _ => failAt (token :: rest) (.expectedSeparator name token)
termination_by 2 * input.length + 1
decreasing_by
  · omega
  · simp only [List.length_cons] at shorter; omega

end

/-- What was read, if nothing is left over. -/
def complete {α : Type} : Except Failure (α × List Token) → Except Failure α
  | .error failure => .error failure
  | .ok (found, []) => .ok found
  | .ok (_, token :: rest) => failAt (token :: rest) (.trailingContent token)

/-- The expression that some tokens spell. -/
def expr (tokens : List Token) : Except Failure Expr :=
  if tokens = [] then failAt [] .emptyExpression
  else complete ((exprFrom 0 tokens).map (·.val))

/-- The path that some tokens spell. -/
def path : List Token → Except Failure Path
  | [] => .ok []
  | .star :: rest => complete (.ok ([], rest))
  | .openBracket :: rest => complete (pathTail (.openBracket :: rest))
  | token :: rest =>
    match key? token with
    | some name => complete ((pathTail rest).map fun out => (.key name :: out.1, out.2))
    | none => failAt (token :: rest) (.expectedKey (some token))

/-- Read the tokens of a text; a failure is placed where its tokens stand. -/
def readText {α : Type} (reader : List Token → Except Failure α) (text : String) :
    Except ParseError α :=
  match Token.lex text with
  | .error error => .error error
  | .ok stream =>
    match reader stream.tokens with
    | .error failure => .error ⟨stream.offsetAt failure.remaining, failure.cause⟩
    | .ok found => .ok found

end Parser

/-- Read an expression. -/
def Expr.read (text : String) : Except ParseError Expr := Parser.readText Parser.expr text

/-- The expression that a text is. Text that cannot be read stands for itself. -/
def Expr.ofText (text : String) : Expr :=
  match Expr.read text with
  | .ok expr => expr
  | .error error => .invalid text (.malformed error)

/-- Read a path. The empty text and a star lead to the whole value. -/
def Path.read (text : String) : Except ParseError Path := Parser.readText Parser.path text

end LiveBinding
