import LiveBinding.Decimal.Digits
import LiveBinding.Expr.Basic
import LiveBinding.Proofs.Text

/-!
# The grammar of expressions

A phrase is a derivation of an expression: it says which rule of the grammar each part of a text
is made by.  It yields the tokens that spell it and the expression that it denotes.  The grammar
does not mention how phrases are found: it has reserved words, numbers and a limit of its own, and
that the reader has the same ones is proved where phrases are read.
-/

namespace LiveBinding

/-- A step of a path as it is spelled: a name behind a point, or digits between brackets. -/
inductive PathStep where
  | key (name : String)
  | index (digits : String)

namespace PathStep

/-- The tokens of a step. -/
def tokens : PathStep → List Token
  | .key name => [.dot, .word name]
  | .index digits => [.openBracket, .integer digits, .closeBracket]

/-- The step that is spelled. -/
def segment : PathStep → Segment
  | .key name => .key name
  | .index digits => .index (Text.readNat digits.toList)

/-- A position has no sign and is in range. -/
def IsValid : PathStep → Prop
  | .key _ => True
  | .index digits =>
    Text.isNumeral digits.toList = true ∧ Text.readNat digits.toList < Segment.indexLimit

instance : (step : PathStep) → Decidable step.IsValid
  | .key _ => inferInstanceAs (Decidable True)
  | .index _ => inferInstanceAs (Decidable (_ ∧ _))

end PathStep

/-- What a path of several steps begins with. -/
inductive PathRoot where
  | word (name : String)
  | number (digits : String)

namespace PathRoot

/-- The token of a root. -/
def token : PathRoot → Token
  | .word name => .word name
  | .number digits => .integer digits

/-- The name that a root is, in letters or in digits. -/
def name : PathRoot → String
  | .word name => name
  | .number digits => digits

/-- Digits in front of a path have no sign. -/
def IsValid : PathRoot → Prop
  | .word _ => True
  | .number digits => Text.isNumeral digits.toList = true

instance : (root : PathRoot) → Decidable root.IsValid
  | .word _ => inferInstanceAs (Decidable True)
  | .number _ => inferInstanceAs (Decidable (_ = true))

end PathRoot

/-- The rules of the grammar. -/
inductive Phrase where
  | string (text : String)
  | decimal (digits : String)
  | integer (digits : String)
  /-- A word that stands alone. -/
  | word (name : String)
  /-- A path of at least two steps. -/
  | path (root : PathRoot) (first : PathStep) (rest : List PathStep)
  | call (name : String) (arguments : List Phrase)

namespace Phrase

/-- The tokens of a phrase. -/
def tokens : Phrase → List Token
  | .string text => [.string text]
  | .decimal digits => [.decimal digits]
  | .integer digits => [.integer digits]
  | .word name => [.word name]
  | .path root first rest => root.token :: (first :: rest).flatMap PathStep.tokens
  | .call name [] => [.word name, .openParen, .closeParen]
  | .call name (first :: rest) =>
    .word name :: .openParen :: (first.tokens ++ (argumentTokens rest ++ [.closeParen]))
where
  /-- The tokens of the arguments that follow another one. -/
  argumentTokens : List Phrase → List Token
    | [] => []
    | argument :: rest => .comma :: (argument.tokens ++ argumentTokens rest)

/-- The expression that a word alone denotes: three of them are literals. -/
def exprOfWord (name : String) : Expr :=
  if name = "null" then .literal .null
  else if name = "true" then .literal (.bool true)
  else if name = "false" then .literal (.bool false)
  else .binding [.key name]

/-- A word alone is a name, or one of three literals. -/
theorem exprOfWord_cases (name : String) :
    exprOfWord name = .binding [.key name] ∨
      name = "null" ∧ exprOfWord name = .literal .null ∨
      name = "true" ∧ exprOfWord name = .literal (.bool true) ∨
      name = "false" ∧ exprOfWord name = .literal (.bool false) := by
  rw [exprOfWord]
  by_cases null : name = "null"
  · rw [if_pos null]
    exact .inr (.inl ⟨null, rfl⟩)
  · rw [if_neg null]
    by_cases yes : name = "true"
    · rw [if_pos yes]
      exact .inr (.inr (.inl ⟨yes, rfl⟩))
    · rw [if_neg yes]
      by_cases no : name = "false"
      · rw [if_pos no]
        exact .inr (.inr (.inr ⟨no, rfl⟩))
      · rw [if_neg no]
        exact .inl rfl

/-- The decimal that digits with a point among them denote: the nearest one to the number of all
digits in units of the last place behind the point. -/
def decimalOf (digits : String) : Decimal :=
  let fraction := (digits.toList.dropWhile (· != '.')).tail
  let exact : Decimal.Digits :=
    ⟨Text.readNat (digits.toList.filter Char.isDigit), -(fraction.length : Int)⟩
  exact.toDecimal (digits.toList.head? == some '-')

/-- The expression that a phrase denotes. -/
def expr : Phrase → Expr
  | .string text => .literal (.string text)
  | .decimal digits => .literal (.decimal (decimalOf digits))
  | .integer digits => .literal (.int ((Text.readInt64? digits).getD 0))
  | .word name => exprOfWord name
  | .path root first rest => .binding (.key root.name :: (first :: rest).map PathStep.segment)
  | .call name arguments => .call name (exprs arguments)
where
  /-- The expressions that phrases denote. -/
  exprs : List Phrase → List Expr
    | [] => []
    | argument :: rest => argument.expr :: exprs rest

theorem isInvalid_expr (phrase : Phrase) : phrase.expr.isInvalid = false := by
  cases phrase with
  | word name =>
      rw [expr]
      obtain same | ⟨-, same⟩ | ⟨-, same⟩ | ⟨-, same⟩ := exprOfWord_cases name
      all_goals
        rw [same]
        rfl
  | string | decimal | integer | path | call => rfl

/-- What the grammar asks of a phrase that stands inside `depth` calls: integers are in range, and
calls are not nested too deeply. -/
def IsValid (depth : Nat) : Phrase → Prop
  | .string _ => True
  | .decimal _ => True
  | .integer digits => (Text.readInt64? digits).isSome = true
  | .word _ => True
  | .path root first rest => root.IsValid ∧ ∀ step ∈ first :: rest, step.IsValid
  | .call _ arguments => depth < 256 ∧ AreValid (depth + 1) arguments
where
  /-- What the grammar asks of the arguments of a call. -/
  AreValid (depth : Nat) : List Phrase → Prop
    | [] => True
    | argument :: rest => argument.IsValid depth ∧ AreValid depth rest

mutual

instance decidableIsValid : (depth : Nat) → (phrase : Phrase) → Decidable (phrase.IsValid depth)
  | _, .string _ | _, .decimal _ | _, .word _ => inferInstanceAs (Decidable True)
  | _, .integer _ => inferInstanceAs (Decidable (_ = true))
  | _, .path .. => inferInstanceAs (Decidable (_ ∧ _))
  | depth, .call _ arguments =>
    have := decidableAreValid (depth + 1) arguments
    inferInstanceAs (Decidable (_ ∧ IsValid.AreValid (depth + 1) arguments))

instance decidableAreValid : (depth : Nat) → (phrases : List Phrase) →
    Decidable (IsValid.AreValid depth phrases)
  | _, [] => inferInstanceAs (Decidable True)
  | depth, argument :: rest =>
    have := decidableIsValid depth argument
    have := decidableAreValid depth rest
    inferInstanceAs (Decidable (argument.IsValid depth ∧ IsValid.AreValid depth rest))

end

/-! ### Numbers with a point -/

/-- The digits on both sides of the point count, and those behind it are the places. -/
theorem decimalOf_eq {digits : String} (negative : Bool) {whole fraction : List Char}
    (wholeDigits : Text.isNumeral whole = true) (fractionDigits : Text.isNumeral fraction = true)
    (spelling : digits.toList = (Text.signText negative).toList ++ (whole ++ '.' :: fraction)) :
    decimalOf digits =
      (⟨Text.readNat (whole ++ fraction), -(fraction.length : Int)⟩ :
        Decimal.Digits).toDecimal negative := by
  obtain ⟨nonempty, wholeAll⟩ := Text.isNumeral_iff.mp wholeDigits
  obtain ⟨-, fractionAll⟩ := Text.isNumeral_iff.mp fractionDigits
  have allDigits : digits.toList.filter Char.isDigit = whole ++ fraction := by
    have noSign : (Text.signText negative).toList.filter Char.isDigit = [] := by
      cases negative <;> rfl
    rw [spelling, List.filter_append, noSign, List.nil_append, List.filter_append,
      List.filter_cons_of_neg (by decide), List.filter_eq_self.mpr wholeAll,
      List.filter_eq_self.mpr fractionAll]
  have places : (digits.toList.dropWhile (· != '.')).tail = fraction := by
    have noPoint : ∀ char ∈ whole, (char != '.') = true := by
      intro char member
      rw [bne_iff_ne]
      rintro rfl
      exact absurd (wholeAll '.' member) (by decide)
    have pastSign : ∀ char ∈ (Text.signText negative).toList, (char != '.') = true := by
      intro char member
      obtain missing | minus := Text.isSign_signText negative
      · rw [missing] at member
        contradiction
      · rw [minus, List.mem_singleton] at member
        rw [member]
        rfl
    rw [spelling, List.dropWhile_append_of_pos pastSign, List.dropWhile_append_of_pos noPoint]
    rfl
  have sign : (digits.toList.head? == some '-') = negative := by
    rw [spelling]
    cases negative with
    | true => rfl
    | false =>
        cases whole with
        | nil => contradiction
        | cons digit whole =>
            have isDigit := wholeAll digit List.mem_cons_self
            rw [Bool.eq_false_iff, Ne, beq_iff_eq]
            rintro same
            cases same
            contradiction
  rw [decimalOf, allDigits, places, sign]

end Phrase

end LiveBinding
