import LiveBinding.Expr.Text
import LiveBinding.Proofs.Expr.Phrase
import Mathlib.Algebra.Ring.Nat

/-!
# Faithful expressions

The text of an expression may be taken for something else in two places: digits in front of a key
that begins with a digit run together to a decimal, and a decimal beyond all bounds is written like
a name.  An expression without such places is faithful.  In both places points or decimals are
lost, so these are counted: all phrases of an expression have the same weight.
-/

namespace LiveBinding

/-! ### Texts that are faithful -/

/-- Whether the text of a path begins like a decimal, with digits, a point and a digit. -/
def Path.beginsLikeDecimal : Path → Bool
  | .key root :: .key name :: _ =>
    Text.isNumeral root.toList && name.toList.head?.any Char.isDigit
  | _ => false

/-- Whether the text of an expression can be taken for nothing else. -/
def Expr.isFaithful : Expr → Bool
  | .literal (.number (.decimal value)) => value.isFinite
  | .literal _ => true
  | .binding path => !path.beginsLikeDecimal
  | .call _ arguments => allFaithful arguments
  | .invalid .. => true
where
  allFaithful : List Expr → Bool
    | [] => true
    | argument :: rest => argument.isFaithful && allFaithful rest

/-! ### What no phrase can lack -/

/-- Points count double, decimals once. -/
def Token.weight : Token → Nat
  | .dot => 2
  | .decimal _ => 1
  | _ => 0

/-- The weight of a list of tokens. -/
def Token.weights (tokens : List Token) : Nat := (tokens.map weight).sum

/-- The weight of a step of a path, which is that of its tokens. -/
def Segment.weight : Segment → Nat
  | .key _ => 2
  | .index _ => 0

/-- The weight of a path behind its root. -/
def Path.weight (path : Path) : Nat := (path.map Segment.weight).sum

/-- The weight of an expression, which is that of its tokens. -/
def Expr.weight : Expr → Nat
  | .literal (.number (.decimal _)) => 1
  | .binding path => Path.weight path.tail
  | .call _ arguments => weights arguments
  | _ => 0
where
  weights : List Expr → Nat
    | [] => 0
    | argument :: rest => argument.weight + weights rest

@[simp] theorem Token.weights_nil : weights [] = 0 := rfl

@[simp] theorem Token.weights_cons (token : Token) (rest : List Token) :
    weights (token :: rest) = token.weight + weights rest := rfl

@[simp] theorem Token.weights_append (left right : List Token) :
    weights (left ++ right) = weights left + weights right := by
  rw [weights, List.map_append, List.sum_append]
  rfl

namespace Phrase

theorem weights_steps (steps : List PathStep) :
    Token.weights (steps.flatMap PathStep.tokens) = Path.weight (steps.map PathStep.segment) := by
  induction steps with
  | nil => rfl
  | cons step steps ih =>
      rw [List.flatMap_cons, Token.weights_append, ih]
      cases step <;> rfl

theorem weight_exprOfWord (name : String) : (exprOfWord name).weight = 0 := by
  obtain same | ⟨-, same⟩ | ⟨-, same⟩ | ⟨-, same⟩ := exprOfWord_cases name
  all_goals
    rw [same]
    rfl

/-- A word alone is written as it is. -/
theorem toText_exprOfWord (name : String) : (exprOfWord name).toText = name := by
  obtain same | ⟨rfl, same⟩ | ⟨rfl, same⟩ | ⟨rfl, same⟩ := exprOfWord_cases name
  · rw [same]
    exact String.append_empty
  all_goals
    rw [same]
    rfl

theorem isFaithful_exprOfWord (name : String) : (exprOfWord name).isFaithful = true := by
  obtain same | ⟨-, same⟩ | ⟨-, same⟩ | ⟨-, same⟩ := exprOfWord_cases name
  all_goals
    rw [same]
    rfl

mutual

/-- All phrases of an expression have its weight. -/
theorem weights_tokens : (phrase : Phrase) → Token.weights phrase.tokens = phrase.expr.weight
  | .string _ => rfl
  | .decimal _ => rfl
  | .integer _ => rfl
  | .word name => (weight_exprOfWord name).symm
  | .path root first rest => by
      rw [tokens, Token.weights_cons, weights_steps]
      cases root <;> exact Nat.zero_add _
  | .call _ [] => rfl
  | .call name (first :: rest) => by
      have head := weights_tokens first
      have tail := weights_argumentTokens rest
      simp only [tokens, Token.weights_cons, Token.weights_append, head, tail, Token.weight,
        Token.weights_nil, Nat.zero_add, Nat.add_zero]
      rfl

theorem weights_argumentTokens : (arguments : List Phrase) →
    Token.weights (tokens.argumentTokens arguments) = Expr.weight.weights (expr.exprs arguments)
  | [] => rfl
  | first :: rest => by
      have head := weights_tokens first
      have tail := weights_argumentTokens rest
      simp only [tokens.argumentTokens, Token.weights_cons, Token.weights_append, head, tail,
        Token.weight, Nat.zero_add]
      rfl

end

end Phrase

end LiveBinding
