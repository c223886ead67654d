import LiveBinding.Proofs.Expr.Canonical
import LiveBinding.Proofs.Expr.Layout
import Mathlib.Data.List.Forall2

/-!
# Texts as arguments

No token reaches over a comma or a closing parenthesis.  So a text that can be read is read as the
same tokens where it stands as an argument, and a word in front of arguments in parentheses makes a
call of them.  Digits in front of them do not: they are a number, behind which no parenthesis may
stand.
-/

namespace LiveBinding

namespace Token

/-! ### What follows a token -/

section

variable {rest : List Char} (ends : EndsExpr rest)
include ends

/-- No point goes on with a comma or a closing parenthesis. -/
theorem tokensFrom_of_ends (afterDot : Bool) :
    tokensFrom afterDot rest = tokensFrom false rest := by
  cases rest with
  | nil => rw [tokensFrom_nil, tokensFrom_nil]
  | cons char others =>
      obtain rfl | rfl := ends char rfl
      · rw [tokensFrom_mark afterDot others rfl, tokensFrom_mark false others rfl]
      · rw [tokensFrom_mark afterDot others rfl, tokensFrom_mark false others rfl]

/-- Tokens that are laid out are found in front of a comma or a closing parenthesis. -/
theorem Layout.tokensFrom_append {start : Nat} {afterDot : Bool} {located : List Located}
    {chars : List Char} (layout : Layout start afterDot located chars) :
    tokensFrom afterDot (chars ++ rest) =
      (tokensFrom false rest).map (located.map (·.token) ++ ·) := by
  induction layout with
  | blanks areBlank =>
      rw [tokensFrom_blanks areBlank, tokensFrom_of_ends ends]
      exact Option.map_id'.symm
  | token areBlank _ spelled written endsHere _ ih =>
      have read := isNext_of_isWritten spelled written (endsHere.append ends.stops ends.noPoint)
      rw [List.append_assoc, List.append_assoc, tokensFrom_blanks areBlank,
        tokensFrom_of_isNext read, ih, Option.map_map]
      rfl

/-- Characters are read as the same tokens in front of a comma or a closing parenthesis. -/
theorem tokensFrom_append {afterDot : Bool} {chars : List Char} {tokens : List Token}
    (found : tokensFrom afterDot chars = some tokens) :
    tokensFrom afterDot (chars ++ rest) = (tokensFrom false rest).map (tokens ++ ·) := by
  obtain ⟨located, layout, rfl⟩ := exists_layout_of_tokensFrom found
  exact layout.tokensFrom_append ends

end

end Token

/-! ### How deep a phrase may stand -/

mutual

/-- A phrase that is allowed somewhere is allowed wherever its calls are not nested too deeply. -/
theorem Phrase.isValid_of_nesting : (phrase : Phrase) → ∀ {depth deeper : Nat},
    phrase.IsValid depth → deeper + phrase.expr.nesting ≤ Expr.maxNesting → phrase.IsValid deeper
  | .string _, _, _, _, _ | .decimal _, _, _, _, _ | .word _, _, _, _, _ => trivial
  | .integer _, _, _, valid, _ => valid
  | .path .., _, _, valid, _ => valid
  | .call name arguments, depth, deeper, valid, shallow => by
      rw [Phrase.expr, Expr.nesting] at shallow
      obtain ⟨-, areValid⟩ := Phrase.isValid_call_iff.mp valid
      refine Phrase.isValid_call_iff.mpr ⟨by omega, areValid_of_nesting arguments areValid ?_⟩
      omega

theorem Phrase.areValid_of_nesting : (phrases : List Phrase) → ∀ {depth deeper : Nat},
    IsValid.AreValid depth phrases →
      deeper + Expr.nesting.deepest (Phrase.expr.exprs phrases) ≤ Expr.maxNesting →
        IsValid.AreValid deeper phrases
  | [], _, _, _, _ => trivial
  | first :: later, depth, deeper, valid, shallow => by
      rw [Phrase.expr.exprs] at shallow
      obtain ⟨firstFits, laterFit⟩ := fits_of_deepest shallow
      exact ⟨isValid_of_nesting first valid.1 firstFits,
        areValid_of_nesting later valid.2 laterFit⟩

end

/-! ### The text of a call -/

/-- The text of a call: a name, and texts between commas in parentheses. -/
def Text.callText (name : String) (texts : List String) : String :=
  name ++ "(" ++ Text.join ", " texts ++ ")"

theorem Text.toList_callText (name : String) (texts : List String) :
    (callText name texts).toList =
      name.toList ++ '(' :: ((Text.join ", " texts).toList ++ [')']) := by
  simp [callText]

/-- Texts are read as some expressions, one by one. -/
def Expr.AreRead (texts : List String) (exprs : List Expr) : Prop :=
  List.Forall₂ (fun text expr => Expr.read text = .ok expr) texts exprs

namespace Expr

/-- Texts that can be read have the tokens of their phrases as the arguments of a call. -/
theorem AreRead.exists_phrases {text : String} {texts : List String} {argument : Expr}
    {arguments : List Expr} (read : Expr.read text = .ok argument)
    (areRead : AreRead texts arguments) : ∃ first later,
      Phrase.IsValid.AreValid 0 (first :: later) ∧
        Phrase.expr.exprs (first :: later) = argument :: arguments ∧
        Token.tokensFrom false ((Text.join ", " (text :: texts)).toList ++ [')']) =
          some (first.tokens ++ (Phrase.tokens.argumentTokens later ++ [.closeParen])) := by
  induction areRead generalizing text argument with
  | nil =>
      obtain ⟨phrase, derives, rfl⟩ := Expr.read_eq_ok_iff.mp read
      obtain ⟨tokens, valid⟩ := derives_iff.mp derives
      refine ⟨phrase, [], ⟨valid, trivial⟩, rfl, ?_⟩
      rw [Text.join, Token.tokensFrom_append (endsExpr_closeParen []) tokens,
        Token.tokensFrom_closeParen, Token.tokensFrom_nil]
      rfl
  | @cons second _ others _ readSecond _ ih =>
      obtain ⟨phrase, derives, rfl⟩ := Expr.read_eq_ok_iff.mp read
      obtain ⟨tokens, valid⟩ := derives_iff.mp derives
      obtain ⟨next, later, validLater, same, tokensLater⟩ := ih readSecond
      refine ⟨phrase, next :: later, ⟨valid, validLater⟩, by rw [Phrase.expr.exprs, same], ?_⟩
      have shape : (Text.join ", " (text :: second :: others)).toList ++ [')'] =
          text.toList ++ ',' :: ' ' :: ((Text.join ", " (second :: others)).toList ++ [')']) := by
        simp [Text.join]
      rw [shape, Token.tokensFrom_append (endsExpr_comma _) tokens, Token.tokensFrom_comma,
        tokensLater]
      simp [Phrase.tokens.argumentTokens]

variable {name : String} {texts : List String} {arguments : List Expr}

/-- A word in front of texts that can be read is read as a call of it. -/
theorem read_callText (word : Text.isWord name = true) (areRead : AreRead texts arguments)
    (shallow : (Expr.call name arguments).nesting ≤ Expr.maxNesting) :
    Expr.read (Text.callText name texts) = .ok (.call name arguments) := by
  rw [Expr.nesting] at shallow
  have spelled := isSpelled_of_isWord word
  have limited : 0 < Expr.maxNesting := by decide
  rw [Expr.read_eq_ok_iff]
  cases areRead with
  | nil =>
      have valid : (Phrase.call name []).IsValid 0 :=
        Phrase.isValid_call_iff.mpr ⟨limited, trivial⟩
      refine ⟨.call name [], derives_iff.mpr ⟨?_, valid⟩, rfl⟩
      have nothing : (Text.join ", " []).toList = [] := rfl
      rw [Text.toList_callText, tokensFrom_call spelled, nothing, List.nil_append,
        Token.tokensFrom_closeParen, Token.tokensFrom_nil]
      rfl
  | cons read others =>
      obtain ⟨first, later, areValid, same, tokens⟩ := AreRead.exists_phrases read others
      have deeper : Phrase.IsValid.AreValid 1 (first :: later) := by
        refine Phrase.areValid_of_nesting _ areValid ?_
        rw [same]
        omega
      have valid : (Phrase.call name (first :: later)).IsValid 0 :=
        Phrase.isValid_call_iff.mpr ⟨limited, deeper⟩
      refine ⟨.call name (first :: later), derives_iff.mpr ⟨?_, valid⟩, ?_⟩
      · rw [Text.toList_callText, tokensFrom_call spelled, tokens]
        rfl
      · rw [Phrase.expr, same]

/-- Digits in front of a parenthesis are read as no expression, whatever is in it. -/
theorem read_callText_of_isNumeral (numeral : Text.isNumeral name.toList = true)
    (texts : List String) (expr : Expr) : Expr.read (Text.callText name texts) ≠ .ok expr := by
  intro read
  obtain ⟨phrase, derives, -⟩ := Expr.read_eq_ok_iff.mp read
  have tokens := (derives_iff.mp derives).1
  have integer : Text.IsInteger name.toList := ⟨[], _, .inl rfl, numeral, rfl⟩
  have stops (rest : List Char) : Text.Stops Text.isWordChar ('(' :: rest) :=
    Text.stops_cons (Text.isWordChar_eq_false '(' (by decide))
  rw [Text.toList_callText, Token.tokensFrom_integer integer (stops _)
    (Token.fractionDigits_eq_nil nofun),
    Token.tokensFrom_mark_of_ne _ (rfl : Token.mark? '(' = some .openParen) nofun,
    Option.map_map] at tokens
  obtain ⟨inner, -, same⟩ := Option.map_eq_some_iff.mp tokens
  have begins : phrase.tokens ++ [] = .integer name :: .openParen :: inner := by
    rw [List.append_nil, ← same, Function.comp, String.ofList_toList]
  -- digits alone have nothing behind them, and a path goes on with a point or a bracket
  obtain ⟨-, nothing⟩ | ⟨first, steps, -, path⟩ := Parser.cases_of_integer begins
  · contradiction
  · exact Parser.steps_ne_of_stops rfl path

end Expr

end LiveBinding
