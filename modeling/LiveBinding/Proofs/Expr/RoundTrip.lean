import LiveBinding.Proofs.Expr.Grammar
import LiveBinding.Proofs.Expr.Rereading

/-!
# Expressions are read back

The text of an expression that was read is read again.  It is read as the same expression exactly
if the expression is faithful.  If it is, a phrase of it has the tokens of its text.  If it is not,
the tokens weigh less than those of any phrase of it.
-/

namespace LiveBinding

/-! ### Calls -/

/-- How the arguments of a call are read, together with the parenthesis behind them. -/
structure ArgumentsReadAs (depth : Nat) (arguments : List Expr) (own : Option (List Token)) :
    Prop where
  lexes : ∀ rest, Token.tokensFrom false
      ((Text.join ", " (Expr.toText.argumentTexts arguments)).toList ++ ')' :: rest) =
    own.bind fun tokens => (Token.tokensFrom false rest).map (tokens ++ ·)
  keeps : Expr.isFaithful.allFaithful arguments = true → ∃ first later,
    Phrase.IsValid.AreValid depth (first :: later) ∧
      Phrase.expr.exprs (first :: later) = arguments ∧
        own = some (first.tokens ++ (Phrase.tokens.argumentTokens later ++ [.closeParen]))
  loses : ∀ tokens, own = some tokens → Token.weights tokens ≤ Expr.weight.weights arguments ∧
    (Token.weights tokens = Expr.weight.weights arguments →
      Expr.isFaithful.allFaithful arguments = true)

theorem endsExpr_comma (rest : List Char) : EndsExpr (',' :: rest) := by
  intro char first
  cases first
  exact .inl rfl

theorem endsExpr_closeParen (rest : List Char) : EndsExpr (')' :: rest) := by
  intro char first
  cases first
  exact .inr rfl

/-- The last argument is read up to the parenthesis. -/
theorem ReadsAs.last {depth : Nat} {argument : Expr} {own : Option (List Token)}
    (reads : ReadsAs depth argument own) :
    ArgumentsReadAs depth [argument] (own.map (· ++ [.closeParen])) where
  lexes rest := by
    rw [Expr.toText.argumentTexts, Expr.toText.argumentTexts, Text.join,
      reads.lexes _ (endsExpr_closeParen rest), Token.tokensFrom_closeParen]
    cases own with
    | none => rfl
    | some tokens => simp [Function.comp_def]
  keeps faithful := by
    rw [Expr.isFaithful.allFaithful, Expr.isFaithful.allFaithful, Bool.and_true] at faithful
    obtain ⟨phrase, valid, rfl, rfl⟩ := reads.keeps faithful
    exact ⟨phrase, [], ⟨valid, trivial⟩, rfl, rfl⟩
  loses := by
    intro tokens found
    obtain ⟨inner, same, rfl⟩ := Option.map_eq_some_iff.mp found
    obtain ⟨bounded, faithful⟩ := reads.loses inner same
    simp only [Token.weights_append, Token.weights_cons, Token.weights_nil, Token.weight,
      Expr.weight.weights, Expr.isFaithful.allFaithful, Bool.and_true, Nat.add_zero]
    exact ⟨bounded, faithful⟩

/-- An argument is read up to the comma, and the others behind it. -/
theorem ReadsAs.more {depth : Nat} {argument second : Expr} {others : List Expr}
    {own later : Option (List Token)} (reads : ReadsAs depth argument own)
    (readsLater : ArgumentsReadAs depth (second :: others) later) :
    ArgumentsReadAs depth (argument :: second :: others)
      (own.bind fun tokens => later.map fun behind => tokens ++ .comma :: behind) where
  lexes rest := by
    have text : (Text.join ", " (Expr.toText.argumentTexts
        (argument :: second :: others))).toList ++ ')' :: rest =
          argument.toText.toList ++ (',' :: ' ' ::
            ((Text.join ", " (Expr.toText.argumentTexts (second :: others))).toList ++
              ')' :: rest)) := by
      simp [Expr.toText.argumentTexts, Text.join]
    rw [text, reads.lexes _ (endsExpr_comma _), Token.tokensFrom_comma, readsLater.lexes]
    cases own with
    | none => rfl
    | some tokens =>
        cases later with
        | none => rfl
        | some behind => simp [Function.comp_def]
  keeps faithful := by
    rw [Expr.isFaithful.allFaithful, Bool.and_eq_true] at faithful
    obtain ⟨phrase, valid, rfl, rfl⟩ := reads.keeps faithful.1
    obtain ⟨next, rest, areValid, same, rfl⟩ := readsLater.keeps faithful.2
    refine ⟨phrase, next :: rest, ⟨valid, areValid⟩, ?_, ?_⟩
    · rw [Phrase.expr.exprs, same]
    · simp [Phrase.tokens.argumentTokens]
  loses := by
    intro tokens found
    obtain ⟨inner, same, found⟩ := Option.bind_eq_some_iff.mp found
    obtain ⟨behind, sameLater, rfl⟩ := Option.map_eq_some_iff.mp found
    obtain ⟨bounded, faithful⟩ := reads.loses inner same
    obtain ⟨boundedLater, faithfulLater⟩ := readsLater.loses behind sameLater
    have weights : Token.weights (inner ++ .comma :: behind) =
        Token.weights inner + Token.weights behind := by simp [Token.weight]
    have total : Expr.weight.weights (argument :: second :: others) =
        argument.weight + Expr.weight.weights (second :: others) := rfl
    rw [weights, total, Expr.isFaithful.allFaithful, Bool.and_eq_true]
    refine ⟨Nat.add_le_add bounded boundedLater, fun equal => ?_⟩
    exact ⟨faithful (by omega), faithfulLater (by omega)⟩

theorem toList_toText_call (name : String) (arguments : List Expr) (rest : List Char) :
    (Expr.call name arguments).toText.toList ++ rest = name.toList ++ ('(' ::
      ((Text.join ", " (Expr.toText.argumentTexts arguments)).toList ++ ')' :: rest)) := by
  simp [Expr.toText]

theorem tokensFrom_call {name : String} (spelled : (Token.word name).IsSpelled false)
    (rest : List Char) : Token.tokensFrom false (name.toList ++ '(' :: rest) =
      (Token.tokensFrom false rest).map ([.word name, .openParen] ++ ·) := by
  have stops : Text.Stops Text.isWordChar ('(' :: rest) :=
    Text.stops_cons (Text.isWordChar_eq_false '(' (by decide))
  rw [Token.tokensFrom_word spelled stops,
    Token.tokensFrom_mark_of_ne rest (rfl : Token.mark? '(' = some .openParen) nofun,
    Option.map_map]
  rfl

/-- A call without arguments is read as it is written. -/
theorem readsAs_emptyCall {depth : Nat} {name : String}
    (spelled : (Token.word name).IsSpelled false) (shallow : depth < Expr.maxNesting) :
    ReadsAs depth (.call name []) (some [.word name, .openParen, .closeParen]) := by
  have valid : (Phrase.call name []).IsValid depth :=
    Phrase.isValid_call_iff.mpr ⟨shallow, trivial⟩
  refine ReadsAs.of_phrase (.call name []) valid rfl rfl ?_
  intro rest _
  rw [toList_toText_call, tokensFrom_call spelled]
  have noArguments : (Text.join ", " (Expr.toText.argumentTexts [])).toList = [] := rfl
  rw [noArguments, List.nil_append, Token.tokensFrom_closeParen, Option.map_map]
  rfl

/-- A call is read as its arguments are. -/
theorem ArgumentsReadAs.call {depth : Nat} {name : String} {arguments : List Expr}
    {own : Option (List Token)} (spelled : (Token.word name).IsSpelled false)
    (shallow : depth < Expr.maxNesting) (reads : ArgumentsReadAs (depth + 1) arguments own) :
    ReadsAs depth (.call name arguments) (own.map ([.word name, .openParen] ++ ·)) where
  lexes rest _ := by
    rw [toList_toText_call, tokensFrom_call spelled, reads.lexes]
    cases own with
    | none => rfl
    | some tokens => simp [Function.comp_def]
  keeps faithful := by
    rw [Expr.isFaithful] at faithful
    obtain ⟨first, later, valid, rfl, rfl⟩ := reads.keeps faithful
    exact ⟨.call name (first :: later), Phrase.isValid_call_iff.mpr ⟨shallow, valid⟩, rfl, rfl⟩
  loses := by
    intro tokens found
    obtain ⟨inner, same, rfl⟩ := Option.map_eq_some_iff.mp found
    have weights : Token.weights ([.word name, .openParen] ++ inner) = Token.weights inner := by
      simp [Token.weight]
    rw [weights]
    exact reads.loses inner same

/-- However a path is read, it is read as its faithfulness says. -/
theorem exists_readsAs_path {depth : Nat} {root : PathRoot} {first : PathStep}
    {steps : List PathStep} (valid : (Phrase.path root first steps).IsValid depth)
    (spelled : Token.AreSpelled false (Phrase.path root first steps).tokens) :
    ∃ own, ReadsAs depth (Phrase.path root first steps).expr own := by
  cases faithful : (Phrase.path root first steps).expr.isFaithful with
  | true => exact ⟨_, readsAs_path depth valid spelled faithful⟩
  | false =>
      obtain ⟨rootSpelled, stepsSpelled⟩ := PathRoot.areSpelled spelled
      have likeDecimal : Path.beginsLikeDecimal
          (.key root.name :: (first :: steps).map PathStep.segment) = true := by
        simpa [Phrase.expr, Expr.isFaithful] using faithful
      cases first with
      | index => contradiction
      | key name =>
          cases root with
          | number digits =>
              exact exists_readsAs_decimalPath depth (keysAreNames stepsSpelled) likeDecimal
          | word digits =>
              have numeral := (Bool.and_eq_true_iff.mp likeDecimal).1
              have noNumeral := rootSpelled.2 rfl
              rw [PathRoot.name, noNumeral] at numeral
              contradiction

/-! ### All expressions that are read -/

theorem Phrase.decimalOf_ne_nan {digits : String} (decimal : Text.IsDecimal digits.toList) :
    decimalOf digits ≠ .nan := by
  obtain ⟨negative, whole, fraction, wholeDigits, fractionDigits, spelling⟩ :=
    decimal.exists_signText
  rw [decimalOf_eq negative wholeDigits fractionDigits spelling]
  exact Decimal.toDecimal_ne_nan _ _

mutual

/-- However an expression is read, it is read as its faithfulness says. -/
theorem exists_readsAs : (phrase : Phrase) → ∀ {depth : Nat}, phrase.IsValid depth →
    Token.AreSpelled false phrase.tokens → ∃ own, ReadsAs depth phrase.expr own
  | .string text, depth, _, _ => ⟨_, readsAs_string depth text⟩
  | .decimal _, depth, _, spelled =>
      exists_readsAs_decimal depth (Phrase.decimalOf_ne_nan spelled.1.2)
  | .integer _, depth, _, _ => ⟨_, readsAs_integer depth _⟩
  | .word _, depth, _, spelled => ⟨_, readsAs_word depth spelled.1⟩
  | .path .., _, valid, spelled => exists_readsAs_path valid spelled
  | .call _ [], _, valid, spelled =>
      ⟨_, readsAs_emptyCall spelled.1 (Phrase.isValid_call_iff.mp valid).1⟩
  | .call _ (first :: later), _, valid, spelled => by
      obtain ⟨shallow, areValid⟩ := Phrase.isValid_call_iff.mp valid
      obtain ⟨own, reads⟩ := exists_argumentsReadAs first later areValid spelled.2.2
      exact ⟨_, reads.call spelled.1 shallow⟩
termination_by phrase => sizeOf phrase

theorem exists_argumentsReadAs : (first : Phrase) → (later : List Phrase) → ∀ {depth : Nat},
    Phrase.IsValid.AreValid depth (first :: later) →
      Token.AreSpelled false
        (first.tokens ++ (Phrase.tokens.argumentTokens later ++ [.closeParen])) →
        ∃ own, ArgumentsReadAs depth (Phrase.expr.exprs (first :: later)) own
  | first, [], _, valid, spelled => by
      obtain ⟨own, reads⟩ := exists_readsAs first valid.1 spelled.append_left
      exact ⟨_, reads.last⟩
  | first, second :: others, _, valid, spelled => by
      obtain ⟨own, reads⟩ := exists_readsAs first valid.1 spelled.append_left
      have spelledLater := spelled.behind
      rw [List.append_eq, List.append_assoc] at spelledLater
      obtain ⟨ownLater, readsLater⟩ := exists_argumentsReadAs second others valid.2 spelledLater
      exact ⟨_, reads.more readsLater⟩
termination_by first later => 1 + sizeOf first + sizeOf later

end

theorem derives_iff {phrase : Phrase} {text : String} : phrase.Derives text ↔
    Token.tokensFrom false text.toList = some phrase.tokens ∧ phrase.IsValid 0 := by
  rw [Phrase.Derives, ← Token.tokens_of_lex]
  cases Token.lex text with
  | error => simp [Except.map, Except.toOption]
  | ok stream => simp [Except.map, Except.toOption]

/-- An expression is read back exactly if it is faithful. -/
theorem ReadsAs.read_toText_iff {expr : Expr} {own : Option (List Token)}
    (reads : ReadsAs 0 expr own) : Expr.read expr.toText = .ok expr ↔ expr.isFaithful = true := by
  have lexed := reads.lexes [] nofun
  rw [List.append_nil, Token.tokensFrom_nil] at lexed
  simp only [Option.map_some, List.append_nil, Option.bind_fun_some] at lexed
  rw [Expr.read_eq_ok_iff]
  constructor
  · rintro ⟨other, otherDerives, same⟩
    obtain ⟨tokens, -⟩ := derives_iff.mp otherDerives
    rw [lexed] at tokens
    refine (reads.loses _ tokens).2 ?_
    rw [other.weights_tokens, same]
  · intro faithful
    obtain ⟨other, valid, same, tokens⟩ := reads.keeps faithful
    exact ⟨other, derives_iff.mpr ⟨lexed.trans tokens, valid⟩, same⟩

/-- The text of an expression that was read is read as the same expression again exactly if the
text is faithful. -/
theorem Expr.read_toText_iff {text : String} {expr : Expr} (read : Expr.read text = .ok expr) :
    Expr.read expr.toText = .ok expr ↔ expr.isFaithful = true := by
  obtain ⟨phrase, derives, rfl⟩ := Expr.read_eq_ok_iff.mp read
  obtain ⟨own, reads⟩ := exists_readsAs phrase derives.2 derives.areSpelled
  exact reads.read_toText_iff

theorem Expr.read_of_ofText {text : String} (valid : (Expr.ofText text).isInvalid = false) :
    Expr.read text = .ok (Expr.ofText text) := by
  unfold Expr.ofText at *
  split
  · assumption
  · next failed =>
      rw [failed] at valid
      contradiction

/-- A text that is an expression is written and read back exactly if no path in it begins like a
decimal and no decimal in it is infinite.  Otherwise what is read back is something else. -/
theorem Expr.ofText_toText_iff (text : String) (valid : (Expr.ofText text).isInvalid = false) :
    Expr.ofText (Expr.ofText text).toText = Expr.ofText text ↔
      (Expr.ofText text).isFaithful = true := by
  rw [← Expr.read_toText_iff (read_of_ofText valid)]
  constructor
  · intro same
    have stillValid : (Expr.ofText (Expr.ofText text).toText).isInvalid = false := by
      rw [same, valid]
    have read := read_of_ofText stillValid
    rw [same] at read
    exact read
  · intro read
    rw [Expr.ofText, read]

/-- Leading zeros do no harm to a call, but a blank that kept digits and a point apart is lost. -/
theorem Expr.ofText_toText_iff_digits :
    Expr.ofText (Expr.ofText "add(a[00].5b, 1.50)").toText = Expr.ofText "add(a[00].5b, 1.50)" ∧
      (Expr.ofText "1 .5").isInvalid = false ∧
        Expr.ofText (Expr.ofText "1 .5").toText ≠ Expr.ofText "1 .5" := by
  have call : (Expr.ofText "add(a[00].5b, 1.50)").isInvalid = false := by decide +kernel
  have path : (Expr.ofText "1 .5").isInvalid = false := by decide +kernel
  refine ⟨(ofText_toText_iff _ call).mpr (by decide +kernel), path, ?_⟩
  rw [ne_eq, ofText_toText_iff _ path]
  decide +kernel

end LiveBinding
