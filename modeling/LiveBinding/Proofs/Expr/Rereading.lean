import LiveBinding.Proofs.Decimal.Text
import LiveBinding.Proofs.Expr.Faithful
import LiveBinding.Proofs.Expr.Lexing

/-!
# The text of literals and paths

The text of each part of an expression is read on its own, whatever follows behind it.  A faithful
part is read as the tokens of a phrase of it.  Any other part is read as tokens of less weight, or
not at all.
-/

namespace LiveBinding

/-! ### Where the text of an expression ends -/

/-- Characters that may follow an expression: none, or those behind an argument. -/
def EndsExpr (rest : List Char) : Prop :=
  ∀ char, rest.head? = some char → char = ',' ∨ char = ')'

theorem EndsExpr.stops {rest : List Char} (ends : EndsExpr rest) :
    Text.Stops Text.isWordChar rest := by
  intro char first
  obtain rfl | rfl := ends char first
  · exact Text.isWordChar_eq_false ',' (by decide)
  · exact Text.isWordChar_eq_false ')' (by decide)

theorem EndsExpr.noPoint {rest : List Char} (ends : EndsExpr rest) : rest.head? ≠ some '.' := by
  intro point
  obtain impossible | impossible := ends '.' point
  · contradiction
  · contradiction

theorem EndsExpr.fractionDigits {rest : List Char} (ends : EndsExpr rest) :
    Token.fractionDigits rest = [] := Token.fractionDigits_eq_nil ends.noPoint

/-! ### Paths -/

/-- A step as the printer spells it. -/
def PathStep.ofSegment : Segment → PathStep
  | .key name => .key name
  | .index position => .index (Text.natText position)

/-- A step as it is written: a position loses its leading zeros. -/
def PathStep.rewritten : PathStep → PathStep
  | .key name => .key name
  | .index digits => .index (Text.natText (Text.readNat digits.toList))

/-- Whether the keys among the steps are names. -/
def KeysAreNames (steps : List PathStep) : Prop :=
  ∀ name, .key name ∈ steps → Text.isName name = true

namespace PathStep

@[simp] theorem segment_ofSegment (segment : Segment) : (ofSegment segment).segment = segment := by
  cases segment with
  | key => rfl
  | index position =>
      rw [ofSegment, PathStep.segment, Text.toList_natText, Text.readNat_digitChars]

theorem segment_rewritten (step : PathStep) : step.rewritten.segment = step.segment := by
  have spelled : step.rewritten = ofSegment step.segment := by cases step <;> rfl
  rw [spelled, segment_ofSegment]

theorem IsValid.rewritten {step : PathStep} (valid : step.IsValid) : step.rewritten.IsValid := by
  cases step with
  | key => trivial
  | index digits =>
      rw [PathStep.rewritten, IsValid, Text.toList_natText, Text.readNat_digitChars]
      exact ⟨Text.isNumeral_digitChars _, valid.2⟩

theorem map_segment_rewritten (steps : List PathStep) :
    (steps.map rewritten).map segment = steps.map segment := by
  rw [List.map_map]
  exact List.map_congr_left fun step _ => segment_rewritten step

end PathStep

theorem stops_tailText (path : Path) {rest : List Char}
    (stops : Text.Stops Text.isWordChar rest) :
    Text.Stops Text.isWordChar ((Path.tailText path).toList ++ rest) := by
  cases path with
  | nil => exact stops
  | cons segment path =>
      have point : Text.isWordChar '.' = false := Text.isWordChar_eq_false _ (by decide)
      have bracket : Text.isWordChar '[' = false := Text.isWordChar_eq_false _ (by decide)
      cases segment with
      | key name =>
          simp only [Path.tailText, String.toList_append]
          exact Text.stops_cons point
      | index position =>
          simp only [Path.tailText, Segment.toText, String.toList_append]
          exact Text.stops_cons bracket

namespace Token

/-- The tail of a path is read to its end. -/
theorem tokensFrom_tailText {steps : List PathStep} (names : KeysAreNames steps)
    {rest : List Char} (stops : Text.Stops Text.isWordChar rest) :
    tokensFrom false ((Path.tailText (steps.map PathStep.segment)).toList ++ rest) =
      (tokensFrom false rest).map
        ((steps.map PathStep.rewritten).flatMap PathStep.tokens ++ ·) := by
  induction steps with
  | nil =>
      rw [List.map_nil, Path.tailText]
      exact Option.map_id'.symm
  | cons step steps ih =>
      have later := ih fun name member => names name (List.mem_cons_of_mem step member)
      have stopsLater := stops_tailText (steps.map PathStep.segment) stops
      cases step with
      | key name =>
          have isName := names name List.mem_cons_self
          have read := tokensFrom_key isName stopsLater
          rw [later, Option.map_map] at read
          simp only [List.map_cons, PathStep.segment, Path.tailText, String.toList_append,
            List.append_assoc]
          exact read
      | index digits =>
          have read := tokensFrom_index (Text.readNat digits.toList)
            ((Path.tailText (steps.map PathStep.segment)).toList ++ rest)
          rw [later, Option.map_map] at read
          simp only [List.map_cons, PathStep.segment, Path.tailText, Segment.toText,
            String.toList_append, List.append_assoc, Text.toList_natText]
          exact read

end Token

/-! ### Expressions -/

/-- A text is read as tokens of its own or not at all, wherever an expression may end behind it. -/
def LexesAs (text : String) (own : Option (List Token)) : Prop :=
  ∀ rest, EndsExpr rest → Token.tokensFrom false (text.toList ++ rest) =
    own.bind fun tokens => (Token.tokensFrom false rest).map (tokens ++ ·)

/-- How the text of an expression inside `depth` calls is read.  A faithful expression keeps its
meaning, any other loses weight. -/
structure ReadsAs (depth : Nat) (expr : Expr) (own : Option (List Token)) : Prop where
  lexes : LexesAs expr.toText own
  keeps : expr.isFaithful = true →
    ∃ phrase : Phrase, phrase.IsValid depth ∧ phrase.expr = expr ∧ own = some phrase.tokens
  loses : ∀ tokens, own = some tokens → Token.weights tokens ≤ expr.weight ∧
    (Token.weights tokens = expr.weight → expr.isFaithful = true)

/-- A faithful expression is read as the tokens of some phrase of it. -/
theorem ReadsAs.of_phrase {depth : Nat} {expr : Expr} (phrase : Phrase)
    (valid : phrase.IsValid depth) (same : phrase.expr = expr)
    (faithful : expr.isFaithful = true) (lexes : LexesAs expr.toText (some phrase.tokens)) :
    ReadsAs depth expr (some phrase.tokens) where
  lexes := lexes
  keeps _ := ⟨phrase, valid, same, rfl⟩
  loses := by
    rintro tokens found
    cases found
    rw [phrase.weights_tokens, same]
    exact ⟨Nat.le_refl _, fun _ => faithful⟩

theorem readsAs_string (depth : Nat) (text : String) :
    ReadsAs depth (.literal (.string text)) (some [.string text]) := by
  refine ReadsAs.of_phrase (.string text) trivial rfl rfl ?_
  intro rest _
  have quoted : (Expr.literal (.string text)).toText.toList ++ rest =
      '\'' :: (Value.literalChars text ++ '\'' :: rest) := by
    simp [Expr.toText, Value.literalText]
  rw [quoted, Token.tokensFrom_string]
  rfl

theorem readsAs_integer (depth : Nat) (value : Int64) :
    ReadsAs depth (.literal (.int value)) (some [.integer (Text.intText value.toInt)]) := by
  have read := Text.readInt64?_intText value
  refine ReadsAs.of_phrase (.integer (Text.intText value.toInt)) ?_ ?_ rfl ?_
  · rw [Phrase.IsValid, read]
    rfl
  · rw [Phrase.expr, read]
    rfl
  · intro rest ends
    have text : (Expr.literal (.int value)).toText = Text.intText value.toInt := rfl
    rw [text, Token.tokensFrom_integer (Text.isInteger_intText _) ends.stops ends.fractionDigits,
      String.ofList_toList]
    rfl

/-- A finite decimal is what its text denotes. -/
theorem Phrase.decimalOf_toText {value : Decimal} (finite : value.isFinite = true) :
    decimalOf value.toText = value := by
  obtain ⟨negative, whole, fraction, wholeDigits, fractionDigits, text, denotes⟩ :=
    Decimal.exists_of_toText finite
  rw [decimalOf_eq negative wholeDigits fractionDigits text, denotes]

/-- Decimals are read back, except that an infinite one is taken for a name or for nothing. -/
theorem exists_readsAs_decimal (depth : Nat) {value : Decimal} (number : value ≠ .nan) :
    ∃ own, ReadsAs depth (.literal (.decimal value)) own := by
  cases value with
  | nan => contradiction
  | finite negative steps onGrid =>
      have finite : (Decimal.finite negative steps onGrid).isFinite = true := rfl
      generalize Decimal.finite negative steps onGrid = value at *
      refine ⟨_, ReadsAs.of_phrase (.decimal value.toText) trivial ?_ finite ?_⟩
      · rw [Phrase.expr, Phrase.decimalOf_toText finite]
      · intro rest ends
        have text : (Expr.literal (.decimal value)).toText = value.toText := rfl
        rw [text, Token.tokensFrom_decimal (Decimal.isDecimal_toText finite) ends.stops.isDigit,
          String.ofList_toList]
        rfl
  | infinite negative =>
      cases negative with
      | true =>
          refine ⟨none, ?_, ?_, ?_⟩
          · intro rest _
            exact Token.tokensFrom_minus (by decide) ('n' :: 'f' :: rest)
          · intro faithful
            contradiction
          · intro tokens found
            contradiction
      | false =>
          refine ⟨some [.word "inf"], ?_, ?_, ?_⟩
          · intro rest ends
            have spelled : (Token.word "inf").IsSpelled false :=
              ⟨by decide +kernel, fun _ => by decide +kernel⟩
            exact Token.tokensFrom_word spelled ends.stops
          · intro faithful
            contradiction
          · intro tokens found
            cases found
            exact ⟨by decide, by decide⟩

theorem readsAs_word (depth : Nat) {name : String} (spelled : (Token.word name).IsSpelled false) :
    ReadsAs depth (Phrase.exprOfWord name) (some [.word name]) := by
  refine ReadsAs.of_phrase (.word name) trivial rfl (Phrase.isFaithful_exprOfWord name) ?_
  intro rest ends
  rw [Phrase.toText_exprOfWord, Token.tokensFrom_word spelled ends.stops]
  rfl

/-- A token that is a root is spelled like one. -/
theorem PathRoot.areSpelled {root : PathRoot} {tokens : List Token}
    (spelled : Token.AreSpelled false (root.token :: tokens)) :
    root.token.IsSpelled false ∧ Token.AreSpelled false tokens := by
  cases root <;> exact spelled

theorem keysAreNames {steps : List PathStep}
    (spelled : Token.AreSpelled false (steps.flatMap PathStep.tokens)) : KeysAreNames steps := by
  induction steps with
  | nil => exact nofun
  | cons step steps ih =>
      cases step with
      | key other =>
          obtain ⟨-, ⟨isName, -⟩, others⟩ := spelled
          intro name member
          obtain same | later := List.mem_cons.mp member
          · cases same
            exact isName
          · exact ih others name later
      | index digits =>
          obtain ⟨-, -, -, others⟩ := spelled
          intro name member
          obtain impossible | later := List.mem_cons.mp member
          · contradiction
          · exact ih others name later

theorem toList_toText_binding (root : String) (path : Path) (rest : List Char) :
    (Expr.binding (.key root :: path)).toText.toList ++ rest =
      root.toList ++ ((Path.tailText path).toList ++ rest) := by
  rw [← List.append_assoc, ← String.toList_append]
  rfl

/-- A path begins like a decimal if it begins with digits and its text goes on like a decimal. -/
theorem beginsLikeDecimal_cons_iff {root : String} {segment : Segment} {path : Path}
    (named : ∀ name, segment = .key name → Text.isName name = true) (rest : List Char) :
    Path.beginsLikeDecimal (.key root :: segment :: path) = true ↔
      Text.isNumeral root.toList = true ∧
        Token.fractionDigits ((Path.tailText (segment :: path)).toList ++ rest) ≠ [] := by
  cases segment with
  | index position =>
      have noPoint : Token.fractionDigits
          ((Path.tailText (.index position :: path)).toList ++ rest) = [] := by
        apply Token.fractionDigits_eq_nil
        simp [Path.tailText, Segment.toText]
      exact iff_of_false nofun fun both => both.2 noPoint
  | key name =>
      obtain ⟨nonempty, -⟩ := Text.isName_iff.mp (named name rfl)
      obtain ⟨char, others, shape⟩ := List.exists_cons_of_ne_nil nonempty
      rw [Path.beginsLikeDecimal, Bool.and_eq_true]
      refine and_congr_right' ?_
      simp only [Path.tailText, String.toList_append, List.append_assoc, shape]
      change char.isDigit = true ↔ List.takeWhile Char.isDigit (char :: _) ≠ []
      by_cases digit : char.isDigit = true
      · rw [List.takeWhile_cons_of_pos digit]
        exact iff_of_true digit (List.cons_ne_nil _ _)
      · rw [List.takeWhile_cons_of_neg digit]
        exact iff_of_false digit fun none => none rfl

/-- Behind digits that are a root no digits follow a point, if the path is not like a decimal. -/
theorem fractionDigits_tailText {digits : String} {first : PathStep} {steps : List PathStep}
    (numeral : Text.isNumeral digits.toList = true) (names : KeysAreNames (first :: steps))
    (other : Path.beginsLikeDecimal
      (.key digits :: (first :: steps).map PathStep.segment) = false) (rest : List Char) :
    Token.fractionDigits
      ((Path.tailText ((first :: steps).map PathStep.segment)).toList ++ rest) = [] := by
  have named : ∀ name, first.segment = .key name → Text.isName name = true := by
    intro name same
    refine names name ?_
    cases first with
    | index => contradiction
    | key =>
        cases same
        exact List.mem_cons_self
  by_contra fraction
  have likeDecimal := (beginsLikeDecimal_cons_iff named rest).mpr ⟨numeral, fraction⟩
  rw [List.map_cons, likeDecimal] at other
  contradiction

theorem readsAs_path (depth : Nat) {root : PathRoot} {first : PathStep} {steps : List PathStep}
    (valid : (Phrase.path root first steps).IsValid depth)
    (spelled : Token.AreSpelled false (Phrase.path root first steps).tokens)
    (faithful : (Phrase.path root first steps).expr.isFaithful = true) :
    ReadsAs depth (Phrase.path root first steps).expr
      (some (Phrase.path root first.rewritten (steps.map PathStep.rewritten)).tokens) := by
  obtain ⟨rootSpelled, stepsSpelled⟩ := PathRoot.areSpelled spelled
  have names := keysAreNames stepsSpelled
  refine ReadsAs.of_phrase _ ⟨valid.1, ?_⟩ ?_ faithful ?_
  · intro step member
    rw [← List.map_cons] at member
    obtain ⟨source, listed, rfl⟩ := List.mem_map.mp member
    exact (valid.2 source listed).rewritten
  · rw [Phrase.expr, ← List.map_cons, PathStep.map_segment_rewritten]
    rfl
  · intro rest ends
    have stops := stops_tailText ((first :: steps).map PathStep.segment) ends.stops
    have tail := Token.tokensFrom_tailText names ends.stops
    have head : Token.tokensFrom false (root.name.toList ++
        ((Path.tailText ((first :: steps).map PathStep.segment)).toList ++ rest)) =
          (Token.tokensFrom false ((Path.tailText
            ((first :: steps).map PathStep.segment)).toList ++ rest)).map (root.token :: ·) := by
      cases root with
      | word name => exact Token.tokensFrom_word rootSpelled stops
      | number digits =>
          have other : Path.beginsLikeDecimal
              (.key digits :: (first :: steps).map PathStep.segment) = false := by
            simpa [Phrase.expr, Expr.isFaithful, PathRoot.name] using faithful
          rw [PathRoot.name, Token.tokensFrom_integer rootSpelled.2 stops
            (fractionDigits_tailText valid.1 names other rest), String.ofList_toList]
          rfl
    rw [Phrase.expr, toList_toText_binding, head, tail, Option.map_map]
    rfl

/-- What is left of a key behind its digits is a word or nothing. -/
theorem exists_tokensFrom_letters {chars : List Char}
    (all : ∀ char ∈ chars, Text.isWordChar char = true)
    (noDigit : Text.Stops Char.isDigit chars) :
    ∃ word, Token.weights word = 0 ∧ ∀ rest, Text.Stops Text.isWordChar rest →
      Token.tokensFrom false (chars ++ rest) = (Token.tokensFrom false rest).map (word ++ ·) := by
  cases chars with
  | nil => exact ⟨[], rfl, fun rest _ => Option.map_id'.symm⟩
  | cons char others =>
      have other := noDigit char rfl
      exact ⟨[.word (String.ofList (char :: others))], rfl,
        fun rest stops => Token.tokensFrom_letters (.inr other) all stops⟩

theorem stops_dropWhile_append {chars rest : List Char} (stops : Text.Stops Char.isDigit rest) :
    Text.Stops Char.isDigit (chars.dropWhile Char.isDigit ++ rest) := by
  intro char first
  cases shape : chars.dropWhile Char.isDigit with
  | nil =>
      rw [shape] at first
      exact stops char first
  | cons other others =>
      rw [shape] at first
      exact Text.stops_dropWhile Char.isDigit chars char (by rw [shape]; exact first)

/-- Digits that run together with a key are read as a decimal, and a point is missing. -/
theorem exists_readsAs_decimalPath (depth : Nat) {digits name : String} {steps : List PathStep}
    (names : KeysAreNames (.key name :: steps)) (unfaithful : Path.beginsLikeDecimal
      (.key digits :: (PathStep.key name :: steps).map PathStep.segment) = true) :
    ∃ own, ReadsAs depth (.binding
      (.key digits :: (PathStep.key name :: steps).map PathStep.segment)) own := by
  obtain ⟨-, all⟩ := Text.isName_iff.mp (names name List.mem_cons_self)
  have tailNames : KeysAreNames steps :=
    fun other member => names other (List.mem_cons_of_mem _ member)
  rw [List.map_cons, PathStep.segment, Path.beginsLikeDecimal, Bool.and_eq_true] at unfaithful
  obtain ⟨numeral, digit⟩ := unfaithful
  let fraction := name.toList.takeWhile Char.isDigit
  let letters := name.toList.dropWhile Char.isDigit
  let tail := (Path.tailText (steps.map PathStep.segment)).toList
  have decimal : Text.IsDecimal (digits.toList ++ '.' :: fraction) := by
    refine ⟨[], digits.toList, fraction, .inl rfl, numeral, ?_, rfl⟩
    cases shape : name.toList with
    | nil =>
        rw [shape] at digit
        contradiction
    | cons char others =>
        rw [shape] at digit
        have numeral := Text.isNumeral_takeWhile digit others
        rwa [← shape] at numeral
  obtain ⟨word, weightless, readLetters⟩ := exists_tokensFrom_letters
    (fun char member => all char ((List.dropWhile_sublist Char.isDigit).mem member))
    (Text.stops_dropWhile Char.isDigit name.toList)
  refine ⟨some (.decimal (String.ofList (digits.toList ++ '.' :: fraction)) ::
    (word ++ (steps.map PathStep.rewritten).flatMap PathStep.tokens)), ?_, ?_, ?_⟩
  · intro rest ends
    have stops := stops_tailText (steps.map PathStep.segment) ends.stops
    have split : name.toList = fraction ++ letters := List.takeWhile_append_dropWhile.symm
    have text : (Expr.binding (.key digits ::
        (PathStep.key name :: steps).map PathStep.segment)).toText.toList ++ rest =
          digits.toList ++ '.' :: fraction ++ (letters ++ (tail ++ rest)) := by
      rw [toList_toText_binding]
      simp only [List.map_cons, PathStep.segment, Path.tailText, String.toList_append, split,
        List.append_assoc]
      rfl
    rw [text, Token.tokensFrom_decimal decimal (stops_dropWhile_append stops.isDigit),
      readLetters _ stops, Token.tokensFrom_tailText tailNames ends.stops, Option.map_map,
      Option.map_map]
    simp [Function.comp_def]
  · intro faithful
    rw [Expr.isFaithful, List.map_cons, PathStep.segment, Path.beginsLikeDecimal, numeral,
      digit] at faithful
    contradiction
  · rintro tokens found
    cases found
    have weight : Token.weights (.decimal (String.ofList (digits.toList ++ '.' :: fraction)) ::
        (word ++ (steps.map PathStep.rewritten).flatMap PathStep.tokens)) =
          1 + Path.weight (steps.map PathStep.segment) := by
      rw [Token.weights_cons, Token.weights_append, weightless, Nat.zero_add,
        Phrase.weights_steps, PathStep.map_segment_rewritten]
      rfl
    have total : (Expr.binding (.key digits ::
        (PathStep.key name :: steps).map PathStep.segment)).weight =
          2 + Path.weight (steps.map PathStep.segment) := rfl
    rw [weight, total]
    exact ⟨by omega, by omega⟩

end LiveBinding
