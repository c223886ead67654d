import LiveBinding.Proofs.Expr.Recognition

/-!
# What is read is a phrase

Whatever the reader takes for an expression is spelled by a phrase that the grammar allows and that
denotes the expression.  The proof follows the reader from token to token.  It needs that the
tokens are spelled as those of a text, where a key behind a point is never a number.
-/

namespace LiveBinding.Parser

@[simp] theorem reads_ok {α : Type} {input rest : List Token} {found : α}
    (out : { out : α × List Token // out.2.length < input.length }) :
    Reads (.ok out) found rest ↔ out.val = (found, rest) := by
  constructor
  · rintro ⟨other, same, value⟩
    cases same
    exact value
  · exact fun value => ⟨out, rfl, value⟩

@[simp] theorem not_reads_error {α : Type} {input rest : List Token} {found : α}
    (failure : Failure) : ¬Reads (.error failure : Outcome α input) found rest := by
  rintro ⟨out, impossible, -⟩
  contradiction

/-- Digits without a sign are all that a name in digits may be. -/
theorem isNumeral_of_key? {digits name : String} (integer : Text.IsInteger digits.toList)
    (key : key? (.integer digits) = some name) :
    Text.isNumeral digits.toList = true ∧ name = digits := by
  obtain ⟨sign, whole, isSign, numeral, spelling⟩ := integer
  rw [key?] at key
  obtain rfl | rfl := isSign
  · rw [spelling, List.nil_append]
    split at key
    · contradiction
    · cases key
      exact ⟨numeral, rfl⟩
  · rw [spelling] at key
    contradiction

/-- What is read as the tail of a path is spelled by steps, and goes as far as it can. -/
theorem pathTail_sound {input rest : List Token} {path : Path}
    (read : pathTail input = .ok (path, rest)) (spelled : Token.AreSpelled false input) :
    ∃ steps : List PathStep, (∀ step ∈ steps, step.IsValid) ∧
      steps.flatMap PathStep.tokens ++ rest = input ∧ steps.map PathStep.segment = path ∧
        continuesPath rest = false ∧ Token.AreSpelled false rest := by
  fun_induction pathTail input generalizing path rest with
  | case1 token others name key ih =>
      obtain ⟨-, tokenSpelled, othersSpelled⟩ := spelled
      cases tail : pathTail others with
      | error => simp [tail, Except.map] at read
      | ok out =>
          simp only [tail, Except.map, Except.ok.injEq, Prod.mk.injEq] at read
          obtain ⟨rfl, rfl⟩ := read
          cases token with
          | word text =>
              cases key
              obtain ⟨steps, valid, tokens, segments, stops, left⟩ := ih tail othersSpelled
              refine ⟨.key name :: steps, ?_, ?_, ?_, stops, left⟩
              · exact List.forall_mem_cons.mpr ⟨trivial, valid⟩
              · rw [List.flatMap_cons, List.append_assoc, tokens]
                rfl
              · rw [List.map_cons, segments]
                rfl
          | integer digits => exact absurd tokenSpelled.1 (by simp)
          | _ => contradiction
  | case5 digits position found others ih =>
      obtain ⟨-, -, -, othersSpelled⟩ := spelled
      obtain ⟨valid, value⟩ := index?_eq_some_iff.mp found
      cases tail : pathTail others with
      | error => simp [tail, Except.map] at read
      | ok out =>
          simp only [tail, Except.map, Except.ok.injEq, Prod.mk.injEq] at read
          obtain ⟨rfl, rfl⟩ := read
          obtain ⟨steps, stepsValid, tokens, segments, stops, left⟩ := ih tail othersSpelled
          refine ⟨.index digits :: steps, ?_, ?_, ?_, stops, left⟩
          · exact List.forall_mem_cons.mpr ⟨valid, stepsValid⟩
          · rw [List.flatMap_cons, List.append_assoc, tokens]
            rfl
          · rw [List.map_cons, segments, PathStep.segment, value]
  | case8 input noKey noDot noIndex noBracket =>
      cases read
      refine ⟨[], by simp, rfl, rfl, ?_, spelled⟩
      unfold continuesPath
      split
      · next others =>
          cases others with
          | nil => exact absurd rfl noDot
          | cons token others => exact absurd rfl (noKey token others)
      · next others => exact absurd rfl (noBracket others)
      · rfl
  | _ => contradiction

/-- What was read is spelled by a phrase in front of what is left. -/
def IsPhrase (depth : Nat) (input : List Token) (expr : Expr) (rest : List Token) : Prop :=
  ∃ phrase : Phrase, phrase.IsValid depth ∧ phrase.tokens ++ rest = input ∧ phrase.expr = expr ∧
    Token.AreSpelled false rest

theorem bindingFrom_sound {name : String} {first : Token} {rest left : List Token} {expr : Expr}
    (reads : Reads (bindingFrom name first rest) expr left)
    (spelled : Token.AreSpelled false rest) :
    ∃ steps : List PathStep, (∀ step ∈ steps, step.IsValid) ∧
      steps.flatMap PathStep.tokens ++ left = rest ∧
        .binding (.key name :: steps.map PathStep.segment) = expr ∧
          continuesPath left = false ∧ Token.AreSpelled false left := by
  unfold bindingFrom at reads
  split at reads
  · exact absurd reads (not_reads_error _)
  · next out tail =>
      rw [reads_ok, Prod.mk.injEq] at reads
      obtain ⟨rfl, rfl⟩ := reads
      obtain ⟨steps, valid, tokens, segments, stops, leftSpelled⟩ := pathTail_sound tail spelled
      exact ⟨steps, valid, tokens, by rw [segments], stops, leftSpelled⟩

/-- A path that goes on behind its root is a path of at least two steps. -/
theorem isPhrase_of_binding {depth : Nat} (root : PathRoot) {first : Token}
    {rest left : List Token} {expr : Expr} (rootValid : root.IsValid)
    (goesOn : continuesPath rest = true)
    (reads : Reads (bindingFrom root.name first rest) expr left)
    (spelled : Token.AreSpelled false rest) : IsPhrase depth (root.token :: rest) expr left := by
  obtain ⟨steps, valid, tokens, denotes, stops, leftSpelled⟩ := bindingFrom_sound reads spelled
  cases steps with
  | nil =>
      rw [List.flatMap_nil, List.nil_append] at tokens
      rw [tokens, goesOn] at stops
      contradiction
  | cons step steps =>
      refine ⟨.path root step steps, ⟨rootValid, valid⟩, ?_, denotes, leftSpelled⟩
      rw [Phrase.tokens, List.cons_append, tokens]

theorem wordFrom_sound {depth : Nat} {word : String} {rest left : List Token} {expr : Expr}
    (reads : Reads (wordFrom word rest) expr left) (spelled : Token.AreSpelled false rest) :
    IsPhrase depth (.word word :: rest) expr left := by
  unfold wordFrom at reads
  split at reads
  · next goesOn => exact isPhrase_of_binding (.word word) trivial goesOn reads spelled
  · next stopsHere =>
      have alone : ∀ {denoted : Expr}, Phrase.exprOfWord word = denoted →
          IsPhrase depth (.word word :: rest) denoted rest :=
        fun denotes => ⟨.word word, trivial, rfl, denotes, spelled⟩
      split at reads
      · next value keyword =>
          rw [literalFrom, reads_ok, Prod.mk.injEq] at reads
          obtain ⟨rfl, rfl⟩ := reads
          exact alone (by rw [Phrase.exprOfWord_eq, keyword]; rfl)
      · next noKeyword =>
          obtain ⟨steps, -, tokens, rfl, -, -⟩ := bindingFrom_sound reads spelled
          cases steps with
          | nil =>
              rw [List.flatMap_nil, List.nil_append] at tokens
              rw [tokens]
              exact alone (by rw [Phrase.exprOfWord_eq, noKeyword]; rfl)
          | cons step steps =>
              rw [← tokens] at stopsHere
              exact absurd (continuesPath_steps step steps left) stopsHere

theorem integerFrom_sound {depth : Nat} {digits : String} {rest left : List Token} {expr : Expr}
    (reads : Reads (integerFrom digits rest) expr left)
    (spelled : Token.AreSpelled false (.integer digits :: rest)) :
    IsPhrase depth (.integer digits :: rest) expr left := by
  obtain ⟨⟨-, integer⟩, restSpelled⟩ := spelled
  unfold integerFrom at reads
  split at reads
  · next goesOn =>
      split at reads
      · next name key =>
          obtain ⟨numeral, rfl⟩ := isNumeral_of_key? integer key
          exact isPhrase_of_binding (.number name) numeral goesOn reads restSpelled
      · exact absurd reads (not_reads_error _)
  · split at reads
    · next value inRange =>
        rw [literalFrom, reads_ok, Prod.mk.injEq] at reads
        obtain ⟨rfl, rfl⟩ := reads
        refine ⟨.integer digits, ?_, rfl, ?_, restSpelled⟩
        · rw [Phrase.IsValid, inRange]
          rfl
        · rw [Phrase.expr, inRange]
          rfl
    · exact absurd reads (not_reads_error _)

/-- What was read is spelled by the phrases of some arguments and a closing parenthesis, in front
of what is left. -/
def ArePhrases (depth : Nat) (input : List Token) (arguments : List Expr) (rest : List Token) :
    Prop :=
  ∃ first later, Phrase.IsValid.AreValid depth (first :: later) ∧
    first.tokens ++ (Phrase.tokens.argumentTokens later ++ .closeParen :: rest) = input ∧
      Phrase.expr.exprs (first :: later) = arguments ∧ Token.AreSpelled false rest

/-- A call is spelled by a phrase if its arguments are. -/
theorem callFrom_sound {depth : Nat} {name : String} {others rest : List Token} {expr : Expr}
    (argumentsSound : ∀ {arguments : List Expr} {left : List Token},
      Reads (argumentsFrom (depth + 1) name others) arguments left →
        ArePhrases (depth + 1) others arguments left)
    (reads : Reads (exprFrom depth (.word name :: .openParen :: others)) expr rest)
    (spelled : Token.AreSpelled false others) :
    IsPhrase depth (.word name :: .openParen :: others) expr rest := by
  by_cases empty : others.head? = some .closeParen
  · obtain ⟨after, rfl⟩ := List.head?_eq_some_iff.mp empty
    rw [exprFrom] at reads
    split at reads
    · exact absurd reads (not_reads_error _)
    · next shallow =>
        rw [reads_ok, Prod.mk.injEq] at reads
        obtain ⟨rfl, rfl⟩ := reads
        have valid : (Phrase.call name []).IsValid depth :=
          Phrase.isValid_call_iff.mpr ⟨Nat.lt_of_not_le shallow, trivial⟩
        exact ⟨.call name [], valid, rfl, rfl, spelled.2⟩
  · rw [exprFrom] at reads
    · split at reads
      · exact absurd reads (not_reads_error _)
      · next shallow =>
          split at reads
          · exact absurd reads (not_reads_error _)
          · next arguments left shorter read =>
              rw [reads_ok, Prod.mk.injEq] at reads
              obtain ⟨rfl, rfl⟩ := reads
              obtain ⟨first, later, valid, tokens, denote, leftSpelled⟩ :=
                argumentsSound ⟨_, read, rfl⟩
              refine ⟨.call name (first :: later),
                Phrase.isValid_call_iff.mpr ⟨Nat.lt_of_not_le shallow, valid⟩, ?_, ?_, leftSpelled⟩
              · simp [Phrase.tokens, ← tokens]
              · rw [Phrase.expr, denote]
    · rintro after rfl
      exact empty rfl

mutual

/-- Whatever the reader takes for an expression is spelled by a phrase. -/
theorem exprFrom_sound (depth : Nat) : (input : List Token) → ∀ {expr : Expr}
    {rest : List Token}, Reads (exprFrom depth input) expr rest →
      Token.AreSpelled false input → IsPhrase depth input expr rest
  | [], expr, rest, reads, _ => by
      rw [exprFrom] at reads
      exact absurd reads (not_reads_error _)
  | .string text :: others, expr, rest, reads, spelled => by
      rw [exprFrom, literalFrom, reads_ok, Prod.mk.injEq] at reads
      obtain ⟨rfl, rfl⟩ := reads
      exact ⟨.string text, trivial, rfl, rfl, spelled.2⟩
  | .decimal digits :: others, expr, rest, reads, spelled => by
      rw [exprFrom, literalFrom, reads_ok, Prod.mk.injEq] at reads
      obtain ⟨rfl, rfl⟩ := reads
      have denotes : (Phrase.decimal digits).expr = .literal (.decimal (decimalOf digits)) := by
        rw [Phrase.expr, Phrase.decimalOf_eq_reader spelled.1.2]
      exact ⟨.decimal digits, trivial, rfl, denotes, spelled.2⟩
  | .integer digits :: others, expr, rest, reads, spelled => by
      rw [exprFrom] at reads
      exact integerFrom_sound reads spelled
  | .word name :: others, expr, rest, reads, spelled => by
      by_cases call : others.head? = some .openParen
      · obtain ⟨after, same⟩ := List.head?_eq_some_iff.mp call
        have shorter : after.length < others.length := by
          rw [same]
          exact Nat.lt_succ_self _
        have afterSpelled : Token.AreSpelled false after := by
          rw [same] at spelled
          exact spelled.2.2
        rw [same] at reads ⊢
        exact callFrom_sound (fun readsArguments =>
          argumentsFrom_sound (depth + 1) name after readsArguments afterSpelled) reads afterSpelled
      · rw [exprFrom] at reads
        · exact wordFrom_sound reads spelled.2
        · rintro after rfl
          exact call rfl
        · rintro after rfl
          exact call rfl
  | .openParen :: others, expr, rest, reads, _ | .closeParen :: others, expr, rest, reads, _
  | .openBracket :: others, expr, rest, reads, _ | .closeBracket :: others, expr, rest, reads, _
  | .comma :: others, expr, rest, reads, _ | .dot :: others, expr, rest, reads, _
  | .star :: others, expr, rest, reads, _ => by
      rw [exprFrom] at reads
      · exact absurd reads (not_reads_error _)
      all_goals nofun
termination_by input => 2 * input.length
decreasing_by
  simp only [List.length_cons]
  omega

/-- Whatever the reader takes for arguments is spelled by phrases with commas between them. -/
theorem argumentsFrom_sound (depth : Nat) (name : String) (input : List Token)
    {arguments : List Expr} {rest : List Token}
    (reads : Reads (argumentsFrom depth name input) arguments rest)
    (spelled : Token.AreSpelled false input) : ArePhrases depth input arguments rest := by
  rw [argumentsFrom] at reads
  split at reads
  · exact absurd reads (not_reads_error _)
  · split at reads
    · exact absurd reads (not_reads_error _)
    · next argument left shorter read =>
        obtain ⟨first, valid, tokens, rfl, leftSpelled⟩ :=
          exprFrom_sound depth input ⟨_, read, rfl⟩ spelled
        split at reads
        · next others shorter =>
            have decreases : others.length < input.length := Nat.lt_of_succ_lt shorter
            split at reads
            · exact absurd reads (not_reads_error _)
            · next more left shorterMore readMore =>
                rw [reads_ok, Prod.mk.injEq] at reads
                obtain ⟨rfl, rfl⟩ := reads
                obtain ⟨second, later, laterValid, laterTokens, rfl, restSpelled⟩ :=
                  argumentsFrom_sound depth name others ⟨_, readMore, rfl⟩ leftSpelled.2
                refine ⟨first, second :: later, ⟨valid, laterValid⟩, ?_, rfl, restSpelled⟩
                rw [← tokens, ← laterTokens]
                simp [Phrase.tokens.argumentTokens]
        · next others shorter =>
            rw [reads_ok, Prod.mk.injEq] at reads
            obtain ⟨rfl, rfl⟩ := reads
            exact ⟨first, [], ⟨valid, trivial⟩, tokens, rfl, leftSpelled.2⟩
        · exact absurd reads (not_reads_error _)
        · exact absurd reads (not_reads_error _)
termination_by 2 * input.length + 1

end

end LiveBinding.Parser
