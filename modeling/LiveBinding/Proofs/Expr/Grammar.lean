import LiveBinding.Proofs.Expr.Derivation

/-!
# The reader of expressions and its grammar

A text is read as an expression exactly when its tokens are those of a phrase that denotes it.  The
tokens leave no choice among phrases.
-/

namespace LiveBinding.Parser

/-! ### The tokens leave no choice -/

theorem eq_of_stepTokens {left right : List PathStep} {leftRest rightRest : List Token}
    (leftEnds : continuesPath leftRest = false) (rightEnds : continuesPath rightRest = false)
    (same : left.flatMap PathStep.tokens ++ leftRest =
      right.flatMap PathStep.tokens ++ rightRest) : left = right ∧ leftRest = rightRest := by
  induction left generalizing right with
  | nil =>
      cases right with
      | nil => exact ⟨rfl, same⟩
      | cons step steps =>
          rw [List.flatMap_nil, List.nil_append] at same
          rw [same, continuesPath_steps] at leftEnds
          contradiction
  | cons step steps ih =>
      cases right with
      | nil =>
          rw [List.flatMap_nil, List.nil_append] at same
          rw [← same, continuesPath_steps] at rightEnds
          contradiction
      | cons other others =>
          rw [List.flatMap_cons, List.flatMap_cons, List.append_assoc, List.append_assoc] at same
          cases step with
          | key name =>
              cases other with
              | key otherName =>
                  simp only [PathStep.tokens, List.cons_append, List.nil_append, List.cons.injEq,
                    Token.word.injEq, true_and] at same
                  obtain ⟨rfl, same⟩ := same
                  obtain ⟨rfl, rests⟩ := ih same
                  exact ⟨rfl, rests⟩
              | index => simp [PathStep.tokens] at same
          | index digits =>
              cases other with
              | key => simp [PathStep.tokens] at same
              | index otherDigits =>
                  simp only [PathStep.tokens, List.cons_append, List.nil_append, List.cons.injEq,
                    Token.integer.injEq, true_and] at same
                  obtain ⟨rfl, same⟩ := same
                  obtain ⟨rfl, rests⟩ := ih same
                  exact ⟨rfl, rests⟩

theorem eq_string_of_tokens {phrase : Phrase} {text : String} {rest left : List Token}
    (same : phrase.tokens ++ rest = .string text :: left) :
    phrase = .string text ∧ rest = left := by
  cases phrase with
  | string => simpa [Phrase.tokens] using same
  | path root => cases root <;> simp [Phrase.tokens, PathRoot.token] at same
  | call name arguments => cases arguments <;> simp [Phrase.tokens] at same
  | _ => simp [Phrase.tokens] at same

theorem eq_decimal_of_tokens {phrase : Phrase} {digits : String} {rest left : List Token}
    (same : phrase.tokens ++ rest = .decimal digits :: left) :
    phrase = .decimal digits ∧ rest = left := by
  cases phrase with
  | decimal => simpa [Phrase.tokens] using same
  | path root => cases root <;> simp [Phrase.tokens, PathRoot.token] at same
  | call name arguments => cases arguments <;> simp [Phrase.tokens] at same
  | _ => simp [Phrase.tokens] at same

/-- A phrase that begins with digits is a number, or a path if it goes on as one. -/
theorem cases_of_integer {phrase : Phrase} {digits : String} {rest left : List Token}
    (same : phrase.tokens ++ rest = .integer digits :: left) :
    (phrase = .integer digits ∧ rest = left) ∨
      ∃ first steps, phrase = .path (.number digits) first steps ∧
        (first :: steps).flatMap PathStep.tokens ++ rest = left := by
  cases phrase with
  | integer => exact .inl (by simpa [Phrase.tokens] using same)
  | path root first steps =>
      cases root with
      | word => simp [Phrase.tokens, PathRoot.token] at same
      | number =>
          rw [Phrase.tokens, List.cons_append, PathRoot.token, List.cons.injEq,
            Token.integer.injEq] at same
          obtain ⟨rfl, rests⟩ := same
          exact .inr ⟨first, steps, rfl, rests⟩
  | call name arguments => cases arguments <;> simp [Phrase.tokens] at same
  | _ => simp [Phrase.tokens] at same

/-- A phrase that begins with a word is this word, or a path, or a call. -/
theorem cases_of_word {phrase : Phrase} {name : String} {rest left : List Token}
    (same : phrase.tokens ++ rest = .word name :: left) :
    (phrase = .word name ∧ rest = left) ∨
      (∃ first steps, phrase = .path (.word name) first steps ∧
        (first :: steps).flatMap PathStep.tokens ++ rest = left) ∨
      ∃ arguments others, phrase = .call name arguments ∧ left = .openParen :: others := by
  cases phrase with
  | word => exact .inl (by simpa [Phrase.tokens] using same)
  | path root first steps =>
      cases root with
      | number => simp [Phrase.tokens, PathRoot.token] at same
      | word =>
          rw [Phrase.tokens, List.cons_append, PathRoot.token, List.cons.injEq,
            Token.word.injEq] at same
          obtain ⟨rfl, rests⟩ := same
          exact .inr (.inl ⟨first, steps, rfl, rests⟩)
  | call callee arguments =>
      right
      right
      cases arguments with
      | nil =>
          simp only [Phrase.tokens, List.cons_append, List.cons.injEq, Token.word.injEq] at same
          obtain ⟨rfl, rfl⟩ := same
          exact ⟨[], _, rfl, rfl⟩
      | cons first later =>
          simp only [Phrase.tokens, List.cons_append, List.cons.injEq, Token.word.injEq] at same
          obtain ⟨rfl, rfl⟩ := same
          exact ⟨first :: later, _, rfl, rfl⟩
  | _ => simp [Phrase.tokens] at same

/-- Where a path cannot go on there are no steps. -/
theorem steps_ne_of_stops {first : PathStep} {steps : List PathStep} {rest other : List Token}
    (stops : continuesPath other = false) :
    (first :: steps).flatMap PathStep.tokens ++ rest ≠ other := by
  rintro rfl
  rw [continuesPath_steps] at stops
  contradiction

theorem endsPhrase_argumentTokens (arguments : List Phrase) (rest : List Token) :
    EndsPhrase (Phrase.tokens.argumentTokens arguments ++ .closeParen :: rest) := by
  cases arguments <;> trivial

mutual

/-- Phrases with the same tokens are the same. -/
theorem eq_of_tokens : (left right : Phrase) → ∀ {leftRest rightRest : List Token},
    EndsPhrase leftRest → EndsPhrase rightRest →
      left.tokens ++ leftRest = right.tokens ++ rightRest → left = right ∧ leftRest = rightRest
  | .string text, right, leftRest, rightRest, leftEnds, rightEnds, same => by
      obtain ⟨rfl, rfl⟩ := eq_string_of_tokens same.symm
      exact ⟨rfl, rfl⟩
  | .decimal digits, right, leftRest, rightRest, leftEnds, rightEnds, same => by
      obtain ⟨rfl, rfl⟩ := eq_decimal_of_tokens same.symm
      exact ⟨rfl, rfl⟩
  | .integer digits, right, leftRest, rightRest, leftEnds, rightEnds, same => by
      obtain ⟨rfl, rfl⟩ | ⟨first, steps, rfl, rests⟩ := cases_of_integer same.symm
      · exact ⟨rfl, rfl⟩
      · exact absurd rests (steps_ne_of_stops leftEnds.continuesPath)
  | .word name, right, leftRest, rightRest, leftEnds, rightEnds, same => by
      obtain ⟨rfl, rfl⟩ | ⟨first, steps, rfl, rests⟩ | ⟨arguments, others, rfl, rests⟩ :=
        cases_of_word same.symm
      · exact ⟨rfl, rfl⟩
      · exact absurd rests (steps_ne_of_stops leftEnds.continuesPath)
      · rw [List.append_eq, List.nil_append] at rests
        rw [rests] at leftEnds
        contradiction
  | .path (.number digits) first steps, right, leftRest, rightRest, leftEnds, rightEnds, same => by
      obtain ⟨rfl, rests⟩ | ⟨other, others, rfl, rests⟩ := cases_of_integer same.symm
      · exact absurd rests.symm (steps_ne_of_stops rightEnds.continuesPath)
      · obtain ⟨sameSteps, sameRest⟩ :=
          eq_of_stepTokens leftEnds.continuesPath rightEnds.continuesPath rests.symm
        cases sameSteps
        exact ⟨rfl, sameRest⟩
  | .path (.word name) first steps, right, leftRest, rightRest, leftEnds, rightEnds, same => by
      obtain ⟨rfl, rests⟩ | ⟨other, others, rfl, rests⟩ | ⟨arguments, others, rfl, rests⟩ :=
        cases_of_word same.symm
      · exact absurd rests.symm (steps_ne_of_stops rightEnds.continuesPath)
      · obtain ⟨sameSteps, sameRest⟩ :=
          eq_of_stepTokens leftEnds.continuesPath rightEnds.continuesPath rests.symm
        cases sameSteps
        exact ⟨rfl, sameRest⟩
      · exact absurd rests (steps_ne_of_stops rfl)
  | .call name [], right, leftRest, rightRest, leftEnds, rightEnds, same => by
      obtain ⟨rfl, rests⟩ | ⟨other, others, rfl, rests⟩ | ⟨arguments, others, rfl, -⟩ :=
        cases_of_word same.symm
      · rw [rests] at rightEnds
        contradiction
      · exact absurd rests (steps_ne_of_stops rfl)
      · cases arguments with
        | nil =>
            simp only [Phrase.tokens, List.cons_append, List.nil_append, List.cons.injEq,
              true_and] at same
            exact ⟨rfl, same⟩
        | cons first later =>
            simp only [Phrase.tokens, List.cons_append, List.nil_append, List.append_assoc,
              List.cons.injEq, true_and] at same
            exact absurd (.inr (by rw [← same]; rfl)) (not_missesArgument first _)
  | .call name (first :: later), right, leftRest, rightRest, leftEnds, rightEnds, same => by
      obtain ⟨rfl, rests⟩ | ⟨other, others, rfl, rests⟩ | ⟨arguments, others, rfl, -⟩ :=
        cases_of_word same.symm
      · rw [rests] at rightEnds
        contradiction
      · exact absurd rests (steps_ne_of_stops rfl)
      · cases arguments with
        | nil =>
            simp only [Phrase.tokens, List.cons_append, List.nil_append, List.append_assoc,
              List.cons.injEq, true_and] at same
            exact absurd (.inr (by rw [same]; rfl)) (not_missesArgument first _)
        | cons other others =>
            simp only [Phrase.tokens, List.cons_append, List.nil_append, List.append_assoc,
              List.cons.injEq, true_and] at same
            obtain ⟨rfl, rests⟩ := eq_of_tokens first other
              (endsPhrase_argumentTokens later leftRest)
              (endsPhrase_argumentTokens others rightRest) same
            obtain ⟨rfl, sameRest⟩ := eq_of_argumentTokens later others rests
            exact ⟨rfl, sameRest⟩
termination_by left => sizeOf left

theorem eq_of_argumentTokens : (left right : List Phrase) → ∀ {leftRest rightRest : List Token},
    Phrase.tokens.argumentTokens left ++ .closeParen :: leftRest =
      Phrase.tokens.argumentTokens right ++ .closeParen :: rightRest →
        left = right ∧ leftRest = rightRest
  | [], [], leftRest, rightRest, same => by
      simp only [Phrase.tokens.argumentTokens, List.nil_append, List.cons.injEq, true_and] at same
      exact ⟨rfl, same⟩
  | [], right :: rights, leftRest, rightRest, same => by
      simp [Phrase.tokens.argumentTokens] at same
  | left :: lefts, [], leftRest, rightRest, same => by
      simp [Phrase.tokens.argumentTokens] at same
  | left :: lefts, right :: rights, leftRest, rightRest, same => by
      simp only [Phrase.tokens.argumentTokens, List.cons_append, List.append_assoc,
        List.cons.injEq, true_and] at same
      obtain ⟨rfl, rests⟩ := eq_of_tokens left right (endsPhrase_argumentTokens lefts leftRest)
        (endsPhrase_argumentTokens rights rightRest) same
      obtain ⟨rfl, sameRest⟩ := eq_of_argumentTokens lefts rights rests
      exact ⟨rfl, sameRest⟩
termination_by left => sizeOf left

end

/-! ### Whole texts -/

theorem complete_eq_ok_iff {α : Type} {input : List Token} {outcome : Outcome α input}
    {found : α} :
    complete (outcome.map (·.val)) = .ok found ↔ Reads outcome found [] := by
  cases outcome with
  | error failure => simp [Except.map, complete]
  | ok out =>
      obtain ⟨⟨other, left⟩, shorter⟩ := out
      rw [reads_ok]
      cases left with
      | nil => simp [Except.map, complete]
      | cons token left => simp [Except.map, complete, failAt]

/-- Tokens as a text has them are read as an expression exactly if a phrase has them. -/
theorem expr_eq_ok_iff {tokens : List Token} {found : Expr}
    (spelled : Token.AreSpelled false tokens) :
    expr tokens = .ok found ↔
      ∃ phrase : Phrase, phrase.IsValid 0 ∧ phrase.tokens = tokens ∧ phrase.expr = found := by
  have reads : expr tokens = .ok found ↔ Reads (exprFrom 0 tokens) found [] := by
    rw [expr]
    split
    · next empty =>
        cases empty
        rw [exprFrom]
        exact iff_of_false nofun (not_reads_error _)
    · exact complete_eq_ok_iff
  rw [reads]
  constructor
  · intro read
    obtain ⟨phrase, valid, tokens, denotes, -⟩ := exprFrom_sound 0 tokens read spelled
    rw [List.append_nil] at tokens
    exact ⟨phrase, valid, tokens, denotes⟩
  · rintro ⟨phrase, valid, rfl, rfl⟩
    have read : Reads (exprFrom 0 (phrase.tokens ++ [])) phrase.expr [] :=
      exprFrom_reads phrase valid spelled trivial
    rw [List.append_nil] at read
    exact read

end LiveBinding.Parser

namespace LiveBinding

/-- A phrase derives a text if it has the tokens of the text and the grammar allows it. -/
def Phrase.Derives (phrase : Phrase) (text : String) : Prop :=
  (Token.lex text).map TokenStream.tokens = .ok phrase.tokens ∧ phrase.IsValid 0

instance (phrase : Phrase) (text : String) : Decidable (phrase.Derives text) :=
  inferInstanceAs (Decidable (_ ∧ _))

theorem Phrase.Derives.areSpelled {phrase : Phrase} {text : String}
    (derives : phrase.Derives text) : Token.AreSpelled false phrase.tokens := by
  have tokens := derives.1
  cases lexed : Token.lex text with
  | error =>
      rw [lexed] at tokens
      contradiction
  | ok stream =>
      rw [lexed] at tokens
      rw [← Except.ok.inj tokens]
      exact Token.areSpelled_of_lex lexed

/-- Phrases that derive the same text are the same. -/
theorem Phrase.eq_of_derives {left right : Phrase} {text : String}
    (leftDerives : left.Derives text) (rightDerives : right.Derives text) : left = right := by
  have tokens : left.tokens = right.tokens :=
    Except.ok.inj (leftDerives.1.symm.trans rightDerives.1)
  have atEnd : Parser.EndsPhrase [] := trivial
  exact (Parser.eq_of_tokens left right atEnd atEnd (by rw [tokens])).1

/-- A text is read as an expression exactly if a phrase that denotes it derives the text. -/
theorem Expr.read_eq_ok_iff {text : String} {expr : Expr} :
    Expr.read text = .ok expr ↔ ∃ phrase : Phrase, phrase.Derives text ∧ phrase.expr = expr := by
  cases lexed : Token.lex text with
  | error =>
      simp only [Expr.read, Parser.readText, Phrase.Derives, lexed, Except.map, reduceCtorEq,
        false_and, exists_false]
  | ok stream =>
      have derives : (∃ phrase : Phrase, phrase.Derives text ∧ phrase.expr = expr) ↔
          Parser.expr stream.tokens = .ok expr := by
        rw [Parser.expr_eq_ok_iff (Token.areSpelled_of_lex lexed)]
        refine exists_congr fun phrase => ?_
        rw [Phrase.Derives, lexed, Except.map, Except.ok.injEq, eq_comm, and_assoc,
          and_left_comm]
      rw [derives]
      cases read : Parser.expr stream.tokens with
      | error failure => simp only [Expr.read, Parser.readText, lexed, read, reduceCtorEq]
      | ok found => simp only [Expr.read, Parser.readText, lexed, read, Except.ok.injEq]

/-- What is read is never text that could not be read. -/
theorem Expr.isInvalid_of_read {text : String} {expr : Expr} (read : Expr.read text = .ok expr) :
    expr.isInvalid = false := by
  obtain ⟨phrase, -, rfl⟩ := Expr.read_eq_ok_iff.mp read
  exact phrase.isInvalid_expr

/-- Texts are read as the grammar says: a text is read as an expression exactly if the expression
is derived from it, and what is derived from a text is derived in one way only. -/
theorem Expr.read_eq_ok_iff_derives (text : String) :
    (∀ expr, Expr.read text = .ok expr ↔
      ∃ phrase : Phrase, phrase.Derives text ∧ phrase.expr = expr) ∧
        ∀ left right : Phrase, left.Derives text → right.Derives text → left = right := by
  constructor
  · intro expr
    exact read_eq_ok_iff
  · intro left right leftDerives rightDerives
    exact Phrase.eq_of_derives leftDerives rightDerives

/-- A call with a path and a literal is derived in just the expected way. -/
theorem Expr.read_eq_ok_iff_derives_call :
    Expr.read "add(a[0].b, 2)" =
        .ok (.call "add" [.binding [.key "a", .index 0, .key "b"], .literal (.int 2)]) ∧
      ∀ phrase : Phrase, phrase.Derives "add(a[0].b, 2)" →
        phrase = .call "add" [.path (.word "a") (.index "0") [.key "b"], .integer "2"] := by
  have derives : (Phrase.call "add" [.path (.word "a") (.index "0") [.key "b"],
      .integer "2"]).Derives "add(a[0].b, 2)" := by decide +kernel
  have read := read_eq_ok_iff_derives "add(a[0].b, 2)"
  exact ⟨(read.1 _).mpr ⟨_, derives, by decide +kernel⟩,
    fun phrase other => read.2 phrase _ other derives⟩

end LiveBinding
