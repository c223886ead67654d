import LiveBinding.Expr.Parser
import LiveBinding.Proofs.Decimal.Text
import LiveBinding.Proofs.Expr.Phrase
import LiveBinding.Proofs.Expr.Spelling

/-!
# Phrases are read

The reserved words, the numbers and the limit of the grammar are those of the reader.  The reader of
expressions finds the expression of each phrase that the grammar allows, if the tokens of the phrase
are spelled as those of a text, and stops where the phrase ends.  The proof follows the phrase.
-/

namespace LiveBinding

namespace Phrase

/-- The words that are literals are the reserved words of the reader, with the same values. -/
theorem exprOfWord_eq (name : String) :
    exprOfWord name = (Parser.keyword? name).elim (.binding [.key name]) .literal := by
  rw [exprOfWord, Parser.keyword?]
  split
  · rfl
  · split
    · rfl
    · split <;> rfl

/-- The reader takes digits with a point among them for the number that they denote. -/
theorem decimalOf_eq_reader {digits : String} (decimal : Text.IsDecimal digits.toList) :
    decimalOf digits = Parser.decimalOf digits := by
  obtain ⟨negative, whole, fraction, wholeDigits, fractionDigits, spelling⟩ :=
    decimal.exists_signText
  rw [decimalOf_eq negative wholeDigits fractionDigits spelling, Parser.decimalOf,
    Decimal.ofText?_eq negative wholeDigits fractionDigits spelling, Option.getD_some]

/-- Calls may be nested as deeply as the reader follows them. -/
theorem isValid_call_iff {depth : Nat} {name : String} {arguments : List Phrase} :
    (call name arguments).IsValid depth ↔
      depth < Expr.maxNesting ∧ IsValid.AreValid (depth + 1) arguments :=
  Iff.rfl

end Phrase

namespace Parser

/-- A phrase ends at the end of a text, and before what ends an argument. -/
def EndsPhrase : List Token → Prop
  | [] => True
  | .comma :: _ => True
  | .closeParen :: _ => True
  | _ => False

theorem EndsPhrase.continuesPath {rest : List Token} (ends : EndsPhrase rest) :
    continuesPath rest = false := by
  unfold EndsPhrase at ends
  split at ends
  · rfl
  · rfl
  · rfl
  · contradiction

theorem index?_eq_some_iff {digits : String} {position : Nat} :
    index? digits = some position ↔
      (PathStep.index digits).IsValid ∧ Text.readNat digits.toList = position := by
  unfold index? PathStep.IsValid
  split
  · next numeral =>
      dsimp only
      split
      · next inRange => simp [numeral, inRange]
      · next outOfRange => simp [outOfRange]
  · next other => simp [other]

theorem key?_integer {digits : String} (numeral : Text.isNumeral digits.toList = true) :
    key? (.integer digits) = some digits := by
  obtain ⟨-, isDigit⟩ := Text.isNumeral_iff.mp numeral
  rw [key?, if_neg]
  intro minus
  have := isDigit '-' (List.mem_of_mem_head? minus)
  contradiction

/-- The tail of a path is read to its end. -/
theorem pathTail_tokens {steps : List PathStep} (valid : ∀ step ∈ steps, step.IsValid)
    {rest : List Token} (ends : continuesPath rest = false) :
    pathTail (steps.flatMap PathStep.tokens ++ rest) = .ok (steps.map PathStep.segment, rest) := by
  induction steps with
  | nil =>
      rw [List.flatMap_nil, List.nil_append]
      unfold pathTail
      split
      all_goals first | rfl | contradiction
  | cons step steps ih =>
      have later := ih fun other member => valid other (List.mem_cons_of_mem step member)
      cases step with
      | key name =>
          rw [List.flatMap_cons, PathStep.tokens, List.append_assoc]
          simp only [List.cons_append, List.nil_append, pathTail, key?, later, Except.map]
          rfl
      | index digits =>
          have read := index?_eq_some_iff.mpr ⟨valid _ List.mem_cons_self, rfl⟩
          rw [List.flatMap_cons, PathStep.tokens, List.append_assoc]
          simp only [List.cons_append, List.nil_append, pathTail, read, later, Except.map]
          rfl

/-- A reader answers so much and leaves the rest. -/
def Reads {α : Type} {input : List Token} (outcome : Outcome α input) (found : α)
    (rest : List Token) : Prop :=
  ∃ out, outcome = .ok out ∧ out.val = (found, rest)

theorem bindingFrom_reads {name : String} {first : Token} {rest left : List Token}
    {path : Path} (read : pathTail rest = .ok (path, left)) :
    Reads (bindingFrom name first rest) (.binding (.key name :: path)) left := by
  unfold bindingFrom
  split
  · next failed =>
      rw [read] at failed
      contradiction
  · next out found =>
      rw [read] at found
      cases found
      exact ⟨_, rfl, rfl⟩

theorem pathTail_of_ends {rest : List Token} (ends : EndsPhrase rest) :
    pathTail rest = .ok ([], rest) := by
  have noStep : ∀ step ∈ ([] : List PathStep), step.IsValid := fun _ listed => nomatch listed
  exact pathTail_tokens noStep ends.continuesPath

theorem wordFrom_reads (word : String) {rest : List Token} (ends : EndsPhrase rest) :
    Reads (wordFrom word rest) (Phrase.exprOfWord word) rest := by
  rw [Phrase.exprOfWord_eq]
  unfold wordFrom
  rw [if_neg (by rw [ends.continuesPath]; exact Bool.false_ne_true)]
  cases keyword? word with
  | none => exact bindingFrom_reads (pathTail_of_ends ends)
  | some value => exact ⟨_, rfl, rfl⟩

theorem continuesPath_steps (first : PathStep) (steps : List PathStep) (rest : List Token) :
    continuesPath ((first :: steps).flatMap PathStep.tokens ++ rest) = true := by
  cases first <;> rfl

/-- Whether an argument is missing where one is expected. -/
abbrev MissesArgument (input : List Token) : Prop :=
  input.head? = some .comma ∨ input.head? = some .closeParen

theorem not_missesArgument (phrase : Phrase) (rest : List Token) :
    ¬MissesArgument (phrase.tokens ++ rest) := by
  unfold Phrase.tokens
  cases phrase with
  | path root => cases root <;> exact nofun
  | call name arguments => cases arguments <;> exact nofun
  | _ => exact nofun

theorem argumentsFrom_reads_last {depth : Nat} {name : String} {input rest : List Token}
    {argument : Expr} (present : ¬MissesArgument input)
    (reads : Reads (exprFrom depth input) argument (.closeParen :: rest)) :
    Reads (argumentsFrom depth name input) [argument] rest := by
  obtain ⟨⟨⟨_, _⟩, shorter⟩, read, value⟩ := reads
  cases value
  rw [argumentsFrom, if_neg present]
  simp only [read]
  exact ⟨_, rfl, rfl⟩

theorem argumentsFrom_reads_more {depth : Nat} {name : String} {input more rest : List Token}
    {argument : Expr} {arguments : List Expr} (present : ¬MissesArgument input)
    (reads : Reads (exprFrom depth input) argument (.comma :: more))
    (readsMore : Reads (argumentsFrom depth name more) arguments rest) :
    Reads (argumentsFrom depth name input) (argument :: arguments) rest := by
  obtain ⟨⟨⟨_, _⟩, shorter⟩, read, value⟩ := reads
  cases value
  obtain ⟨⟨⟨_, _⟩, shorterMore⟩, readMore, valueMore⟩ := readsMore
  cases valueMore
  rw [argumentsFrom, if_neg present]
  simp only [read, readMore]
  exact ⟨_, rfl, rfl⟩

mutual

/-- The reader finds the expression of a phrase, and stops where the phrase ends. -/
theorem exprFrom_reads : (phrase : Phrase) → ∀ {depth : Nat} {rest : List Token},
    phrase.IsValid depth → Token.AreSpelled false phrase.tokens → EndsPhrase rest →
      Reads (exprFrom depth (phrase.tokens ++ rest)) phrase.expr rest
  | .string text, depth, rest, _, _, _ => by
      rw [Phrase.tokens, List.singleton_append, exprFrom]
      exact ⟨_, rfl, rfl⟩
  | .decimal digits, depth, rest, _, spelled, _ => by
      rw [Phrase.tokens, List.singleton_append, exprFrom, Phrase.expr,
        Phrase.decimalOf_eq_reader spelled.1.2]
      exact ⟨_, rfl, rfl⟩
  | .integer digits, depth, rest, valid, _, ends => by
      rw [Phrase.IsValid] at valid
      obtain ⟨value, read⟩ := Option.isSome_iff_exists.mp valid
      rw [Phrase.tokens, List.singleton_append, exprFrom, integerFrom,
        if_neg (by rw [ends.continuesPath]; exact Bool.false_ne_true)]
      simp only [read]
      refine ⟨_, rfl, ?_⟩
      rw [Phrase.expr, read]
      rfl
  | .word name, depth, rest, _, _, ends => by
      rw [Phrase.tokens, List.singleton_append, exprFrom]
      · exact wordFrom_reads name ends
      · rintro left rfl
        contradiction
      · rintro left rfl
        contradiction
  | .path root first steps, depth, rest, valid, _, ends => by
      obtain ⟨rootValid, stepsValid⟩ := valid
      have tail := pathTail_tokens stepsValid ends.continuesPath
      have goesOn := continuesPath_steps first steps rest
      rw [Phrase.tokens, List.cons_append, Phrase.expr]
      cases root with
      | word name =>
          rw [PathRoot.token, exprFrom]
          · rw [wordFrom, if_pos goesOn]
            exact bindingFrom_reads tail
          · cases first <;> nofun
          · cases first <;> nofun
      | number digits =>
          rw [PathRoot.token, exprFrom, integerFrom, if_pos goesOn]
          simp only [key?_integer rootValid]
          exact bindingFrom_reads tail
  | .call name [], depth, rest, valid, _, _ => by
      obtain ⟨shallow, -⟩ := Phrase.isValid_call_iff.mp valid
      rw [Phrase.tokens]
      simp only [List.cons_append, List.nil_append]
      rw [exprFrom, if_neg (Nat.not_le_of_lt shallow)]
      exact ⟨_, rfl, rfl⟩
  | .call name (first :: later), depth, rest, valid, spelled, _ => by
      obtain ⟨shallow, areValid⟩ := Phrase.isValid_call_iff.mp valid
      obtain ⟨⟨⟨_, _⟩, shorter⟩, read, value⟩ :=
        argumentsFrom_reads first later name rest areValid spelled.2.2
      cases value
      have shape : (Phrase.call name (first :: later)).tokens ++ rest = .word name :: .openParen ::
          (first.tokens ++ (Phrase.tokens.argumentTokens later ++ .closeParen :: rest)) := by
        simp [Phrase.tokens]
      rw [shape, exprFrom, if_neg (Nat.not_le_of_lt shallow)]
      · simp only [read]
        exact ⟨_, rfl, rfl⟩
      · intro left same
        exact not_missesArgument first _ (.inr (by rw [same]; rfl))
termination_by phrase => sizeOf phrase

/-- The reader finds the arguments of a call, and stops behind its parenthesis. -/
theorem argumentsFrom_reads : (first : Phrase) → (later : List Phrase) → ∀ {depth : Nat}
    (name : String) (rest : List Token), Phrase.IsValid.AreValid depth (first :: later) →
      Token.AreSpelled false
        (first.tokens ++ (Phrase.tokens.argumentTokens later ++ [.closeParen])) →
      Reads (argumentsFrom depth name
        (first.tokens ++ (Phrase.tokens.argumentTokens later ++ .closeParen :: rest)))
        (Phrase.expr.exprs (first :: later)) rest
  | first, [], depth, name, rest, valid, spelled => by
      refine argumentsFrom_reads_last (not_missesArgument first _) ?_
      exact exprFrom_reads first valid.1 spelled.append_left trivial
  | first, second :: more, depth, name, rest, valid, spelled => by
      have spelledMore := spelled.behind
      rw [List.append_eq, List.append_assoc] at spelledMore
      refine argumentsFrom_reads_more (not_missesArgument first _)
        (exprFrom_reads first valid.1 spelled.append_left trivial) ?_
      rw [List.append_eq, List.append_assoc]
      exact argumentsFrom_reads second more name rest valid.2 spelledMore
termination_by first later => 1 + sizeOf first + sizeOf later

end

end Parser

end LiveBinding
