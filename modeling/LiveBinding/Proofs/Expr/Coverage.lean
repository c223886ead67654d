import LiveBinding.Expr.Parser
import LiveBinding.Proofs.Expr.Layout

/-!
# Every character is accounted for

The lexer neither skips nor repeats a character.  What it finds is laid out in the text, at
positions that ascend up to the end.  Where it fails, no token begins, and the text in front of that
place can be read as tokens.  So every error that is reported, of the lexer or of a reader of
tokens, is placed in the text or at its end.
-/

namespace LiveBinding

/-! ### Positions -/

/-- The positions of the tokens, and that of the end behind them. -/
def TokenStream.offsets (stream : TokenStream) : List Nat :=
  stream.located.map (·.offset) ++ [stream.length]

namespace Token

theorem Layout.bounds {start : Nat} {afterDot : Bool} {located : List Located} {chars : List Char}
    (layout : Layout start afterDot located chars) :
    ∀ found ∈ located, start ≤ found.offset ∧ found.offset < start + chars.length := by
  induction layout with
  | blanks => exact List.forall_mem_nil _
  | @token start position afterDot token located blanks spelling rest _ place spelled written _ _
      ih =>
      have positive := List.length_pos_iff.mpr (ne_nil_of_isWritten spelled written)
      have total : (blanks ++ (spelling ++ rest)).length =
          blanks.length + (spelling.length + rest.length) := by
        rw [List.length_append, List.length_append]
      rw [List.forall_mem_cons]
      constructor
      · dsimp only
        omega
      · intro found member
        have := ih found member
        omega

/-- The positions of tokens ascend. -/
theorem Layout.pairwise {start : Nat} {afterDot : Bool} {located : List Located}
    {chars : List Char} (layout : Layout start afterDot located chars) :
    (located.map (·.offset)).Pairwise (· < ·) := by
  induction layout with
  | blanks => exact List.Pairwise.nil
  | @token start position _ _ _ _ spelling _ _ _ spelled written _ later ih =>
      have positive := List.length_pos_iff.mpr (ne_nil_of_isWritten spelled written)
      rw [List.map_cons, List.pairwise_cons]
      refine ⟨fun other member => ?_, ih⟩
      obtain ⟨found, listed, rfl⟩ := List.mem_map.mp member
      have := (later.bounds found listed).1
      dsimp only
      omega

end Token

theorem TokenStream.offsets_pairwise {text : String} {stream : TokenStream}
    (lexed : Token.lex text = .ok stream) : stream.offsets.Pairwise (· < ·) := by
  obtain ⟨layout, length⟩ := Token.lex_eq_ok_iff.mp lexed
  rw [offsets, List.pairwise_append]
  refine ⟨layout.pairwise, List.pairwise_singleton _ _, fun position member last isLast => ?_⟩
  obtain ⟨found, listed, rfl⟩ := List.mem_map.mp member
  rw [List.mem_singleton.mp isLast, length]
  have := (layout.bounds found listed).2
  omega

/-! ### Where the lexer fails -/

namespace Token

/-- Whether characters begin with a token that may stand behind a point or elsewhere. -/
def BeginsToken (afterDot : Bool) (chars : List Char) : Prop :=
  ∃ token spelling rest, chars = spelling ++ rest ∧ IsSpelled afterDot token ∧
    token.IsWritten spelling

/-- The two ways in which there is no next token. -/
theorem cases_of_next_error {afterDot : Bool} {char : Char} {rest : List Char}
    {cause : ParseError.Cause} (failed : next afterDot char rest = .error cause) :
    (char = '\'' ∧ stringBody rest = none ∧ cause = .unterminatedString) ∨
      (char ≠ '\'' ∧ mark? char = none ∧ Text.isWordChar char = false ∧
        (afterDot = false → number? (char :: rest) = none) ∧ cause = .unexpectedChar char) := by
  unfold next at failed
  split at failed
  · next quote =>
      split at failed
      · next unclosed =>
          cases failed
          exact .inl ⟨quote, unclosed, rfl⟩
      · contradiction
  · next noQuote =>
      split at failed
      · contradiction
      · next noNumber =>
          unfold markOrWord at failed
          split at failed
          · contradiction
          · next noMark =>
              split at failed
              · contradiction
              · next noLetter =>
                  cases failed
                  refine .inr ⟨noQuote, noMark, Bool.eq_false_iff.mpr noLetter, ?_, rfl⟩
                  rintro rfl
                  exact noNumber

/-- Where there is no next token, none begins. -/
theorem not_beginsToken_of_next {afterDot : Bool} {char : Char} {rest : List Char}
    {cause : ParseError.Cause} (failed : next afterDot char rest = .error cause) :
    ¬BeginsToken afterDot (char :: rest) := by
  rintro ⟨token, spelling, left, split, spelled, written⟩
  obtain ⟨first, others, rfl, begins⟩ := cases_of_isWritten spelled written
  obtain ⟨rfl, rfl⟩ := List.cons.inj split
  obtain ⟨rfl, unclosed, -⟩ | ⟨noQuote, noMark, noLetter, noNumber, -⟩ :=
    cases_of_next_error failed
  · obtain ⟨-, text, quoted, quotedAs, rfl⟩ | letter | mark | ⟨-, minus, -⟩ := begins
    · have closed := stringBody_of_quotedAs quotedAs left
      rw [List.append_eq, List.append_assoc, List.singleton_append, closed] at unclosed
      contradiction
    · rw [Text.isWordChar_eq_false '\'' (by decide)] at letter
      contradiction
    · exact absurd mark (by decide)
    · exact absurd minus (by decide)
  · obtain ⟨quote, -⟩ | letter | mark | ⟨elsewhere, rfl, digit, more, rfl, isDigit⟩ := begins
    · exact noQuote quote
    · rw [noLetter] at letter
      contradiction
    · rw [noMark] at mark
      contradiction
    · have some := number?_isSome (.inr rfl : Text.IsSign ['-']) isDigit (more ++ left)
      rw [List.singleton_append] at some
      rw [List.append_eq, List.cons_append] at noNumber
      rw [noNumber elsewhere] at some
      exact Bool.false_ne_true some

/-- The cause of a failure shows in the character with which no token begins. -/
theorem cause_of_next_error {afterDot : Bool} {char : Char} {rest : List Char}
    {cause : ParseError.Cause} (failed : next afterDot char rest = .error cause) :
    cause = if char = '\'' then .unterminatedString else .unexpectedChar char := by
  obtain ⟨quote, -, rfl⟩ | ⟨noQuote, -, -, -, rfl⟩ := cases_of_next_error failed
  · rw [if_pos quote]
  · rw [if_neg noQuote]

/-- Where the lexer fails, no token begins, and the text in front of it has tokens. -/
theorem exists_of_lex_error {text : String} {error : ParseError}
    (failed : lex text = .error error) :
    ∃ before char behind stream, text.toList = before ++ char :: behind ∧
      error.offset = before.length ∧ lex (String.ofList before) = .ok stream ∧
        Text.isBlank char = false ∧
          ¬BeginsToken (endsInDot false stream.located) (char :: behind) ∧
            error.cause = if char = '\'' then .unterminatedString else .unexpectedChar char := by
  rw [lex] at failed
  cases outcome : lexFrom 0 false text.toList with
  | ok located =>
      rw [outcome] at failed
      contradiction
  | error inner =>
      rw [outcome] at failed
      cases failed
      obtain ⟨located, before, char, behind, split, place, layout, solid, failedNext⟩ :=
        layout_of_error outcome
      rw [Nat.zero_add] at place
      refine ⟨before, char, behind, ⟨located, before.length⟩, split, place, ?_, solid,
        not_beginsToken_of_next failedNext, cause_of_next_error failedNext⟩
      rw [lex_eq_ok_iff, String.toList_ofList]
      exact ⟨layout, rfl⟩

end Token

/-! ### Where errors are placed -/

theorem TokenStream.offsetAt_le {stream : TokenStream}
    (within : ∀ found ∈ stream.located, found.offset ≤ stream.length) (remaining : Nat) :
    stream.offsetAt remaining ≤ stream.length := by
  rw [offsetAt]
  split
  · exact Nat.le_refl _
  · next first others left =>
      have member : first ∈ first :: others := List.mem_cons_self
      rw [← left] at member
      exact within first (List.mem_of_mem_drop member)

theorem Token.offset_le_of_lex {text : String} {error : ParseError}
    (failed : lex text = .error error) : error.offset ≤ text.toList.length := by
  obtain ⟨before, char, behind, -, split, place, -⟩ := exists_of_lex_error failed
  rw [split, place, List.length_append]
  exact Nat.le_add_right _ _

/-- Whatever reads the tokens of a text places its errors in the text or at its end. -/
theorem Parser.offset_le_of_readText {α : Type} {reader : List Token → Except Failure α}
    {text : String} {error : ParseError} (failed : readText reader text = .error error) :
    error.offset ≤ text.toList.length := by
  rw [readText] at failed
  split at failed
  · next lexed =>
      cases failed
      exact Token.offset_le_of_lex lexed
  · next stream lexed =>
      obtain ⟨layout, length⟩ := Token.lex_eq_ok_iff.mp lexed
      split at failed
      · cases failed
        rw [← length]
        refine TokenStream.offsetAt_le (fun found member => ?_) _
        have := (layout.bounds found member).2
        omega
      · contradiction

/-! ### Coverage -/

/-- Where the lexer succeeds, its tokens are those that are laid out in the text, and their
positions ascend up to that of the end.  Where it fails, no token begins, be it for a quote that is
never closed or for another character, and the text in front of it can be read as tokens.  All
errors are placed in the text or at its end. -/
theorem Token.lex_covers (text : String) :
    (∀ stream, lex text = .ok stream ↔
      Layout 0 false stream.located text.toList ∧ stream.length = text.toList.length) ∧
    (∀ stream, lex text = .ok stream → stream.offsets.Pairwise (· < ·)) ∧
    (∀ error, lex text = .error error →
      ∃ before char behind stream, text.toList = before ++ char :: behind ∧
        error.offset = before.length ∧ lex (String.ofList before) = .ok stream ∧
          Text.isBlank char = false ∧
            ¬BeginsToken (endsInDot false stream.located) (char :: behind) ∧
              error.cause = if char = '\'' then .unterminatedString else .unexpectedChar char) ∧
    ∀ error, lex text = .error error ∨ Expr.read text = .error error ∨
      Path.read text = .error error → error.offset ≤ text.toList.length := by
  refine ⟨fun _ => lex_eq_ok_iff, fun _ => TokenStream.offsets_pairwise,
    fun _ => exists_of_lex_error, fun error failed => ?_⟩
  obtain failed | failed | failed := failed
  · exact offset_le_of_lex failed
  · exact Parser.offset_le_of_readText failed
  · exact Parser.offset_le_of_readText failed

/-- Digits behind a point, a string with a hidden quote, and letters behind a signed number; then a
minus sign behind a point, and an error of the reader at the end. -/
theorem Token.lex_covers_mixed :
    let covered := "a.1 'it\\'s \\n'-2x"
    let stream : TokenStream := ⟨[⟨.word "a", 0⟩, ⟨.dot, 1⟩, ⟨.word "1", 2⟩,
      ⟨.string "it's \\n", 4⟩, ⟨.integer "-2", 14⟩, ⟨.word "x", 16⟩], 17⟩
    let broken := "a.-1"
    let error : ParseError := ⟨2, .unexpectedChar '-'⟩
    (lex covered = .ok stream ∧ Layout 0 false stream.located covered.toList ∧
      stream.offsets.Pairwise (· < ·)) ∧
    (lex broken = .error error ∧
      ∃ before char behind stream, broken.toList = before ++ char :: behind ∧
        error.offset = before.length ∧ lex (String.ofList before) = .ok stream ∧
          ¬BeginsToken (endsInDot false stream.located) (char :: behind)) ∧
    Path.read "a." = .error ⟨2, .expectedKey none⟩ ∧ 2 ≤ "a.".toList.length := by
  intro covered stream broken error
  have lexed : lex covered = .ok stream := by decide +kernel
  have failed : lex broken = .error error := by decide +kernel
  have noKey : Path.read "a." = .error ⟨2, .expectedKey none⟩ := by decide +kernel
  obtain ⟨laidOut, ascending, -, -⟩ := lex_covers covered
  obtain ⟨-, -, stops, -⟩ := lex_covers broken
  obtain ⟨-, -, -, placed⟩ := lex_covers "a."
  obtain ⟨before, char, behind, found, split, place, inFront, -, none, -⟩ := stops error failed
  exact ⟨⟨lexed, ((laidOut stream).mp lexed).1, ascending stream lexed⟩,
    ⟨failed, before, char, behind, found, split, place, inFront, none⟩,
    noKey, placed _ (.inr (.inr noKey))⟩

end LiveBinding
