import LiveBinding.Proofs.Template.Closing

/-!
# The closing brace and the strings of the lexer

The scanner closes an interpolation at the only brace in front of which an expression can be read,
if there is one.  Wherever else it closes, every string that the lexer sees in the body has its
closing quote: both are inside or outside of a string at the same characters.
-/

namespace LiveBinding.Template

/-! ### Where the scanner closes -/

/-- The position of the brace that closes the interpolation whose body starts at a position. -/
def closing? (chars : List Char) (start : Nat) : Option Nat :=
  (takeBody false (chars.drop start)).map fun out => start + out.1.length

/-- The text from one position up to another. -/
def between (chars : List Char) (start stop : Nat) : String :=
  String.ofList ((chars.take stop).drop start)

theorem drop_eq_of_brace {chars : List Char} {start position : Nat} (behind : start ≤ position)
    (brace : chars[position]? = some '}') :
    chars.drop start = (between chars start position).toList ++ '}' :: chars.drop (position + 1) ∧
      start + (between chars start position).toList.length = position := by
  obtain ⟨inside, found⟩ := List.getElem?_eq_some_iff.mp brace
  have taken : (chars.take position).length = position := List.length_take_of_le inside.le
  have split : chars.take position ++ '}' :: chars.drop (position + 1) = chars := by
    rw [← found, List.getElem_cons_drop, List.take_append_drop]
  rw [between, String.toList_ofList]
  constructor
  · calc chars.drop start =
          (chars.take position ++ '}' :: chars.drop (position + 1)).drop start := by rw [split]
      _ = _ := List.drop_append_of_le_length (behind.trans taken.ge)
  · rw [List.length_drop, taken, Nat.add_sub_cancel' behind]

/-- Where the scanner closes stands a brace, and the body is what it went over. -/
theorem exists_of_closing? {chars : List Char} {start position : Nat}
    (closes : closing? chars start = some position) :
    ∃ rest, takeBody false ((between chars start position).toList ++ '}' :: rest) =
      some ((between chars start position).toList, rest) := by
  obtain ⟨⟨body, rest⟩, taken, rfl⟩ := Option.map_eq_some_iff.mp closes
  have shape := takeBody_eq taken
  have same : (between chars start (start + body.length)).toList = body := by
    rw [between, String.toList_ofList, List.drop_take, Nat.add_sub_cancel_left, shape,
      List.take_left]
  rw [same]
  exact ⟨rest, shape ▸ taken⟩

/-! ### What the scanner went over -/

/-- Of what the scanner goes over in two parts, it goes over the second part from where it is
behind the first. -/
theorem PassesOver.later {before after : Bool} {first second rest : List Char}
    (passed : PassesOver before after first)
    (closes : takeBody before (first ++ second ++ '}' :: rest) = some (first ++ second, rest)) :
    takeBody after (second ++ '}' :: rest) = some (second, rest) := by
  rw [List.append_assoc, passed] at closes
  obtain ⟨⟨body, left⟩, taken, same⟩ := Option.map_eq_some_iff.mp closes
  have sameBody : body = second := List.append_cancel_left (congrArg Prod.fst same)
  have sameRest : left = rest := congrArg Prod.snd same
  rw [taken, sameBody, sameRest]

/-- Inside of a string a brace does not close. -/
theorem takeBody_brace_ne (rest : List Char) : takeBody true ('}' :: rest) ≠ some ([], rest) := by
  intro closes
  rw [takeBody] at closes
  obtain ⟨_, _, same⟩ := Option.map_eq_some_iff.mp closes
  cases same

/-- Where the scanner closes, the lexer has found the end of a string that was open. -/
theorem stringBody_ne_none {chars rest : List Char}
    (closes : takeBody true (chars ++ '}' :: rest) = some (chars, rest)) :
    Token.stringBody chars ≠ none := by
  fun_induction Token.stringBody chars with
  | case1 => exact absurd closes (takeBody_brace_ne rest)
  | case2 => exact Option.some_ne_none _
  | case3 later ih =>
      rw [ne_eq, Option.map_eq_none_iff]
      exact ih ((PassesOver.hidden '\'').later closes)
  | case4 later ih =>
      rw [ne_eq, Option.map_eq_none_iff]
      exact ih ((PassesOver.hidden '\\').later closes)
  | case5 char later noQuote noHiddenQuote noHiddenBackslash ih =>
      rw [ne_eq, Option.map_eq_none_iff]
      apply ih
      by_cases backslash : char = '\\'
      · cases backslash
        -- The scanner takes the backslash with the character behind it, perhaps the brace, but
        -- that is neither a quote nor a backslash.
        have first : ∀ hidden, hidden ≠ '}' → (later ++ '}' :: rest).head? = some hidden →
            ∃ others, later = hidden :: others := by
          intro hidden noBrace head
          cases later with
          | nil => exact absurd (Option.some.inj head).symm noBrace
          | cons char others =>
              cases head
              exact ⟨others, rfl⟩
        rw [List.cons_append, takeBody_backslash] at closes
        · obtain ⟨⟨body, left⟩, taken, same⟩ := Option.map_eq_some_iff.mp closes
          cases same
          exact taken
        · intro quote
          obtain ⟨others, shape⟩ := first '\'' (by decide) quote
          exact noHiddenQuote others rfl shape
        · intro hidden
          obtain ⟨others, shape⟩ := first '\\' (by decide) hidden
          exact noHiddenBackslash others rfl shape
      · exact (PassesOver.inner noQuote backslash).later closes

/-- The only token without an end is a string without a closing quote. -/
theorem exists_of_next_error {afterDot : Bool} {char : Char} {rest : List Char}
    (failed : Token.next afterDot char rest = .error .unterminatedString) :
    char = '\'' ∧ Token.stringBody rest = none := by
  unfold Token.next at failed
  split at failed
  · next quote =>
      split at failed
      · next unclosed => exact ⟨quote, unclosed⟩
      · contradiction
  · split at failed
    · contradiction
    · unfold Token.markOrWord at failed
      split at failed
      · contradiction
      · split at failed
        · contradiction
        · exact nomatch Except.error.inj failed

/-- The lexer finds every string closed in what the scanner went over. -/
theorem lexFrom_ne_unterminated {offset : Nat} {afterDot : Bool} {chars rest : List Char}
    {fault : ParseError} (closes : takeBody false (chars ++ '}' :: rest) = some (chars, rest))
    (failed : Token.lexFrom offset afterDot chars = .error fault) :
    fault.cause ≠ .unterminatedString := by
  fun_induction Token.lexFrom offset afterDot chars with
  | case1 => contradiction
  | case2 offset afterDot char later blank ih =>
      obtain ⟨noQuote, noBrace⟩ := Token.ne_of_isBlank blank
      exact ih ((PassesOver.plain noQuote noBrace).later closes) failed
  | case3 offset afterDot char later solid cause failedNext =>
      cases failed
      rintro rfl
      obtain ⟨rfl, unclosed⟩ := exists_of_next_error failedNext
      exact stringBody_ne_none ((PassesOver.quote false).later closes) unclosed
  | case4 offset afterDot char later solid lexeme read ih =>
      cases behind : Token.lexFrom (offset + lexeme.width) (decide (lexeme.token = .dot))
          (later.drop (lexeme.width - 1)) with
      | ok located =>
          rw [behind] at failed
          contradiction
      | error inner =>
          rw [behind] at failed
          cases failed
          obtain ⟨spelling, passed, split⟩ := exists_passesOver_of_next read
          rw [split] at closes
          exact ih (passed.later closes) behind

/-! ### Agreement -/

/-- Behind a start, a brace in front of which an expression can be read is the one that closes. -/
theorem closing?_of_read {chars : List Char} {start position : Nat} {found : Expr}
    (behind : start ≤ position) (brace : chars[position]? = some '}')
    (read : Expr.read (between chars start position) = .ok found) :
    closing? chars start = some position := by
  obtain ⟨split, length⟩ := drop_eq_of_brace behind brace
  unfold Expr.read Parser.readText at read
  split at read
  · contradiction
  · next stream lexed =>
      rw [closing?, split, takeBody_of_lex lexed, Option.map_some, length]

/-- If an expression can be read from a start up to some brace, then the interpolation that starts
there closes at this brace, so there is one such brace at most.  And wherever an interpolation
closes, no string is left open in its body. -/
theorem closing?_agrees_with_lexer (chars : List Char) (start : Nat) :
    (∀ position found, start ≤ position → chars[position]? = some '}' →
      Expr.read (between chars start position) = .ok found →
        closing? chars start = some position ∧
          ∀ other otherFound, start ≤ other → chars[other]? = some '}' →
            Expr.read (between chars start other) = .ok otherFound → other = position) ∧
      ∀ position fault, closing? chars start = some position →
        Token.lex (between chars start position) = .error fault →
          fault.cause ≠ .unterminatedString := by
  constructor
  · intro position found behind brace read
    have closes := closing?_of_read behind brace read
    refine ⟨closes, fun other otherFound otherBehind otherBrace otherRead => ?_⟩
    have otherCloses := closing?_of_read otherBehind otherBrace otherRead
    exact Option.some.inj (otherCloses.symm.trans closes)
  · intro position fault closes failed
    obtain ⟨rest, taken⟩ := exists_of_closing? closes
    unfold Token.lex at failed
    cases outcome : Token.lexFrom 0 false (between chars start position).toList with
    | ok located =>
        rw [outcome] at failed
        contradiction
    | error inner =>
        rw [outcome] at failed
        cases failed
        exact lexFrom_ne_unterminated taken outcome

/-- A string that holds a quote, a brace and a backslash, with a brace in quotes behind the body,
and a body that cannot be read behind its string. -/
theorem closing?_agrees_with_lexer_of_quotes :
    let chars := "@\x7bf('\\'\x7d\\\\')\x7d '\x7d".toList
    let call : Expr := .call "f" [.literal (.string "'\x7d\\")]
    let broken := "'\x7d' ~\x7d".toList
    2 ≤ 12 ∧ chars[12]? = some '}' ∧ Expr.read (between chars 2 12) = .ok call ∧
      closing? chars 2 = some 12 ∧
      closing? broken 0 = some 5 ∧
      Token.lex (between broken 0 5) = .error ⟨4, .unexpectedChar '~'⟩ ∧
      ParseError.Cause.unexpectedChar '~' ≠ .unterminatedString := by
  intro chars call broken
  have behind : 2 ≤ 12 := by decide
  have brace : chars[12]? = some '}' := by decide +kernel
  have read : Expr.read (between chars 2 12) = .ok call := by decide +kernel
  have closes : closing? broken 0 = some 5 := by decide +kernel
  have failed : Token.lex (between broken 0 5) = .error ⟨4, .unexpectedChar '~'⟩ := by
    decide +kernel
  exact ⟨behind, brace, read, ((closing?_agrees_with_lexer chars 2).1 12 call behind brace read).1,
    closes, failed, (closing?_agrees_with_lexer broken 0).2 5 _ closes failed⟩

end LiveBinding.Template
