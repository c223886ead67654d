import LiveBinding.Template
import LiveBinding.Proofs.Expr.Layout

/-!
# Where an interpolation closes

The scanner for the closing brace and the lexer do not share code, but they agree on where a string
ends.  Over text that the lexer can read the scanner therefore goes without stopping, and it is
outside of strings where that text ends: a brace behind such text closes.
-/

namespace LiveBinding

/-! ### The characters of a token -/

namespace Token

/-- The characters that make up the tokens other than strings. -/
def isTokenChar (char : Char) : Bool :=
  Text.isWordChar char || (mark? char).isSome || char == '-'

theorem isTokenChar_of_isWordChar {char : Char} (wordChar : Text.isWordChar char = true) :
    isTokenChar char = true := by
  rw [isTokenChar, wordChar, Bool.true_or, Bool.true_or]

theorem isTokenChar_of_mark? {char : Char} {token : Token} (marked : mark? char = some token) :
    isTokenChar char = true := by
  rw [isTokenChar, marked, Option.isSome_some, Bool.or_true, Bool.true_or]

/-- Neither a quote nor a closing brace belongs to such a token. -/
theorem ne_of_isTokenChar {char : Char} (tokenChar : isTokenChar char = true) :
    char ≠ '\'' ∧ char ≠ '}' := by
  have quote : isTokenChar '\'' = false := by decide +kernel
  have brace : isTokenChar '}' = false := by decide +kernel
  constructor
  · rintro rfl
    exact Bool.false_ne_true (quote.symm.trans tokenChar)
  · rintro rfl
    exact Bool.false_ne_true (brace.symm.trans tokenChar)

/-- Neither a quote nor a closing brace is a blank. -/
theorem ne_of_isBlank {char : Char} (blank : Text.isBlank char = true) :
    char ≠ '\'' ∧ char ≠ '}' := by
  constructor
  · rintro rfl
    exact absurd blank (by decide)
  · rintro rfl
    exact absurd blank (by decide)

/-- A token other than a string is spelled by the first characters, as many as its width says. -/
structure Lexeme.Spells (lexeme : Lexeme) (chars : List Char) : Prop where
  positive : 0 < lexeme.width
  tokenChars : ∀ char ∈ chars.take lexeme.width, isTokenChar char = true

theorem isTokenChar_of_sign_digits {sign whole : List Char} (isSign : Text.IsSign sign)
    (isDigit : ∀ char ∈ whole, char.isDigit = true) :
    ∀ char ∈ sign ++ whole, isTokenChar char = true := by
  rw [List.forall_mem_append]
  constructor
  · obtain rfl | rfl := isSign
    · exact nofun
    · intro char member
      rw [List.mem_singleton.mp member, isTokenChar, beq_self_eq_true, Bool.or_true]
  · intro char member
    exact isTokenChar_of_isWordChar (Text.isWordChar_of_isDigit (isDigit char member))

theorem isTokenChar_of_isWritten {token : Token} {afterDot : Bool} {spelling : List Char}
    (noString : ∀ text, token ≠ .string text) (spelled : token.IsSpelled afterDot)
    (written : token.IsWritten spelling) : ∀ char ∈ spelling, isTokenChar char = true := by
  cases token with
  | word text =>
      cases written
      have letters := (Text.isName_iff.mp spelled.1).2
      exact fun char member => isTokenChar_of_isWordChar (letters char member)
  | string text => exact absurd rfl (noString text)
  | integer digits =>
      cases written
      obtain ⟨-, sign, whole, isSign, numeral, split⟩ := spelled
      rw [split]
      exact isTokenChar_of_sign_digits isSign (Text.isNumeral_iff.mp numeral).2
  | decimal digits =>
      cases written
      obtain ⟨-, sign, whole, fraction, isSign, numeral, fractionNumeral, split⟩ := spelled
      have fractionDigit := (Text.isNumeral_iff.mp fractionNumeral).2
      rw [split, List.forall_mem_append, List.forall_mem_cons]
      exact ⟨isTokenChar_of_sign_digits isSign (Text.isNumeral_iff.mp numeral).2,
        isTokenChar_of_mark? rfl,
        isTokenChar_of_sign_digits (.inl rfl : Text.IsSign []) fractionDigit⟩
  | _ =>
      cases written
      exact List.forall_mem_singleton.mpr (isTokenChar_of_mark? rfl)

/-- What begins with a quote is a string, and all else is spelled without quotes and braces. -/
theorem spells_of_next {afterDot : Bool} {char : Char} {rest : List Char} {lexeme : Lexeme}
    (noQuote : char ≠ '\'') (found : next afterDot char rest = .ok lexeme) :
    lexeme.Spells (char :: rest) := by
  obtain ⟨spelling, left, split, width, -, spelled, written, -⟩ := exists_of_next found
  have noString : ∀ text, lexeme.token ≠ .string text := by
    intro text same
    rw [same] at written
    obtain ⟨quoted, -, rfl⟩ := written
    exact noQuote (List.cons.inj split).1
  constructor
  · rw [width]
    exact List.length_pos_iff.mpr (ne_nil_of_isWritten spelled written)
  · rw [width, split, List.take_left]
    exact isTokenChar_of_isWritten noString spelled written

end Token

/-! ### The scanner over the tokens of a text -/

namespace Template

/-- Whether the scanner goes over some characters whatever follows, from inside or outside of a
string to inside or outside of one. -/
def PassesOver (before after : Bool) (chars : List Char) : Prop :=
  ∀ rest, takeBody before (chars ++ rest) =
    (takeBody after rest).map fun out => (chars ++ out.1, out.2)

theorem PassesOver.nil (quoted : Bool) : PassesOver quoted quoted [] := by
  intro rest
  simp

theorem PassesOver.append {before between after : Bool} {first second : List Char}
    (overFirst : PassesOver before between first) (overSecond : PassesOver between after second) :
    PassesOver before after (first ++ second) := by
  intro rest
  rw [List.append_assoc, overFirst, overSecond, Option.map_map]
  congr 1
  funext out
  exact congrArg (·, out.2) (List.append_assoc first second out.1).symm

theorem PassesOver.quote (quoted : Bool) : PassesOver quoted (!quoted) ['\''] := by
  intro rest
  rw [List.singleton_append, takeBody]
  rfl

/-- Outside of strings only quotes and closing braces count. -/
theorem PassesOver.plain {char : Char} (noQuote : char ≠ '\'') (noBrace : char ≠ '}') :
    PassesOver false false [char] := by
  intro rest
  rw [List.singleton_append]
  by_cases backslash : char = '\\'
  · cases backslash
    cases rest <;> rfl
  · rw [takeBody]
    · rfl
    · exact noBrace
    · exact noQuote
    · exact fun _ _ impossible => absurd impossible backslash

/-- Inside of strings a backslash hides the character behind it. -/
theorem PassesOver.hidden (char : Char) : PassesOver true true ['\\', char] := by
  intro rest
  rw [List.cons_append, List.singleton_append, takeBody]
  rfl

theorem PassesOver.inner {char : Char} (noQuote : char ≠ '\'') (noBackslash : char ≠ '\\') :
    PassesOver true true [char] := by
  intro rest
  rw [List.singleton_append]
  by_cases brace : char = '}'
  · cases brace
    rw [takeBody]
    rfl
  · rw [takeBody]
    · rfl
    · exact brace
    · exact noQuote
    · exact fun _ _ impossible => absurd impossible noBackslash

/-- A backslash in front of anything but a quote or a backslash stands for itself, and then it is
the same whether it hides what follows. -/
theorem takeBody_backslash {rest : List Char} (noQuote : rest.head? ≠ some '\'')
    (noBackslash : rest.head? ≠ some '\\') :
    takeBody true ('\\' :: rest) =
      (takeBody true rest).map fun out => ('\\' :: out.1, out.2) := by
  cases rest with
  | nil => rfl
  | cons hidden rest =>
      have other : hidden ≠ '\'' ∧ hidden ≠ '\\' :=
        ⟨fun same => noQuote (congrArg some same), fun same => noBackslash (congrArg some same)⟩
      have both := PassesOver.hidden hidden rest
      have behind := PassesOver.inner other.1 other.2 rest
      rw [List.singleton_append] at behind
      rw [behind, Option.map_map]
      exact both

/-- The scanner is behind a string where the lexer is. -/
theorem PassesOver.quoted {text quoted : List Char} (quotedAs : Token.QuotedAs text quoted) :
    PassesOver true false (quoted ++ ['\'']) := by
  induction quotedAs with
  | nil => exact PassesOver.quote true
  | hiddenQuote _ ih =>
      have passed := PassesOver.append (PassesOver.hidden '\'') ih
      exact passed
  | hiddenBackslash _ ih =>
      have passed := PassesOver.append (PassesOver.hidden '\\') ih
      exact passed
  | backslash noQuote noBackslash _ ih =>
      -- The lexer takes the backslash alone, the scanner with the character behind it, which is
      -- neither a quote nor a backslash.
      intro more
      rw [List.cons_append, List.cons_append, takeBody_backslash, ih, Option.map_map]
      · rfl
      · exact fun quote => noQuote (Option.some.inj quote)
      · exact fun backslash => noBackslash (Option.some.inj backslash)
  | plain noQuote noBackslash _ ih =>
      have passed := PassesOver.append (PassesOver.inner noQuote noBackslash) ih
      exact passed

/-- What the lexer takes for the content of a string is passed over. -/
theorem passesOver_of_stringBody {chars : List Char} {body : List Char × Nat}
    (found : Token.stringBody chars = some body) :
    PassesOver true false (chars.take body.2) := by
  obtain ⟨quoted, left, rfl, quotedAs, width⟩ := Token.exists_of_stringBody found
  have split : quoted ++ '\'' :: left = (quoted ++ ['\'']) ++ left := by simp
  rw [width, split, List.take_left' (by simp)]
  exact PassesOver.quoted quotedAs

/-- Characters other than quotes and closing braces. -/
theorem PassesOver.all_plain {chars : List Char}
    (plain : ∀ char ∈ chars, char ≠ '\'' ∧ char ≠ '}') : PassesOver false false chars := by
  induction chars with
  | nil => exact PassesOver.nil false
  | cons char chars ih =>
      obtain ⟨⟨noQuote, noBrace⟩, later⟩ := List.forall_mem_cons.mp plain
      exact PassesOver.append (PassesOver.plain noQuote noBrace) (ih later)

/-- One token is passed over. -/
theorem passesOver_of_next {afterDot : Bool} {char : Char} {rest : List Char}
    {lexeme : Token.Lexeme} (found : Token.next afterDot char rest = .ok lexeme) :
    0 < lexeme.width ∧ PassesOver false false ((char :: rest).take lexeme.width) := by
  by_cases quote : char = '\''
  · cases quote
    rw [Token.next, if_pos rfl] at found
    split at found
    · contradiction
    · next content width closed =>
        cases found
        have passed := passesOver_of_stringBody closed
        exact ⟨Nat.succ_pos _, PassesOver.append (PassesOver.quote false) passed⟩
  · obtain ⟨positive, tokenChars⟩ := Token.spells_of_next quote found
    refine ⟨positive, PassesOver.all_plain fun other member => ?_⟩
    exact Token.ne_of_isTokenChar (tokenChars other member)

/-- What follows a token stands behind characters that are passed over. -/
theorem exists_passesOver_of_next {afterDot : Bool} {char : Char} {rest : List Char}
    {lexeme : Token.Lexeme} (found : Token.next afterDot char rest = .ok lexeme) :
    ∃ spelling, PassesOver false false spelling ∧
      char :: rest = spelling ++ rest.drop (lexeme.width - 1) := by
  obtain ⟨positive, passed⟩ := passesOver_of_next found
  obtain ⟨width, same⟩ := Nat.exists_eq_succ_of_ne_zero positive.ne'
  rw [same] at passed ⊢
  exact ⟨_, passed, (List.take_append_drop (width + 1) (char :: rest)).symm⟩

/-- What can be read as tokens is passed over, and ends outside of strings. -/
theorem passesOver_of_lexFrom {offset : Nat} {afterDot : Bool} {chars : List Char}
    {located : List Located} (found : Token.lexFrom offset afterDot chars = .ok located) :
    PassesOver false false chars := by
  fun_induction Token.lexFrom offset afterDot chars generalizing located with
  | case1 => exact PassesOver.nil false
  | case2 offset afterDot char rest blank ih =>
      obtain ⟨noQuote, noBrace⟩ := Token.ne_of_isBlank blank
      exact PassesOver.append (PassesOver.plain noQuote noBrace) (ih found)
  | case3 => contradiction
  | case4 offset afterDot char rest solid lexeme read ih =>
      cases later : Token.lexFrom (offset + lexeme.width) (decide (lexeme.token = .dot))
          (rest.drop (lexeme.width - 1)) with
      | error => rw [later] at found; contradiction
      | ok others =>
          obtain ⟨spelling, passed, split⟩ := exists_passesOver_of_next read
          rw [split]
          exact PassesOver.append passed (ih later)

/-- A brace behind text that can be read as tokens is where the interpolation closes. -/
theorem takeBody_of_lex {text : String} {stream : TokenStream}
    (found : Token.lex text = .ok stream) (rest : List Char) :
    takeBody false (text.toList ++ '}' :: rest) = some (text.toList, rest) := by
  unfold Token.lex at found
  cases located : Token.lexFrom 0 false text.toList with
  | error =>
      rw [located] at found
      contradiction
  | ok tokens =>
      rw [passesOver_of_lexFrom located]
      simp [takeBody]

end Template

end LiveBinding
