import LiveBinding.Expr.Lexer
import LiveBinding.Proofs.Text

/-!
# How tokens are spelled

The tokens of a text are spelled in a certain way, which depends on whether a point stands before
them: behind a point there are no numbers, and everywhere else no word is made of digits only.
-/

namespace LiveBinding

namespace Token

/-! ### Strings -/

/-- Characters between quotes and the text that they stand for.  A backslash hides a quote or a
backslash behind it, and in front of anything else it stands for itself. -/
inductive QuotedAs : (text quoted : List Char) → Prop where
  | nil : QuotedAs [] []
  | hiddenQuote {text quoted : List Char} (later : QuotedAs text quoted) :
      QuotedAs ('\'' :: text) ('\\' :: '\'' :: quoted)
  | hiddenBackslash {text quoted : List Char} (later : QuotedAs text quoted) :
      QuotedAs ('\\' :: text) ('\\' :: '\\' :: quoted)
  | backslash {text quoted : List Char} {char : Char} (noQuote : char ≠ '\'')
      (noBackslash : char ≠ '\\') (later : QuotedAs text (char :: quoted)) :
      QuotedAs ('\\' :: text) ('\\' :: char :: quoted)
  | plain {text quoted : List Char} {char : Char} (noQuote : char ≠ '\'')
      (noBackslash : char ≠ '\\') (later : QuotedAs text quoted) :
      QuotedAs (char :: text) (char :: quoted)

/-- What the lexer takes for the content of a string is written so. -/
theorem exists_of_stringBody {chars : List Char} {body : List Char × Nat}
    (found : stringBody chars = some body) :
    ∃ quoted left, chars = quoted ++ '\'' :: left ∧ QuotedAs body.1 quoted ∧
      body.2 = quoted.length + 1 := by
  fun_induction stringBody chars generalizing body with
  | case1 => contradiction
  | case2 left =>
      cases found
      exact ⟨[], left, rfl, .nil, rfl⟩
  | case3 rest ih =>
      obtain ⟨inner, read, rfl⟩ := Option.map_eq_some_iff.mp found
      obtain ⟨quoted, left, rfl, quotedAs, width⟩ := ih read
      exact ⟨_, left, rfl, quotedAs.hiddenQuote, congrArg (· + 2) width⟩
  | case4 rest ih =>
      obtain ⟨inner, read, rfl⟩ := Option.map_eq_some_iff.mp found
      obtain ⟨quoted, left, rfl, quotedAs, width⟩ := ih read
      exact ⟨_, left, rfl, quotedAs.hiddenBackslash, congrArg (· + 2) width⟩
  | case5 char rest noQuote noHiddenQuote noHiddenBackslash ih =>
      obtain ⟨inner, read, rfl⟩ := Option.map_eq_some_iff.mp found
      obtain ⟨quoted, left, rfl, quotedAs, width⟩ := ih read
      refine ⟨char :: quoted, left, rfl, ?_, congrArg (· + 1) width⟩
      by_cases backslash : char = '\\'
      · cases backslash
        -- The closing quote is not hidden, so something stands in front of it.
        cases quoted with
        | nil => exact (noHiddenQuote left rfl rfl).elim
        | cons hidden others =>
            refine quotedAs.backslash ?_ ?_
            · rintro rfl
              exact noHiddenQuote _ rfl rfl
            · rintro rfl
              exact noHiddenBackslash _ rfl rfl
      · exact quotedAs.plain noQuote backslash

/-- Quoted characters are the content of a string, whatever follows their closing quote. -/
theorem stringBody_of_quotedAs {text quoted : List Char} (quotedAs : QuotedAs text quoted)
    (rest : List Char) : stringBody (quoted ++ '\'' :: rest) = some (text, quoted.length + 1) := by
  induction quotedAs with
  | nil => rfl
  | hiddenQuote later ih | hiddenBackslash later ih =>
      rw [List.cons_append, List.cons_append, stringBody, ih]
      rfl
  | backslash noQuote noBackslash later ih =>
      rw [List.cons_append] at ih ⊢
      rw [List.cons_append, stringBody, ih]
      · rfl
      · decide
      · rintro others - same
        cases same
        contradiction
      · rintro others - same
        cases same
        contradiction
  | plain noQuote noBackslash later ih =>
      rw [List.cons_append, stringBody, ih]
      · rfl
      · exact noQuote
      · exact fun _ same => absurd same noBackslash
      · exact fun _ same => absurd same noBackslash

/-! ### Numbers -/

theorem takeMinus_cases (chars : List Char) :
    Text.IsSign (takeMinus chars).1 ∧ (takeMinus chars).1 ++ (takeMinus chars).2 = chars := by
  unfold takeMinus
  split
  · exact ⟨.inr rfl, rfl⟩
  · exact ⟨.inl rfl, rfl⟩

/-- In front of digits a minus sign is the sign of a number. -/
theorem takeMinus_append {sign whole : List Char} (isSign : Text.IsSign sign)
    (digits : Text.isNumeral whole = true) (after : List Char) :
    takeMinus (sign ++ whole ++ after) = (sign, whole ++ after) := by
  obtain rfl | rfl := isSign
  · obtain ⟨nonempty, isDigit⟩ := Text.isNumeral_iff.mp digits
    cases whole with
    | nil => contradiction
    | cons first rest =>
        unfold takeMinus
        split
        · next same =>
            cases same
            have := isDigit '-' List.mem_cons_self
            contradiction
        · rfl
  · rfl

theorem isNumeral_fractionDigits {chars : List Char} (some : fractionDigits chars ≠ []) :
    Text.isNumeral (fractionDigits chars) = true := by
  rw [Text.isNumeral_iff]
  refine ⟨some, fun char member => ?_⟩
  unfold fractionDigits at member
  split at member
  · exact List.mem_takeWhile_imp member
  · contradiction

/-- A fraction stands behind a point, in front of what is no digit. -/
theorem exists_of_fractionDigits {chars : List Char} (nonempty : fractionDigits chars ≠ []) :
    ∃ left, chars = '.' :: fractionDigits chars ++ left ∧ Text.Stops Char.isDigit left := by
  unfold fractionDigits at nonempty ⊢
  split at nonempty
  · next rest =>
      refine ⟨rest.dropWhile Char.isDigit, ?_, Text.stops_dropWhile _ _⟩
      rw [List.cons_append, List.takeWhile_append_dropWhile]
  · contradiction

/-- How a number is told from a word that begins with digits. -/
theorem number?_append {sign whole after : List Char} (isSign : Text.IsSign sign)
    (digits : Text.isNumeral whole = true) (stops : Text.Stops Char.isDigit after) :
    number? (sign ++ whole ++ after) =
      if fractionDigits after ≠ [] then
        some (spelled .decimal (sign ++ whole ++ '.' :: fractionDigits after))
      else if sign = [] ∧ after.takeWhile Text.isWordChar ≠ [] then
        some (spelled .word (whole ++ after.takeWhile Text.isWordChar))
      else some (spelled .integer (sign ++ whole)) := by
  obtain ⟨nonempty, isDigit⟩ := Text.isNumeral_iff.mp digits
  rw [number?, takeMinus_append isSign digits after]
  simp only [Text.takeWhile_append_of_stops isDigit stops,
    Text.dropWhile_append_of_stops isDigit stops, if_neg nonempty, List.append_assoc]
  obtain rfl | rfl := isSign
  · simp
  · simp

/-- A number, or a word that begins with digits, is in front of what is no digit. -/
theorem exists_of_number? {chars : List Char} {lexeme : Lexeme}
    (found : number? chars = some lexeme) :
    ∃ sign whole after, Text.IsSign sign ∧ Text.isNumeral whole = true ∧
      Text.Stops Char.isDigit after ∧ chars = sign ++ whole ++ after := by
  obtain ⟨isSign, split⟩ := takeMinus_cases chars
  refine ⟨_, (takeMinus chars).2.takeWhile Char.isDigit, (takeMinus chars).2.dropWhile Char.isDigit,
    isSign, ?_, Text.stops_dropWhile _ _, ?_⟩
  · rw [Text.isNumeral_iff]
    refine ⟨fun empty => ?_, fun char member => List.mem_takeWhile_imp member⟩
    rw [number?] at found
    simp only [empty, if_true] at found
    contradiction
  · rw [List.append_assoc, List.takeWhile_append_dropWhile, split]

/-! ### The tokens of a text -/

/-- How a token is spelled, behind a point or elsewhere. -/
def IsSpelled (afterDot : Bool) : Token → Prop
  | .word text =>
    Text.isName text = true ∧ (afterDot = false → Text.isNumeral text.toList = false)
  | .integer digits => afterDot = false ∧ Text.IsInteger digits.toList
  | .decimal digits => afterDot = false ∧ Text.IsDecimal digits.toList
  | _ => True

/-- How the tokens of a text are spelled, behind a point or elsewhere. -/
def AreSpelled : (afterDot : Bool) → List Token → Prop
  | _, [] => True
  | afterDot, token :: rest =>
    token.IsSpelled afterDot ∧ AreSpelled (decide (token = .dot)) rest

theorem AreSpelled.append_left {afterDot : Bool} {tokens rest : List Token}
    (spelled : AreSpelled afterDot (tokens ++ rest)) : AreSpelled afterDot tokens := by
  induction tokens generalizing afterDot with
  | nil => trivial
  | cons token tokens ih => exact ⟨spelled.1, ih spelled.2⟩

theorem AreSpelled.behind {afterDot : Bool} {tokens rest : List Token} {token : Token}
    (spelled : AreSpelled afterDot (tokens ++ token :: rest)) :
    AreSpelled (decide (token = .dot)) rest := by
  induction tokens generalizing afterDot with
  | nil => exact spelled.2
  | cons _ tokens ih => exact ih spelled.2

theorem isSpelled_of_number? {chars : List Char} {lexeme : Lexeme}
    (found : number? chars = some lexeme) : lexeme.token.IsSpelled false := by
  obtain ⟨sign, whole, after, isSign, digits, stops, rfl⟩ := exists_of_number? found
  rw [number?_append isSign digits stops] at found
  split at found
  · next fraction =>
      cases found
      exact ⟨rfl, sign, whole, _, isSign, digits, isNumeral_fractionDigits fraction,
        String.toList_ofList⟩
  · split at found
    · next letters =>
        cases found
        refine ⟨Text.isName_iff.mpr ?_, fun _ => ?_⟩
        · rw [String.toList_ofList]
          obtain ⟨nonempty, isDigit⟩ := Text.isNumeral_iff.mp digits
          refine ⟨List.append_ne_nil_of_left_ne_nil nonempty _, fun char member => ?_⟩
          obtain digit | letter := List.mem_append.mp member
          · exact Text.isWordChar_of_isDigit (isDigit char digit)
          · exact List.mem_takeWhile_imp letter
        · rw [String.toList_ofList, Bool.eq_false_iff, ne_eq, Text.isNumeral_iff]
          rintro ⟨-, isDigit⟩
          cases after with
          | nil => exact letters.2 rfl
          | cons char rest =>
              have notDigit := stops char rfl
              by_cases wordChar : Text.isWordChar char = true
              · have digit := isDigit char (List.mem_append_right _ (by simp [wordChar]))
                rw [notDigit] at digit
                contradiction
              · exact letters.2 (List.takeWhile_cons_of_neg wordChar)
    · cases found
      exact ⟨rfl, sign, whole, isSign, digits, String.toList_ofList⟩

theorem isSpelled_of_markOrWord {char : Char} {rest : List Char} {lexeme : Lexeme}
    {afterDot : Bool} (found : markOrWord char rest = .ok lexeme)
    (noDigit : afterDot = false → char.isDigit = false) : lexeme.token.IsSpelled afterDot := by
  unfold markOrWord at found
  split at found
  · next token marked =>
      cases found
      unfold mark? at marked
      split at marked
      all_goals cases marked
      all_goals trivial
  · split at found
    · next wordChar =>
        cases found
        refine ⟨Text.isName_iff.mpr ?_, fun elsewhere => ?_⟩
        · rw [String.toList_ofList]
          refine ⟨List.cons_ne_nil _ _, fun other member => ?_⟩
          obtain rfl | later := List.mem_cons.mp member
          · exact wordChar
          · exact List.mem_takeWhile_imp later
        · rw [String.toList_ofList, Bool.eq_false_iff, ne_eq, Text.isNumeral_iff]
          rintro ⟨-, isDigit⟩
          have digit := isDigit char List.mem_cons_self
          rw [noDigit elsewhere] at digit
          contradiction
    · contradiction

/-- Digits never fail to make a number or a word, with or without a minus sign. -/
theorem number?_isSome {sign : List Char} {char : Char} (isSign : Text.IsSign sign)
    (digit : char.isDigit = true) (rest : List Char) :
    (number? (sign ++ char :: rest)).isSome = true := by
  have digits := Text.isNumeral_takeWhile digit rest
  have shape := number?_append isSign digits (Text.stops_dropWhile Char.isDigit (char :: rest))
  rw [List.append_assoc, List.takeWhile_append_dropWhile] at shape
  rw [shape]
  split
  · rfl
  · split <;> rfl

theorem number?_isSome_of_isDigit {char : Char} (digit : char.isDigit = true)
    (rest : List Char) : (number? (char :: rest)).isSome = true :=
  number?_isSome (.inl rfl) digit rest

theorem isSpelled_of_next {afterDot : Bool} {char : Char} {rest : List Char} {lexeme : Lexeme}
    (found : next afterDot char rest = .ok lexeme) : lexeme.token.IsSpelled afterDot := by
  unfold next at found
  split at found
  · split at found
    · contradiction
    · cases found
      trivial
  · cases afterDot with
    | true => exact isSpelled_of_markOrWord found fun impossible => nomatch impossible
    | false =>
        rw [if_neg Bool.false_ne_true] at found
        cases number : number? (char :: rest) with
        | some read =>
            rw [number] at found
            cases found
            exact isSpelled_of_number? number
        | none =>
            rw [number] at found
            refine isSpelled_of_markOrWord found fun _ => ?_
            rw [Bool.eq_false_iff]
            intro digit
            have some := number?_isSome_of_isDigit digit rest
            rw [number] at some
            contradiction

/-- The tokens that are found are spelled as they must be. -/
theorem areSpelled_of_lexFrom {offset : Nat} {afterDot : Bool} {chars : List Char}
    {located : List Located} (found : lexFrom offset afterDot chars = .ok located) :
    AreSpelled afterDot (located.map (·.token)) := by
  fun_induction lexFrom offset afterDot chars generalizing located with
  | case1 =>
      cases found
      trivial
  | case2 offset afterDot char rest blank ih => exact ih found
  | case3 => contradiction
  | case4 offset afterDot char rest solid lexeme read ih =>
      cases later : lexFrom (offset + lexeme.width) (decide (lexeme.token = .dot))
          (rest.drop (lexeme.width - 1)) with
      | error => rw [later] at found; contradiction
      | ok others =>
          rw [later] at found
          cases found
          exact ⟨isSpelled_of_next read, ih later⟩

theorem areSpelled_of_lex {text : String} {stream : TokenStream}
    (found : lex text = .ok stream) : AreSpelled false stream.tokens := by
  unfold lex at found
  cases located : lexFrom 0 false text.toList with
  | error =>
      rw [located] at found
      contradiction
  | ok tokens =>
      rw [located] at found
      cases found
      exact areSpelled_of_lexFrom located

end Token

end LiveBinding
