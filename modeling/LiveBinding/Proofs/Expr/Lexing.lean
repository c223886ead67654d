import LiveBinding.Expr.Text
import LiveBinding.Proofs.Expr.Spelling

/-!
# Tokens are read back

A token that is written as it must be is read back as the same token, whatever follows that cannot
be taken for a part of it.  What comes behind it is read on its own.
-/

namespace LiveBinding.Token

/-! ### Positions have no part in it -/

/-- The tokens that were found, without their positions. -/
def found? (outcome : Except ParseError (List Located)) : Option (List Token) :=
  outcome.toOption.map fun located => located.map (·.token)

/-- The tokens of characters behind a point or elsewhere, if all of them can be read. -/
def tokensFrom (afterDot : Bool) (chars : List Char) : Option (List Token) :=
  found? (lexFrom 0 afterDot chars)

theorem found?_lexFrom (offset : Nat) (afterDot : Bool) (chars : List Char) (other : Nat) :
    found? (lexFrom offset afterDot chars) = found? (lexFrom other afterDot chars) := by
  fun_induction lexFrom offset afterDot chars generalizing other with
  | case1 => rw [lexFrom]
  | case2 offset afterDot char rest blank ih =>
      rw [lexFrom, if_pos blank]
      exact ih _
  | case3 offset afterDot char rest solid cause failed =>
      rw [lexFrom, if_neg solid, failed]
      rfl
  | case4 offset afterDot char rest solid lexeme read ih =>
      have same := ih (other + lexeme.width)
      have later : lexFrom other afterDot (char :: rest) =
          (lexFrom (other + lexeme.width) (lexeme.token = .dot)
            (rest.drop (lexeme.width - 1))).map (⟨lexeme.token, other⟩ :: ·) := by
        rw [lexFrom, if_neg solid, read]
      rw [later]
      revert same
      cases lexFrom (offset + lexeme.width) (lexeme.token = .dot) (rest.drop (lexeme.width - 1)) <;>
        cases lexFrom (other + lexeme.width) (lexeme.token = .dot) (rest.drop (lexeme.width - 1))
      all_goals simp [found?, Except.map, Except.toOption]

theorem tokensFrom_nil (afterDot : Bool) : tokensFrom afterDot [] = some [] := by
  rw [tokensFrom, lexFrom]
  rfl

/-- Blanks are skipped. -/
theorem tokensFrom_blank {afterDot : Bool} {char : Char} {rest : List Char}
    (blank : Text.isBlank char = true) :
    tokensFrom afterDot (char :: rest) = tokensFrom afterDot rest := by
  rw [tokensFrom, lexFrom, if_pos blank]
  exact found?_lexFrom _ _ _ _

theorem tokensFrom_blanks {afterDot : Bool} {blanks : List Char}
    (blank : ∀ char ∈ blanks, Text.isBlank char = true) (rest : List Char) :
    tokensFrom afterDot (blanks ++ rest) = tokensFrom afterDot rest := by
  induction blanks with
  | nil => rfl
  | cons char blanks ih =>
      rw [List.cons_append, tokensFrom_blank (blank char List.mem_cons_self)]
      exact ih fun other member => blank other (List.mem_cons_of_mem char member)

/-- One token is read, and then those behind it. -/
theorem tokensFrom_of_next {afterDot : Bool} {char : Char} {rest left : List Char}
    {lexeme : Lexeme} (solid : Text.isBlank char = false)
    (read : next afterDot char rest = .ok lexeme) (behind : rest.drop (lexeme.width - 1) = left) :
    tokensFrom afterDot (char :: rest) =
      (tokensFrom (decide (lexeme.token = .dot)) left).map (lexeme.token :: ·) := by
  cases behind
  rw [tokensFrom, lexFrom, if_neg (by rw [solid]; exact Bool.false_ne_true), read,
    tokensFrom, ← found?_lexFrom (0 + lexeme.width)]
  dsimp only
  cases lexFrom (0 + lexeme.width) (decide (lexeme.token = .dot))
      (rest.drop (lexeme.width - 1)) with
  | error => rfl
  | ok located => rfl

theorem tokensFrom_of_error {afterDot : Bool} {char : Char} {rest : List Char}
    {cause : ParseError.Cause} (solid : Text.isBlank char = false)
    (failed : next afterDot char rest = .error cause) :
    tokensFrom afterDot (char :: rest) = none := by
  rw [tokensFrom, lexFrom, if_neg (by rw [solid]; exact Bool.false_ne_true), failed]
  rfl

/-- Characters are read as one token in front of others, behind a point or elsewhere. -/
def IsNext (afterDot : Bool) (token : Token) (spelling rest : List Char) : Prop :=
  ∃ char behind, spelling = char :: behind ∧ Text.isBlank char = false ∧
    next afterDot char (behind ++ rest) = .ok ⟨token, spelling.length⟩

theorem tokensFrom_of_isNext {afterDot : Bool} {token : Token} {spelling rest : List Char}
    (read : IsNext afterDot token spelling rest) :
    tokensFrom afterDot (spelling ++ rest) =
      (tokensFrom (decide (token = .dot)) rest).map (token :: ·) := by
  obtain ⟨char, behind, rfl, solid, read⟩ := read
  exact tokensFrom_of_next solid read List.drop_left

/-- Behind a token that is no point a number may stand. -/
theorem tokensFrom_of_isNext_of_ne {afterDot : Bool} {token : Token} {spelling rest : List Char}
    (read : IsNext afterDot token spelling rest) (noDot : token ≠ .dot) :
    tokensFrom afterDot (spelling ++ rest) = (tokensFrom false rest).map (token :: ·) := by
  rw [tokensFrom_of_isNext read, decide_eq_false noDot]

/-- The tokens of a text are those of its characters. -/
theorem tokens_of_lex {text : String} : (lex text).toOption.map TokenStream.tokens =
    tokensFrom false text.toList := by
  rw [lex, tokensFrom]
  cases lexFrom 0 false text.toList with
  | error => rfl
  | ok located => rfl

/-! ### Marks, words and numbers -/

/-- Without a point there are no digits behind it. -/
theorem fractionDigits_eq_nil {rest : List Char} (noPoint : rest.head? ≠ some '.') :
    fractionDigits rest = [] := by
  rw [fractionDigits]
  rintro others rfl
  exact noPoint rfl

theorem number?_eq_none {char : Char} (noDigit : char.isDigit = false) (noMinus : char ≠ '-')
    (rest : List Char) : number? (char :: rest) = none := by
  have whole : takeMinus (char :: rest) = ([], char :: rest) := by
    rw [takeMinus]
    intro others same
    cases same
    contradiction
  rw [number?, whole]
  simp [noDigit]

theorem next_eq_markOrWord {afterDot : Bool} {char : Char} (noQuote : char ≠ '\'')
    (noNumber : afterDot = true ∨ char.isDigit = false ∧ char ≠ '-') (rest : List Char) :
    next afterDot char rest = markOrWord char rest := by
  rw [next, if_neg noQuote]
  obtain rfl | ⟨noDigit, noMinus⟩ := noNumber
  · rfl
  · rw [number?_eq_none noDigit noMinus]
    cases afterDot <;> rfl

/-- A mark is read alone. -/
theorem isNext_mark {char : Char} {token : Token} (afterDot : Bool) (rest : List Char)
    (marked : mark? char = some token) : IsNext afterDot token [char] rest := by
  have fits : Text.isBlank char = false ∧ char ≠ '\'' ∧ char.isDigit = false ∧ char ≠ '-' := by
    unfold mark? at marked
    split at marked
    all_goals first | decide | contradiction
  obtain ⟨solid, noQuote, noNumber⟩ := fits
  refine ⟨char, [], rfl, solid, ?_⟩
  rw [next_eq_markOrWord noQuote (.inr noNumber), markOrWord, marked]
  rfl

theorem tokensFrom_mark {char : Char} {token : Token} (afterDot : Bool) (rest : List Char)
    (marked : mark? char = some token) :
    tokensFrom afterDot (char :: rest) =
      (tokensFrom (decide (token = .dot)) rest).map (token :: ·) :=
  tokensFrom_of_isNext (isNext_mark afterDot rest marked)

/-- Behind a mark that is no point a number may stand. -/
theorem tokensFrom_mark_of_ne {char : Char} {token : Token} (rest : List Char)
    (marked : mark? char = some token) (noDot : token ≠ .dot) :
    tokensFrom false (char :: rest) = (tokensFrom false rest).map (token :: ·) := by
  rw [tokensFrom_mark false rest marked, decide_eq_false noDot]

/-- What is no word character. -/
theorem ne_of_isWordChar {char other : Char} (wordChar : Text.isWordChar char = true)
    (noWordChar : Text.isWordChar other = false) : char ≠ other := by
  rintro rfl
  rw [wordChar] at noWordChar
  contradiction

theorem mark?_eq_none {char : Char} (wordChar : Text.isWordChar char = true) :
    mark? char = none := by
  unfold mark?
  split
  all_goals first
    | rfl
    | exact absurd rfl (ne_of_isWordChar wordChar (Text.isWordChar_eq_false _ (by decide)))

/-- A word is read where no number is. -/
theorem isNext_letters {afterDot : Bool} {char : Char} {letters rest : List Char}
    (noNumber : afterDot = true ∨ char.isDigit = false)
    (all : ∀ other ∈ char :: letters, Text.isWordChar other = true)
    (stops : Text.Stops Text.isWordChar rest) :
    IsNext afterDot (.word (String.ofList (char :: letters))) (char :: letters) rest := by
  have wordChar := all char List.mem_cons_self
  have noMinus : char ≠ '-' := ne_of_isWordChar wordChar (Text.isWordChar_eq_false _ (by decide))
  have noQuote : char ≠ '\'' := ne_of_isWordChar wordChar (Text.isWordChar_eq_false _ (by decide))
  have taken := Text.takeWhile_append_of_stops
    (fun other member => all other (List.mem_cons_of_mem char member)) stops
  refine ⟨char, letters, rfl, Text.isBlank_eq_false wordChar, ?_⟩
  rw [next_eq_markOrWord noQuote (noNumber.imp_right fun noDigit => ⟨noDigit, noMinus⟩),
    markOrWord, mark?_eq_none wordChar]
  simp only [wordChar, if_true, taken]
  rfl

theorem tokensFrom_letters {afterDot : Bool} {char : Char} {letters rest : List Char}
    (noNumber : afterDot = true ∨ char.isDigit = false)
    (all : ∀ other ∈ char :: letters, Text.isWordChar other = true)
    (stops : Text.Stops Text.isWordChar rest) :
    tokensFrom afterDot (char :: (letters ++ rest)) =
      (tokensFrom false rest).map (.word (String.ofList (char :: letters)) :: ·) :=
  tokensFrom_of_isNext_of_ne (isNext_letters noNumber all stops) nofun

/-- Where a number may stand, what begins like one is read as one, or as a word. -/
theorem isNext_number (make : String → Token) {sign whole : List Char}
    (others rest : List Char) (isSign : Text.IsSign sign) (numeral : Text.isNumeral whole = true)
    (read : number? (sign ++ whole ++ others ++ rest) =
      some (spelled make (sign ++ whole ++ others))) :
    IsNext false (make (String.ofList (sign ++ whole ++ others))) (sign ++ whole ++ others)
      rest := by
  obtain ⟨nonempty, isDigit⟩ := Text.isNumeral_iff.mp numeral
  obtain ⟨char, behind, shape, solid, noQuote⟩ : ∃ char behind,
      sign ++ whole ++ others = char :: behind ∧ Text.isBlank char = false ∧ char ≠ '\'' := by
    obtain rfl | rfl := isSign
    · cases whole with
      | nil => contradiction
      | cons char behind =>
          have wordChar := Text.isWordChar_of_isDigit (isDigit char List.mem_cons_self)
          exact ⟨char, behind ++ others, rfl, Text.isBlank_eq_false wordChar,
            ne_of_isWordChar wordChar (Text.isWordChar_eq_false _ (by decide))⟩
    · exact ⟨'-', whole ++ others, rfl, by decide, by decide⟩
  rw [shape] at read ⊢
  refine ⟨char, behind, rfl, solid, ?_⟩
  rw [List.cons_append] at read
  rw [next, if_neg noQuote, if_neg Bool.false_ne_true, read]
  rfl

/-- Digits are a number where no letters run into them.  Behind a minus sign letters do not. -/
theorem isNext_integer {sign whole rest : List Char} (isSign : Text.IsSign sign)
    (numeral : Text.isNumeral whole = true) (stops : Text.Stops Char.isDigit rest)
    (noFraction : fractionDigits rest = [])
    (noLetters : sign = [] → Text.Stops Text.isWordChar rest) :
    IsNext false (.integer (String.ofList (sign ++ whole))) (sign ++ whole) rest := by
  have read := number?_append isSign numeral stops
  rw [if_neg (by simp [noFraction]), if_neg] at read
  · have isNext := isNext_number .integer [] rest isSign numeral
    simp only [List.append_nil] at isNext
    exact isNext read
  · rintro ⟨unsigned, letters⟩
    have none := @Text.takeWhile_append_of_stops _ [] _ nofun (noLetters unsigned)
    exact letters none

theorem tokensFrom_integer {digits rest : List Char} (integer : Text.IsInteger digits)
    (stops : Text.Stops Text.isWordChar rest) (noFraction : fractionDigits rest = []) :
    tokensFrom false (digits ++ rest) =
      (tokensFrom false rest).map (.integer (String.ofList digits) :: ·) := by
  obtain ⟨sign, whole, isSign, numeral, rfl⟩ := integer
  exact tokensFrom_of_isNext_of_ne
    (isNext_integer isSign numeral stops.isDigit noFraction fun _ => stops) nofun

theorem isNext_decimal {digits rest : List Char} (decimal : Text.IsDecimal digits)
    (stops : Text.Stops Char.isDigit rest) :
    IsNext false (.decimal (String.ofList digits)) digits rest := by
  obtain ⟨sign, whole, fraction, isSign, numeral, fractionNumeral, rfl⟩ := decimal
  obtain ⟨some, isDigit⟩ := Text.isNumeral_iff.mp fractionNumeral
  have taken : fractionDigits ('.' :: fraction ++ rest) = fraction :=
    Text.takeWhile_append_of_stops isDigit stops
  have point : Text.Stops Char.isDigit ('.' :: fraction ++ rest) := Text.stops_cons rfl
  refine isNext_number .decimal _ rest isSign numeral ?_
  rw [List.append_assoc (sign ++ whole), number?_append isSign numeral point, taken, if_pos some]

theorem tokensFrom_decimal {digits rest : List Char} (decimal : Text.IsDecimal digits)
    (stops : Text.Stops Char.isDigit rest) :
    tokensFrom false (digits ++ rest) =
      (tokensFrom false rest).map (.decimal (String.ofList digits) :: ·) :=
  tokensFrom_of_isNext_of_ne (isNext_decimal decimal stops) nofun

/-- Digits that run into letters are a word. -/
theorem isNext_digits_letters {whole letters rest : List Char}
    (numeral : Text.isNumeral whole = true) (some : letters ≠ [])
    (all : ∀ char ∈ letters, Text.isWordChar char = true)
    (noDigit : Text.Stops Char.isDigit letters) (stops : Text.Stops Text.isWordChar rest) :
    IsNext false (.word (String.ofList (whole ++ letters))) (whole ++ letters) rest := by
  have taken : (letters ++ rest).takeWhile Text.isWordChar = letters :=
    Text.takeWhile_append_of_stops all stops
  cases letters with
  | nil => contradiction
  | cons char others =>
      have point : Text.isWordChar '.' = false := Text.isWordChar_eq_false _ (by decide)
      have noFraction : fractionDigits (char :: others ++ rest) = [] := by
        rw [fractionDigits]
        rintro tail same
        cases same
        have noPoint := ne_of_isWordChar (all '.' List.mem_cons_self) point
        exact noPoint rfl
      have unsigned : Text.IsSign [] := .inl rfl
      have stopsDigits : Text.Stops Char.isDigit (char :: others ++ rest) :=
        Text.stops_cons (noDigit char rfl)
      have read := number?_append unsigned numeral stopsDigits
      rw [taken, noFraction, if_neg (not_not_intro rfl), if_pos ⟨rfl, some⟩] at read
      have isNext := isNext_number .word (char :: others) rest unsigned numeral
      simp only [List.nil_append, List.append_assoc] at read isNext ⊢
      exact isNext read

/-- A word is read wherever it may stand. -/
theorem isNext_word {afterDot : Bool} {text : String} {rest : List Char}
    (spelled : (word text).IsSpelled afterDot) (stops : Text.Stops Text.isWordChar rest) :
    IsNext afterDot (.word text) text.toList rest := by
  obtain ⟨name, noNumeral⟩ := spelled
  obtain ⟨nonempty, all⟩ := Text.isName_iff.mp name
  have same : text = String.ofList text.toList := String.ofList_toList.symm
  generalize text.toList = chars at *
  cases same
  cases chars with
  | nil => contradiction
  | cons char letters =>
      by_cases noNumber : afterDot = true ∨ char.isDigit = false
      · exact isNext_letters noNumber all stops
      · obtain ⟨behindNone, digit⟩ : afterDot = false ∧ char.isDigit = true := by
          simpa using noNumber
        cases behindNone
        have numeral := Text.isNumeral_takeWhile digit letters
        have split : (char :: letters).takeWhile Char.isDigit ++
            (char :: letters).dropWhile Char.isDigit = char :: letters :=
          List.takeWhile_append_dropWhile
        rw [← split]
        refine isNext_digits_letters numeral ?_ ?_ (Text.stops_dropWhile _ _) stops
        · intro empty
          rw [empty, List.append_nil] at split
          rw [split] at numeral
          rw [numeral] at noNumeral
          exact absurd (noNumeral rfl) (by decide)
        · intro other member
          exact all other ((List.dropWhile_sublist Char.isDigit).mem member)

theorem tokensFrom_word {afterDot : Bool} {text : String} {rest : List Char}
    (spelled : (word text).IsSpelled afterDot) (stops : Text.Stops Text.isWordChar rest) :
    tokensFrom afterDot (text.toList ++ rest) = (tokensFrom false rest).map (.word text :: ·) :=
  tokensFrom_of_isNext_of_ne (isNext_word spelled stops) nofun

/-! ### The pieces of paths and calls -/

/-- A key is read behind its point. -/
theorem tokensFrom_key {name : String} {rest : List Char} (isName : Text.isName name = true)
    (stops : Text.Stops Text.isWordChar rest) :
    tokensFrom false ('.' :: (name.toList ++ rest)) =
      (tokensFrom false rest).map ([.dot, .word name] ++ ·) := by
  have spelled : (word name).IsSpelled true := ⟨isName, nofun⟩
  rw [tokensFrom_mark false _ (rfl : mark? '.' = some .dot), decide_eq_true rfl,
    tokensFrom_word spelled stops, Option.map_map]
  rfl

/-- A position is read between its brackets. -/
theorem tokensFrom_index (position : Nat) (rest : List Char) :
    tokensFrom false ('[' :: (Text.digitChars position ++ ']' :: rest)) =
      (tokensFrom false rest).map
        ([.openBracket, .integer (Text.natText position), .closeBracket] ++ ·) := by
  have integer : Text.IsInteger (Text.digitChars position) :=
    ⟨[], _, .inl rfl, Text.isNumeral_digitChars position, rfl⟩
  have bracket : Text.Stops Text.isWordChar (']' :: rest) :=
    Text.stops_cons (Text.isWordChar_eq_false ']' (by decide))
  rw [tokensFrom_mark_of_ne _ (rfl : mark? '[' = some .openBracket) nofun,
    tokensFrom_integer integer bracket (fractionDigits_eq_nil nofun),
    tokensFrom_mark_of_ne _ (rfl : mark? ']' = some .closeBracket) nofun,
    Option.map_map, Option.map_map]
  rfl

theorem tokensFrom_closeParen (rest : List Char) : tokensFrom false (')' :: rest) =
    (tokensFrom false rest).map (.closeParen :: ·) :=
  tokensFrom_mark_of_ne rest rfl nofun

/-- A comma is written with a blank behind it, which is skipped. -/
theorem tokensFrom_comma (rest : List Char) : tokensFrom false (',' :: ' ' :: rest) =
    (tokensFrom false rest).map (.comma :: ·) := by
  have blank : Text.isBlank ' ' = true := by decide
  rw [tokensFrom_mark_of_ne _ (rfl : mark? ',' = some .comma) nofun,
    tokensFrom_blank blank]

/-! ### Strings -/

theorem literalChars_cons (char : Char) (chars : List Char) :
    Value.literalChars (String.ofList (char :: chars)) =
      (if char = '\'' ∨ char = '\\' then ['\\', char] else [char]) ++
        Value.literalChars (String.ofList chars) := by
  simp only [Value.literalChars, String.toList_ofList, List.flatMap_cons]

/-- The printer quotes a text as the lexer takes it. -/
theorem quotedAs_literalChars (chars : List Char) :
    QuotedAs chars (Value.literalChars (String.ofList chars)) := by
  induction chars with
  | nil => exact .nil
  | cons char chars ih =>
      rw [literalChars_cons]
      by_cases escaped : char = '\'' ∨ char = '\\'
      · rw [if_pos escaped]
        obtain rfl | rfl := escaped
        · exact ih.hiddenQuote
        · exact ih.hiddenBackslash
      · rw [if_neg escaped]
        obtain ⟨noQuote, noBackslash⟩ := not_or.mp escaped
        exact ih.plain noQuote noBackslash

theorem isNext_string (afterDot : Bool) {text : String} {quoted : List Char}
    (quotedAs : QuotedAs text.toList quoted) (rest : List Char) :
    IsNext afterDot (.string text) ('\'' :: (quoted ++ ['\''])) rest := by
  refine ⟨'\'', quoted ++ ['\''], rfl, by decide, ?_⟩
  rw [next, if_pos rfl, List.append_assoc, List.singleton_append, stringBody_of_quotedAs quotedAs]
  simp only [String.ofList_toList, List.length_cons, List.length_append, List.length_nil]

theorem tokensFrom_string (text : String) (rest : List Char) :
    tokensFrom false ('\'' :: (Value.literalChars text ++ '\'' :: rest)) =
      (tokensFrom false rest).map (.string text :: ·) := by
  have quotedAs := quotedAs_literalChars text.toList
  rw [String.ofList_toList] at quotedAs
  have read := tokensFrom_of_isNext_of_ne (isNext_string false quotedAs rest) nofun
  rwa [List.cons_append, List.append_assoc, List.singleton_append] at read

/-! ### What is no token -/

/-- A minus sign without digits behind it is no token. -/
theorem tokensFrom_minus {char : Char} (noDigit : char.isDigit = false) (rest : List Char) :
    tokensFrom false ('-' :: char :: rest) = none := by
  have noNumber : number? ('-' :: char :: rest) = none := by
    simp [number?, takeMinus, noDigit]
  have noWord : Text.isWordChar '-' = false := Text.isWordChar_eq_false _ (by decide)
  have failed : next false '-' (char :: rest) = .error (.unexpectedChar '-') := by
    rw [next, if_neg (by decide), if_neg Bool.false_ne_true, noNumber, markOrWord]
    simp [mark?, noWord]
  exact tokensFrom_of_error (by decide) failed

end LiveBinding.Token
