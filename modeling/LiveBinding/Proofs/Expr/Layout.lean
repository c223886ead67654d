import LiveBinding.Proofs.Expr.Lexing

/-!
# The layout of a text

The tokens of a text are laid out in it.  Each is written from its position on, nothing but blanks
stands in front of the first, between two and behind the last, and none goes on into what follows
it.  This says without a lexer which tokens a text has, and the lexer finds just these.  A text in
which it finds none is laid out up to a character that it cannot take for the beginning of a token.
-/

namespace LiveBinding

namespace Token

/-! ### How tokens are written -/

/-- What a token is written as.  Only strings may be written in more than one way. -/
def IsWritten (spelling : List Char) : Token → Prop
  | .word text => spelling = text.toList
  | .string text => ∃ quoted, QuotedAs text.toList quoted ∧ spelling = '\'' :: (quoted ++ ['\''])
  | .integer digits => spelling = digits.toList
  | .decimal digits => spelling = digits.toList
  | .openParen => spelling = ['(']
  | .closeParen => spelling = [')']
  | .openBracket => spelling = ['[']
  | .closeBracket => spelling = [']']
  | .comma => spelling = [',']
  | .dot => spelling = ['.']
  | .star => spelling = ['*']

/-- Whether characters go on like a decimal, with a point and a digit. -/
def BeginsFraction (rest : List Char) : Prop :=
  ∃ digit others, rest = '.' :: digit :: others ∧ digit.isDigit = true

/-- Whether a token does not go on with the characters behind it.  Letters make a word of digits,
but not of digits with a minus sign. -/
def EndsBefore (rest : List Char) : Token → Prop
  | .word _ => Text.Stops Text.isWordChar rest
  | .integer digits =>
    ¬BeginsFraction rest ∧
      Text.Stops (if digits.toList.head? = some '-' then Char.isDigit else Text.isWordChar) rest
  | .decimal _ => Text.Stops Char.isDigit rest
  | _ => True

/-- Whether characters are blanks. -/
def AreBlank (chars : List Char) : Prop := ∀ char ∈ chars, Text.isBlank char = true

/-- Located tokens are laid out in characters that begin at a position, behind a point or
elsewhere. -/
inductive Layout : (start : Nat) → (afterDot : Bool) → List Located → List Char → Prop where
  | blanks {start : Nat} {afterDot : Bool} {blanks : List Char} (areBlank : AreBlank blanks) :
      Layout start afterDot [] blanks
  | token {start position : Nat} {afterDot : Bool} {token : Token} {located : List Located}
      {blanks spelling rest : List Char} (areBlank : AreBlank blanks)
      (place : position = start + blanks.length) (spelled : token.IsSpelled afterDot)
      (written : token.IsWritten spelling) (ends : token.EndsBefore rest)
      (later : Layout (position + spelling.length) (decide (token = .dot)) located rest) :
      Layout start afterDot (⟨token, position⟩ :: located) (blanks ++ (spelling ++ rest))

/-- Whether the last of some tokens is a point, or what was in front of them if there are none. -/
def endsInDot (afterDot : Bool) : List Located → Bool
  | [] => afterDot
  | found :: located => endsInDot (decide (found.token = .dot)) located

/-! ### Single tokens -/

theorem fractionDigits_eq_nil_iff {rest : List Char} :
    fractionDigits rest = [] ↔ ¬BeginsFraction rest := by
  constructor
  · rintro none ⟨digit, others, rfl, isDigit⟩
    rw [fractionDigits, List.takeWhile_cons_of_pos isDigit] at none
    contradiction
  · intro noFraction
    unfold fractionDigits
    split
    · next others =>
        cases others with
        | nil => rfl
        | cons digit others =>
            exact List.takeWhile_cons_of_neg fun isDigit =>
              noFraction ⟨digit, others, rfl, isDigit⟩
    · rfl

theorem isWritten_mark {char : Char} {token : Token} (marked : mark? char = some token) :
    token.IsWritten [char] := by
  unfold mark? at marked
  split at marked <;> cases marked
  all_goals rfl

theorem endsBefore_mark {char : Char} {token : Token} (marked : mark? char = some token)
    (rest : List Char) : token.EndsBefore rest := by
  unfold mark? at marked
  split at marked <;> cases marked
  all_goals trivial

/-- A token begins with a quote, a word character, a mark, or a minus sign in front of a digit. -/
theorem cases_of_isWritten {token : Token} {afterDot : Bool} {spelling : List Char}
    (spelled : token.IsSpelled afterDot) (written : token.IsWritten spelling) :
    ∃ char others, spelling = char :: others ∧
      ((char = '\'' ∧ ∃ text quoted, QuotedAs text quoted ∧ others = quoted ++ ['\'']) ∨
        Text.isWordChar char = true ∨ (mark? char).isSome = true ∨
          (afterDot = false ∧ char = '-' ∧
            ∃ digit more, others = digit :: more ∧ digit.isDigit = true)) := by
  -- What numbers begin with, whatever stands behind the digits.
  have number {sign whole : List Char} (rest : List Char) (isSign : Text.IsSign sign)
      (numeral : Text.isNumeral whole = true) : ∃ char others, sign ++ whole ++ rest =
        char :: others ∧ (Text.isWordChar char = true ∨
          (char = '-' ∧ ∃ digit more, others = digit :: more ∧ digit.isDigit = true)) := by
    obtain ⟨nonempty, isDigit⟩ := Text.isNumeral_iff.mp numeral
    obtain ⟨digit, others, rfl⟩ := List.exists_cons_of_ne_nil nonempty
    have first := isDigit digit List.mem_cons_self
    obtain rfl | rfl := isSign
    · exact ⟨digit, others ++ rest, rfl, .inl (Text.isWordChar_of_isDigit first)⟩
    · exact ⟨'-', digit :: others ++ rest, rfl, .inr ⟨rfl, digit, others ++ rest, rfl, first⟩⟩
  cases token with
  | word text =>
      cases written
      obtain ⟨nonempty, all⟩ := Text.isName_iff.mp spelled.1
      obtain ⟨char, others, shape⟩ := List.exists_cons_of_ne_nil nonempty
      have letter := all char (by rw [shape]; exact List.mem_cons_self)
      exact ⟨char, others, shape, .inr (.inl letter)⟩
  | string text =>
      obtain ⟨quoted, quotedAs, rfl⟩ := written
      exact ⟨'\'', _, rfl, .inl ⟨rfl, _, quoted, quotedAs, rfl⟩⟩
  | integer digits =>
      obtain ⟨elsewhere, sign, whole, isSign, numeral, split⟩ := spelled
      cases written
      obtain ⟨char, others, shape, begins⟩ := number [] isSign numeral
      rw [List.append_nil] at shape
      exact ⟨char, others, split.trans shape,
        .inr (begins.imp_right fun minus => .inr ⟨elsewhere, minus⟩)⟩
  | decimal digits =>
      obtain ⟨elsewhere, sign, whole, fraction, isSign, numeral, -, split⟩ := spelled
      cases written
      obtain ⟨char, others, shape, begins⟩ := number ('.' :: fraction) isSign numeral
      exact ⟨char, others, split.trans shape,
        .inr (begins.imp_right fun minus => .inr ⟨elsewhere, minus⟩)⟩
  | _ =>
      cases written
      exact ⟨_, [], rfl, .inr (.inr (.inl rfl))⟩

theorem ne_nil_of_isWritten {token : Token} {afterDot : Bool} {spelling : List Char}
    (spelled : token.IsSpelled afterDot) (written : token.IsWritten spelling) : spelling ≠ [] := by
  obtain ⟨char, others, rfl, -⟩ := cases_of_isWritten spelled written
  exact List.cons_ne_nil char others

/-! ### The tokens that the lexer finds -/

/-- A lexeme is a token as it is written in front of characters with which it does not go on. -/
def Lexeme.Heads (lexeme : Lexeme) (chars : List Char) : Prop :=
  ∃ spelling left, chars = spelling ++ left ∧ lexeme.width = spelling.length ∧
    lexeme.token.IsWritten spelling ∧ lexeme.token.EndsBefore left

theorem heads_of_number? {chars : List Char} {lexeme : Lexeme}
    (found : number? chars = some lexeme) : lexeme.Heads chars := by
  obtain ⟨sign, whole, after, isSign, numeral, stops, rfl⟩ := exists_of_number? found
  rw [number?_append isSign numeral stops] at found
  split at found
  · next fraction =>
      obtain ⟨left, split, stopsLeft⟩ := exists_of_fractionDigits fraction
      cases found
      refine ⟨sign ++ whole ++ '.' :: fractionDigits after, left, ?_, rfl,
        String.toList_ofList.symm, stopsLeft⟩
      rw [List.append_assoc (sign ++ whole), ← split]
  · next noFraction =>
      have noFraction := fractionDigits_eq_nil_iff.mp (not_not.mp noFraction)
      split at found
      · next letters =>
          obtain ⟨rfl, -⟩ := letters
          cases found
          refine ⟨whole ++ after.takeWhile Text.isWordChar, after.dropWhile Text.isWordChar, ?_,
            rfl, String.toList_ofList.symm, Text.stops_dropWhile _ _⟩
          rw [List.append_assoc whole, List.takeWhile_append_dropWhile, List.nil_append]
      · next noLetters =>
          cases found
          refine ⟨sign ++ whole, after, rfl, rfl, String.toList_ofList.symm, noFraction, ?_⟩
          rw [String.toList_ofList]
          split
          · exact stops
          · next unsigned =>
              obtain rfl | rfl := isSign
              · intro char first
                obtain ⟨others, rfl⟩ := List.head?_eq_some_iff.mp first
                rw [Bool.eq_false_iff]
                intro letter
                refine noLetters ⟨rfl, ?_⟩
                rw [List.takeWhile_cons_of_pos letter]
                exact List.cons_ne_nil _ _
              · exact (unsigned rfl).elim

theorem heads_of_markOrWord {char : Char} {rest : List Char} {lexeme : Lexeme}
    (found : markOrWord char rest = .ok lexeme) : lexeme.Heads (char :: rest) := by
  unfold markOrWord at found
  split at found
  · next token marked =>
      cases found
      exact ⟨[char], rest, rfl, rfl, isWritten_mark marked, endsBefore_mark marked rest⟩
  · split at found
    · cases found
      refine ⟨char :: rest.takeWhile Text.isWordChar, rest.dropWhile Text.isWordChar, ?_, rfl,
        String.toList_ofList.symm, Text.stops_dropWhile _ _⟩
      rw [List.cons_append, List.takeWhile_append_dropWhile]
    · contradiction

/-- The next token is written where it is found, and does not go on. -/
theorem heads_of_next {afterDot : Bool} {char : Char} {rest : List Char} {lexeme : Lexeme}
    (found : next afterDot char rest = .ok lexeme) : lexeme.Heads (char :: rest) := by
  unfold next at found
  split at found
  · next quote =>
      split at found
      · contradiction
      · next body =>
          cases found
          cases quote
          obtain ⟨quoted, left, rfl, quotedAs, rfl⟩ := exists_of_stringBody body
          refine ⟨'\'' :: (quoted ++ ['\'']), left, by simp, by simp, ⟨quoted, ?_, rfl⟩, trivial⟩
          rw [String.toList_ofList]
          exact quotedAs
  · split at found
    · next number =>
        cases found
        split at number
        · contradiction
        · exact heads_of_number? number
    · exact heads_of_markOrWord found

/-! ### The tokens that are written -/

/-- A token that is written somewhere and does not go on is the next one. -/
theorem isNext_of_isWritten {afterDot : Bool} {token : Token} {spelling rest : List Char}
    (spelled : token.IsSpelled afterDot) (written : token.IsWritten spelling)
    (ends : token.EndsBefore rest) : IsNext afterDot token spelling rest := by
  cases token with
  | word text =>
      cases written
      exact isNext_word spelled ends
  | string text =>
      obtain ⟨quoted, quotedAs, rfl⟩ := written
      exact isNext_string afterDot quotedAs rest
  | integer digits =>
      obtain ⟨rfl, sign, whole, isSign, numeral, split⟩ := spelled
      obtain ⟨noFraction, stops⟩ := ends
      cases written
      have same : digits = String.ofList (sign ++ whole) := by rw [← split, String.ofList_toList]
      rw [split, same]
      have noFraction := fractionDigits_eq_nil_iff.mpr noFraction
      rw [split] at stops
      obtain rfl | rfl := isSign
      · obtain ⟨nonempty, isDigit⟩ := Text.isNumeral_iff.mp numeral
        have unsigned : whole.head? ≠ some '-' := by
          intro minus
          have digit := isDigit '-' (List.mem_of_mem_head? minus)
          contradiction
        rw [List.nil_append, if_neg unsigned] at stops
        exact isNext_integer (.inl rfl) numeral stops.isDigit noFraction fun _ => stops
      · exact isNext_integer (.inr rfl) numeral stops noFraction nofun
  | decimal digits =>
      obtain ⟨rfl, isDecimal⟩ := spelled
      cases written
      have read := isNext_decimal isDecimal ends
      rwa [String.ofList_toList] at read
  | _ =>
      cases written
      exact isNext_mark afterDot rest rfl

/-! ### Whole texts -/

theorem lexFrom_blanks {blanks : List Char} (areBlank : AreBlank blanks) (start : Nat)
    (afterDot : Bool) (rest : List Char) :
    lexFrom start afterDot (blanks ++ rest) = lexFrom (start + blanks.length) afterDot rest := by
  induction blanks generalizing start with
  | nil => rfl
  | cons char blanks ih =>
      obtain ⟨blank, others⟩ := List.forall_mem_cons.mp areBlank
      rw [List.cons_append, lexFrom, if_pos blank, ih others, List.length_cons, Nat.add_assoc,
        Nat.add_comm 1]

theorem lexFrom_of_isNext {start : Nat} {afterDot : Bool} {token : Token}
    {spelling rest : List Char} (read : IsNext afterDot token spelling rest) :
    lexFrom start afterDot (spelling ++ rest) =
      (lexFrom (start + spelling.length) (decide (token = .dot)) rest).map
        (⟨token, start⟩ :: ·) := by
  obtain ⟨char, behind, rfl, solid, read⟩ := read
  rw [List.cons_append, lexFrom, if_neg (by rw [solid]; exact Bool.false_ne_true), read]
  simp only [List.length_cons, Nat.add_sub_cancel, List.drop_left]

/-- Tokens that are laid out are found. -/
theorem lexFrom_of_layout {start : Nat} {afterDot : Bool} {located : List Located}
    {chars : List Char} (layout : Layout start afterDot located chars) :
    lexFrom start afterDot chars = .ok located := by
  induction layout with
  | @blanks start afterDot blanks areBlank =>
      have skipped := lexFrom_blanks areBlank start afterDot []
      rw [List.append_nil] at skipped
      rw [skipped, lexFrom]
  | token areBlank place spelled written ends later ih =>
      cases place
      rw [lexFrom_blanks areBlank, lexFrom_of_isNext (isNext_of_isWritten spelled written ends), ih]
      rfl

/-- The next token and what stands behind it. -/
theorem exists_of_next {afterDot : Bool} {char : Char} {rest : List Char} {lexeme : Lexeme}
    (found : next afterDot char rest = .ok lexeme) :
    ∃ spelling left, char :: rest = spelling ++ left ∧ lexeme.width = spelling.length ∧
      rest.drop (lexeme.width - 1) = left ∧ lexeme.token.IsSpelled afterDot ∧
        lexeme.token.IsWritten spelling ∧ lexeme.token.EndsBefore left := by
  obtain ⟨spelling, left, split, width, written, ends⟩ := heads_of_next found
  have spelled := isSpelled_of_next found
  obtain ⟨first, others, rfl⟩ := List.exists_cons_of_ne_nil (ne_nil_of_isWritten spelled written)
  obtain ⟨rfl, rfl⟩ := List.cons.inj split
  refine ⟨_, left, split, width, ?_, spelled, written, ends⟩
  rw [width]
  exact List.drop_left

/-- A token stands in front of what is laid out behind it. -/
theorem Layout.behind_token {start : Nat} {afterDot : Bool} {token : Token}
    {located : List Located} {spelling rest : List Char} (spelled : token.IsSpelled afterDot)
    (written : token.IsWritten spelling) (ends : token.EndsBefore rest)
    (later : Layout (start + spelling.length) (decide (token = .dot)) located rest) :
    Layout start afterDot (⟨token, start⟩ :: located) (spelling ++ rest) := by
  have areBlank : AreBlank [] := List.forall_mem_nil _
  exact .token areBlank rfl spelled written ends later

/-- Blanks may stand in front. -/
theorem Layout.behind_blanks {start : Nat} {afterDot : Bool} {located : List Located}
    {blanks chars : List Char} (areBlank : AreBlank blanks)
    (layout : Layout (start + blanks.length) afterDot located chars) :
    Layout start afterDot located (blanks ++ chars) := by
  cases layout with
  | blanks others => exact .blanks (List.forall_mem_append.mpr ⟨areBlank, others⟩)
  | token others place spelled written ends later =>
      rw [← List.append_assoc]
      refine .token (List.forall_mem_append.mpr ⟨areBlank, others⟩) ?_ spelled written ends later
      rw [place, List.length_append, Nat.add_assoc]

theorem Layout.behind_blank {start : Nat} {afterDot : Bool} {located : List Located}
    {char : Char} {chars : List Char} (blank : Text.isBlank char = true)
    (layout : Layout (start + 1) afterDot located chars) :
    Layout start afterDot located (char :: chars) := by
  have areBlank : AreBlank [char] := List.forall_mem_singleton.mpr blank
  exact layout.behind_blanks areBlank

/-- Tokens that are found are laid out. -/
theorem layout_of_lexFrom {start : Nat} {afterDot : Bool} {chars : List Char}
    {located : List Located} (found : lexFrom start afterDot chars = .ok located) :
    Layout start afterDot located chars := by
  fun_induction lexFrom start afterDot chars generalizing located with
  | case1 =>
      cases found
      exact .blanks (List.forall_mem_nil _)
  | case2 start afterDot char rest blank ih => exact (ih found).behind_blank blank
  | case3 => contradiction
  | case4 start afterDot char rest solid lexeme read ih =>
      obtain ⟨spelling, left, split, width, cut, spelled, written, ends⟩ := exists_of_next read
      rw [cut, width] at ih found
      cases later : lexFrom (start + spelling.length) (decide (lexeme.token = .dot)) left with
      | error =>
          rw [later] at found
          contradiction
      | ok others =>
          rw [later] at found
          cases found
          rw [split]
          exact .behind_token spelled written ends (ih later)

/-- The tokens of a text are those that are laid out in it. -/
theorem lex_eq_ok_iff {text : String} {stream : TokenStream} :
    lex text = .ok stream ↔
      Layout 0 false stream.located text.toList ∧ stream.length = text.toList.length := by
  rw [lex]
  constructor
  · intro found
    cases located : lexFrom 0 false text.toList with
    | error =>
        rw [located] at found
        contradiction
    | ok tokens =>
        rw [located] at found
        cases found
        exact ⟨layout_of_lexFrom located, rfl⟩
  · rintro ⟨layout, length⟩
    rw [lexFrom_of_layout layout, ← length]
    rfl

theorem Layout.tokensFrom_eq {start : Nat} {afterDot : Bool} {located : List Located}
    {chars : List Char} (layout : Layout start afterDot located chars) :
    tokensFrom afterDot chars = some (located.map (·.token)) := by
  rw [tokensFrom, found?_lexFrom 0 afterDot chars start, lexFrom_of_layout layout]
  rfl

theorem exists_layout_of_tokensFrom {afterDot : Bool} {chars : List Char} {tokens : List Token}
    (found : tokensFrom afterDot chars = some tokens) :
    ∃ located, Layout 0 afterDot located chars ∧ located.map (·.token) = tokens := by
  rw [tokensFrom] at found
  cases lexed : lexFrom 0 afterDot chars with
  | error =>
      rw [lexed] at found
      contradiction
  | ok located =>
      rw [lexed] at found
      cases found
      exact ⟨located, layout_of_lexFrom lexed, rfl⟩

/-! ### Texts that are continued and texts that are cut off -/

/-- A token does not go on behind other characters if it goes on neither with these nor with what
stands there. -/
theorem EndsBefore.append {token : Token} {rest more : List Char} (ends : token.EndsBefore rest)
    (stops : Text.Stops Text.isWordChar more) (noPoint : more.head? ≠ some '.') :
    token.EndsBefore (rest ++ more) := by
  cases token with
  | word => exact Text.Stops.append ends stops
  | decimal => exact Text.Stops.append ends stops.isDigit
  | integer digits =>
      obtain ⟨noFraction, stopsHere⟩ := ends
      constructor
      · rintro ⟨digit, others, shape, isDigit⟩
        obtain _ | ⟨first, _ | ⟨second, later⟩⟩ := rest
        · rw [List.nil_append] at shape
          exact noPoint (congrArg List.head? shape)
        · obtain ⟨rfl, rfl⟩ := List.cons.inj shape
          have letter := stops digit rfl
          rw [Text.isWordChar_of_isDigit isDigit] at letter
          contradiction
        · cases shape
          exact noFraction ⟨digit, later, rfl, isDigit⟩
      · refine stopsHere.append ?_
        split
        · exact stops.isDigit
        · exact stops
  | _ => trivial

theorem BeginsFraction.append {rest : List Char} (fraction : BeginsFraction rest)
    (more : List Char) : BeginsFraction (rest ++ more) := by
  obtain ⟨digit, others, rfl, isDigit⟩ := fraction
  exact ⟨digit, others ++ more, rfl, isDigit⟩

/-- A token does not go on with the first of the characters behind it either. -/
theorem EndsBefore.of_append {token : Token} {rest more : List Char}
    (ends : token.EndsBefore (rest ++ more)) : token.EndsBefore rest := by
  cases token with
  | word | decimal => exact Text.Stops.of_append ends
  | integer => exact ⟨fun fraction => ends.1 (fraction.append more), ends.2.of_append⟩
  | _ => trivial

/-- Up to where no token begins, the text is laid out. -/
theorem layout_of_error {start : Nat} {afterDot : Bool} {chars : List Char} {error : ParseError}
    (failed : lexFrom start afterDot chars = .error error) :
    ∃ located before char behind, chars = before ++ char :: behind ∧
      error.offset = start + before.length ∧ Layout start afterDot located before ∧
        Text.isBlank char = false ∧
          next (endsInDot afterDot located) char behind = .error error.cause := by
  fun_induction lexFrom start afterDot chars with
  | case1 => contradiction
  | case2 start afterDot char rest blank ih =>
      obtain ⟨located, before, stop, behind, rfl, place, layout, failedNext⟩ := ih failed
      refine ⟨located, char :: before, stop, behind, rfl, ?_, layout.behind_blank blank, failedNext⟩
      rw [place, List.length_cons]
      omega
  | case3 start afterDot char rest solid cause failedNext =>
      cases failed
      exact ⟨[], [], char, rest, rfl, rfl, .blanks (List.forall_mem_nil _),
        Bool.eq_false_iff.mpr solid, failedNext⟩
  | case4 start afterDot char rest solid lexeme read ih =>
      obtain ⟨spelling, left, split, width, cut, spelled, written, ends⟩ := exists_of_next read
      rw [cut, width] at ih failed
      cases later : lexFrom (start + spelling.length) (decide (lexeme.token = .dot)) left with
      | ok others =>
          rw [later] at failed
          contradiction
      | error inner =>
          rw [later] at failed
          cases failed
          obtain ⟨located, before, stop, behind, rfl, place, layout, failedNext⟩ := ih later
          refine ⟨_, spelling ++ before, stop, behind, ?_, ?_,
            .behind_token spelled written ends.of_append layout, failedNext⟩
          · rw [split, List.append_assoc]
          · rw [place, List.length_append, Nat.add_assoc]

end Token

end LiveBinding
