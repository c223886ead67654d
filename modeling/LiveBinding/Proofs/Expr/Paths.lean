import LiveBinding.Proofs.Expr.Layout
import LiveBinding.Proofs.Expr.RoundTrip

/-!
# Paths in bindings and paths by themselves

What a binding has behind its first name can be given by itself as the path of a write.  The same
characters are then read in another place: in the binding they stand behind a point, where digits
are a name, and by themselves they stand at the beginning, where digits may be a number.  Digits
alone and digits that run into letters come to the same in both places.  Digits with a point and a
digit behind them do not: in the binding these are two names, and by themselves a decimal, which is
no path.
-/

namespace LiveBinding

namespace Token

/-! ### Digits at the beginning -/

/-- Whether characters begin like a decimal, with digits, a point and a digit.  Blanks in front do
not count. -/
def beginsDecimal (chars : List Char) : Bool :=
  let solid := chars.dropWhile Text.isBlank
  decide (solid.takeWhile Char.isDigit ≠ [] ∧ fractionDigits (solid.dropWhile Char.isDigit) ≠ [])

theorem beginsDecimal_blanks {blanks : List Char}
    (blank : ∀ char ∈ blanks, Text.isBlank char = true) (rest : List Char) :
    beginsDecimal (blanks ++ rest) = beginsDecimal rest := by
  rw [beginsDecimal, List.dropWhile_append_of_pos blank, beginsDecimal]

theorem dropWhile_isBlank_name {name : String} (isName : Text.isName name = true)
    (rest : List Char) : (name.toList ++ rest).dropWhile Text.isBlank = name.toList ++ rest := by
  obtain ⟨nonempty, all⟩ := Text.isName_iff.mp isName
  cases chars : name.toList with
  | nil => contradiction
  | cons char letters =>
      have noBlank := Text.isBlank_eq_false (all char (by rw [chars]; exact List.mem_cons_self))
      rw [List.cons_append, List.dropWhile_cons_of_neg (by simp [noBlank])]

/-- Behind the digits of a name with letters there is a letter, and no point. -/
theorem fractionDigits_behind_digits {name : String} (isName : Text.isName name = true)
    (letters : ¬Text.isNumeral name.toList = true) (rest : List Char) :
    fractionDigits ((name.toList ++ rest).dropWhile Char.isDigit) = [] := by
  obtain ⟨nonempty, all⟩ := Text.isName_iff.mp isName
  rw [List.dropWhile_append]
  cases left : name.toList.dropWhile Char.isDigit with
  | nil =>
      rw [List.dropWhile_eq_nil_iff] at left
      exact absurd (Text.isNumeral_iff.mpr ⟨nonempty, left⟩) letters
  | cons char others =>
      have member : char ∈ name.toList :=
        (List.dropWhile_sublist Char.isDigit).mem (left ▸ List.mem_cons_self)
      have noPoint : char ≠ '.' :=
        ne_of_isWordChar (all char member) (Text.isWordChar_eq_false _ (by decide))
      refine fractionDigits_eq_nil ?_
      simpa using noPoint

/-- A name in letters does not begin like a decimal, and one in digits only if what follows goes on
like one. -/
theorem beginsDecimal_name {name : String} (isName : Text.isName name = true) {rest : List Char}
    (stops : Text.Stops Text.isWordChar rest) :
    beginsDecimal (name.toList ++ rest) = true ↔
      Text.isNumeral name.toList = true ∧ fractionDigits rest ≠ [] := by
  rw [beginsDecimal, dropWhile_isBlank_name isName, decide_eq_true_iff]
  by_cases numeral : Text.isNumeral name.toList = true
  · obtain ⟨nonempty, isDigit⟩ := Text.isNumeral_iff.mp numeral
    rw [Text.takeWhile_append_of_stops isDigit stops.isDigit,
      Text.dropWhile_append_of_stops isDigit stops.isDigit]
    exact and_congr_left' (iff_of_true nonempty numeral)
  · rw [fractionDigits_behind_digits isName numeral]
    exact iff_of_false (fun begins => begins.2 rfl) fun both => numeral both.1

/-! ### A name behind a point and at the beginning -/

/-- Where a word was read behind a point, there are blanks, its characters, and what follows. -/
theorem exists_of_word_behind_point {chars : List Char} {name : String} {tokens : List Token}
    (found : tokensFrom true chars = some (.word name :: tokens)) :
    ∃ blanks rest, (∀ char ∈ blanks, Text.isBlank char = true) ∧
      chars = blanks ++ (name.toList ++ rest) ∧ Text.isName name = true ∧
        Text.Stops Text.isWordChar rest ∧ tokensFrom false rest = some tokens := by
  obtain ⟨located, layout, same⟩ := exists_layout_of_tokensFrom found
  cases layout with
  | blanks => contradiction
  | @token _ _ _ token _ blanks spelling rest areBlank _ spelled written ends later =>
      obtain ⟨rfl, rfl⟩ := List.cons.inj same
      cases written
      exact ⟨blanks, rest, areBlank, rfl, spelled.1, ends, later.tokensFrom_eq⟩

/-- At the beginning the same characters are the same word, or digits that are its name, unless
they begin like a decimal. -/
theorem tokensFrom_at_start {name : String} {rest : List Char} {tokens : List Token}
    (isName : Text.isName name = true) (stops : Text.Stops Text.isWordChar rest)
    (later : tokensFrom false rest = some tokens)
    (noDecimal : beginsDecimal (name.toList ++ rest) = false) :
    ∃ token, Parser.key? token = some name ∧ token ≠ .star ∧ token ≠ .openBracket ∧
      tokensFrom false (name.toList ++ rest) = some (token :: tokens) := by
  by_cases numeral : Text.isNumeral name.toList = true
  · have noFraction : fractionDigits rest = [] := by
      by_contra fraction
      rw [(beginsDecimal_name isName stops).mpr ⟨numeral, fraction⟩] at noDecimal
      contradiction
    have integer : Text.IsInteger name.toList := ⟨[], _, .inl rfl, numeral, rfl⟩
    refine ⟨.integer name, Parser.key?_integer numeral, nofun, nofun, ?_⟩
    rw [tokensFrom_integer integer stops noFraction, later, String.ofList_toList]
    rfl
  · have spelled : (word name).IsSpelled false := ⟨isName, fun _ => by simpa using numeral⟩
    refine ⟨.word name, rfl, nofun, nofun, ?_⟩
    rw [tokensFrom_word spelled stops, later]
    rfl

/-- What begins like a decimal begins with one, if it can be read at all. -/
theorem tokensFrom_of_beginsDecimal {name : String} {rest : List Char}
    (isName : Text.isName name = true) (stops : Text.Stops Text.isWordChar rest)
    (isDecimal : beginsDecimal (name.toList ++ rest) = true) {tokens : List Token}
    (found : tokensFrom false (name.toList ++ rest) = some tokens) :
    ∃ digits others, tokens = .decimal digits :: others := by
  obtain ⟨numeral, fraction⟩ := (beginsDecimal_name isName stops).mp isDecimal
  cases rest with
  | nil => contradiction
  | cons char behind =>
      obtain rfl : char = '.' := by
        by_contra noPoint
        exact fraction (fractionDigits_eq_nil (by simpa using noPoint))
      have split : '.' :: behind = ('.' :: fractionDigits ('.' :: behind)) ++
          behind.dropWhile Char.isDigit := by
        rw [fractionDigits, List.cons_append, List.takeWhile_append_dropWhile]
      have decimal : Text.IsDecimal (name.toList ++ '.' :: fractionDigits ('.' :: behind)) :=
        ⟨[], name.toList, _, .inl rfl, numeral, isNumeral_fractionDigits fraction, rfl⟩
      rw [split, ← List.append_assoc,
        tokensFrom_decimal decimal (Text.stops_dropWhile _ behind)] at found
      obtain ⟨others, -, rfl⟩ := Option.map_eq_some_iff.mp found
      exact ⟨_, others, rfl⟩

end Token

/-! ### Tokens of paths -/

namespace Parser

variable {step : PathStep} {steps : List PathStep}

theorem pathTail_steps (valid : ∀ step ∈ steps, step.IsValid) :
    pathTail (steps.flatMap PathStep.tokens) = .ok (steps.map PathStep.segment, []) := by
  have ends : continuesPath [] = false := rfl
  have read := pathTail_tokens valid ends
  rwa [List.append_nil] at read

/-- A name and the steps behind it are a path. -/
theorem path_of_key? {token : Token} {name : String} (key : key? token = some name)
    (noStar : token ≠ .star) (noBracket : token ≠ .openBracket)
    (valid : ∀ step ∈ steps, step.IsValid) :
    path (token :: steps.flatMap PathStep.tokens) =
      .ok (.key name :: steps.map PathStep.segment) := by
  rw [path, key, pathTail_steps valid]
  · rfl
  · exact noStar
  · exact noBracket

/-- A position and the steps behind it are a path. -/
theorem path_of_index {digits : String} (valid : ∀ step ∈ .index digits :: steps, step.IsValid) :
    path ((.index digits :: steps).flatMap PathStep.tokens) =
      .ok ((.index digits :: steps).map PathStep.segment) := by
  have read := pathTail_steps valid
  rw [List.flatMap_cons, PathStep.tokens, List.cons_append] at read ⊢
  rw [path, read]
  rfl

/-- A binding whose tokens go on behind its first name has the steps that its other tokens spell. -/
theorem exists_steps_of_expr {name : String} {tokens : List Token} {rest : Path}
    (goesOn : continuesPath tokens = true) {phrase : Phrase} (valid : phrase.IsValid 0)
    (same : phrase.tokens = .word name :: tokens)
    (denotes : phrase.expr = .binding (.key name :: rest)) :
    ∃ first steps, (∀ step ∈ first :: steps, step.IsValid) ∧
      (first :: steps).flatMap PathStep.tokens = tokens ∧
        (first :: steps).map PathStep.segment = rest := by
  rw [← List.append_nil phrase.tokens] at same
  obtain ⟨rfl, rfl⟩ | ⟨first, steps, rfl, tokens⟩ | ⟨arguments, others, rfl, rfl⟩ :=
    cases_of_word same
  · contradiction
  · rw [List.append_nil] at tokens
    rw [Phrase.expr] at denotes
    cases denotes
    exact ⟨first, steps, valid.2, tokens, rfl⟩
  · contradiction

end Parser

/-! ### Texts of paths -/

namespace Path

theorem read_eq_ok_of_tokens {text : String} {tokens : List Token} {path : Path}
    (lexed : Token.tokensFrom false text.toList = some tokens)
    (read : Parser.path tokens = .ok path) : Path.read text = .ok path := by
  rw [← Token.tokens_of_lex] at lexed
  cases stream : Token.lex text with
  | error =>
      rw [stream] at lexed
      contradiction
  | ok found =>
      rw [stream] at lexed
      cases lexed
      simp only [Path.read, Parser.readText, stream, read]

/-- A text whose tokens are no path, or that has none, is not read as a path. -/
theorem exists_error_of_tokens {text : String}
    (noPath : ∀ tokens, Token.tokensFrom false text.toList = some tokens →
      ∃ failure, Parser.path tokens = .error failure) : ∃ error, Path.read text = .error error := by
  cases stream : Token.lex text with
  | error error => exact ⟨error, by simp only [Path.read, Parser.readText, stream]⟩
  | ok found =>
      have lexed : (Token.lex text).toOption.map TokenStream.tokens =
          Token.tokensFrom false text.toList := Token.tokens_of_lex
      rw [stream] at lexed
      obtain ⟨failure, failed⟩ := noPath _ lexed.symm
      refine ⟨⟨found.offsetAt failure.remaining, failure.cause⟩, ?_⟩
      simp only [Path.read, Parser.readText, stream, failed]

/-- The steps of a binding are spelled by what its text has behind its first name. -/
theorem exists_steps_of_ofText {text name : String} {rest : Path} {behind : Option (List Token)}
    (denotes : Expr.ofText text = .binding (.key name :: rest))
    (lexed : Token.tokensFrom false text.toList = behind.map (.word name :: ·))
    (goesOn : ∀ tokens, behind = some tokens → Parser.continuesPath tokens = true) :
    ∃ first steps, (∀ step ∈ first :: steps, step.IsValid) ∧
      behind = some ((first :: steps).flatMap PathStep.tokens) ∧
        (first :: steps).map PathStep.segment = rest := by
  have isExpr : (Expr.ofText text).isInvalid = false := by rw [denotes]; rfl
  have read := Expr.read_of_ofText isExpr
  obtain ⟨phrase, derives, same⟩ := Expr.read_eq_ok_iff.mp read
  obtain ⟨tokens, valid⟩ := derives_iff.mp derives
  rw [lexed] at tokens
  obtain ⟨own, found, spelled⟩ := Option.map_eq_some_iff.mp tokens
  obtain ⟨first, steps, stepsValid, rfl, segments⟩ :=
    Parser.exists_steps_of_expr (goesOn own found) valid spelled.symm (same.trans denotes)
  exact ⟨first, steps, stepsValid, found, segments⟩

variable {name : String} (isName : Text.isName name = true)
  (noDigit : Text.Stops Char.isDigit name.toList)

include isName noDigit

/-- A name that does not begin with a digit is read as a word in front of a point or a bracket. -/
theorem tokensFrom_root {rest : List Char} (stops : Text.Stops Text.isWordChar rest) :
    Token.tokensFrom false (name.toList ++ rest) =
      (Token.tokensFrom false rest).map (.word name :: ·) := by
  refine Token.tokensFrom_word ⟨isName, fun _ => ?_⟩ stops
  obtain ⟨nonempty, -⟩ := Text.isName_iff.mp isName
  rw [Bool.eq_false_iff, ne_eq, Text.isNumeral_iff]
  rintro ⟨-, isDigit⟩
  cases chars : name.toList with
  | nil => contradiction
  | cons char others =>
      have digit := isDigit char (by rw [chars]; exact List.mem_cons_self)
      rw [noDigit char (by rw [chars]; rfl)] at digit
      contradiction

/-- What a binding has behind its first name and a point is a name and other steps. -/
theorem exists_key_of_binding {text : String} {rest : Path}
    (denotes : Expr.ofText (name ++ "." ++ text) = .binding (.key name :: rest)) :
    ∃ (key : String) (steps : List PathStep), (∀ step ∈ steps, step.IsValid) ∧
      Token.tokensFrom true text.toList = some (.word key :: steps.flatMap PathStep.tokens) ∧
        .key key :: steps.map PathStep.segment = rest := by
  have point : Text.Stops Text.isWordChar ('.' :: text.toList) :=
    Text.stops_cons (Text.isWordChar_eq_false _ (by decide))
  have lexed : Token.tokensFrom false (name ++ "." ++ text).toList =
      ((Token.tokensFrom true text.toList).map (.dot :: ·)).map (.word name :: ·) := by
    have chars : (name ++ "." ++ text).toList = name.toList ++ '.' :: text.toList := by
      simp [String.toList_append]
    rw [chars, tokensFrom_root isName noDigit point,
      Token.tokensFrom_mark false _ (rfl : Token.mark? '.' = some .dot), decide_eq_true rfl]
  have goesOn : ∀ tokens, (Token.tokensFrom true text.toList).map (.dot :: ·) = some tokens →
      Parser.continuesPath tokens = true := by
    intro tokens found
    obtain ⟨others, -, rfl⟩ := Option.map_eq_some_iff.mp found
    rfl
  obtain ⟨first, steps, valid, found, segments⟩ := exists_steps_of_ofText denotes lexed goesOn
  obtain ⟨tokens, here, same⟩ := Option.map_eq_some_iff.mp found
  cases first with
  | index => simp [PathStep.tokens] at same
  | key key =>
      rw [List.flatMap_cons, PathStep.tokens, List.cons_append, List.cons_append,
        List.nil_append, List.cons.injEq] at same
      exact ⟨key, steps, fun step member => valid step (List.mem_cons_of_mem _ member),
        here.trans (congrArg some same.2), segments⟩

/-- What a binding has behind its first name and a point is the same path by itself, unless it
begins like a decimal; then it is no path. -/
theorem read_behind_point {text : String} {rest : Path}
    (denotes : Expr.ofText (name ++ "." ++ text) = .binding (.key name :: rest)) :
    (Token.beginsDecimal text.toList = false → Path.read text = .ok rest) ∧
      (Token.beginsDecimal text.toList = true → ∃ error, Path.read text = .error error) := by
  obtain ⟨key, steps, valid, found, rfl⟩ := exists_key_of_binding isName noDigit denotes
  obtain ⟨blanks, others, blank, split, keyIsName, stops, later⟩ :=
    Token.exists_of_word_behind_point found
  have atStart : Token.tokensFrom false text.toList =
      Token.tokensFrom false (key.toList ++ others) := by
    rw [split, Token.tokensFrom_blanks blank]
  rw [split, Token.beginsDecimal_blanks blank]
  constructor
  · intro noDecimal
    obtain ⟨token, isKey, noStar, noBracket, tokens⟩ :=
      Token.tokensFrom_at_start keyIsName stops later noDecimal
    exact read_eq_ok_of_tokens (atStart.trans tokens)
      (Parser.path_of_key? isKey noStar noBracket valid)
  · intro isDecimal
    refine exists_error_of_tokens fun tokens lexed => ?_
    rw [atStart] at lexed
    obtain ⟨digits, behind, rfl⟩ :=
      Token.tokensFrom_of_beginsDecimal keyIsName stops isDecimal lexed
    exact ⟨_, rfl⟩

/-- What a binding has behind its first name, from a bracket on, is the same path by itself. -/
theorem read_from_bracket {text : String} {rest : Path} (bracket : text.toList.head? = some '[')
    (denotes : Expr.ofText (name ++ text) = .binding (.key name :: rest)) :
    Path.read text = .ok rest := by
  obtain ⟨behind, shape⟩ := List.head?_eq_some_iff.mp bracket
  have stops : Text.Stops Text.isWordChar text.toList := by
    rw [shape]
    exact Text.stops_cons (Text.isWordChar_eq_false _ (by decide))
  have lexed : Token.tokensFrom false (name ++ text).toList =
      (Token.tokensFrom false text.toList).map (.word name :: ·) := by
    rw [String.toList_append, tokensFrom_root isName noDigit stops]
  have opens : Token.tokensFrom false text.toList =
      (Token.tokensFrom false behind).map (.openBracket :: ·) := by
    rw [shape, Token.tokensFrom_mark_of_ne _ (rfl : Token.mark? '[' = some .openBracket) nofun]
  have goesOn : ∀ tokens, Token.tokensFrom false text.toList = some tokens →
      Parser.continuesPath tokens = true := by
    intro tokens found
    rw [opens] at found
    obtain ⟨others, -, rfl⟩ := Option.map_eq_some_iff.mp found
    rfl
  obtain ⟨first, steps, valid, found, rfl⟩ := exists_steps_of_ofText denotes lexed goesOn
  cases first with
  | index digits => exact read_eq_ok_of_tokens found (Parser.path_of_index valid)
  | key key =>
      rw [opens] at found
      obtain ⟨others, -, same⟩ := Option.map_eq_some_iff.mp found
      simp [PathStep.tokens] at same

/-- What a binding has behind its first name and a point is the same path by itself exactly if it
does not begin like a decimal; otherwise it is no path.  What a binding has behind its first name,
from a bracket on, is always the same path by itself. -/
theorem read_of_binding (text : String) (rest : Path) :
    (Expr.ofText (name ++ "." ++ text) = .binding (.key name :: rest) →
        (Token.beginsDecimal text.toList = false → Path.read text = .ok rest) ∧
          (Token.beginsDecimal text.toList = true → ∃ error, Path.read text = .error error)) ∧
      (text.toList.head? = some '[' →
        Expr.ofText (name ++ text) = .binding (.key name :: rest) → Path.read text = .ok rest) :=
  ⟨read_behind_point isName noDigit, read_from_bracket isName noDigit⟩

end Path

/-- A blank keeps digits and a point apart, and without it they are a decimal. -/
theorem Path.read_of_binding_digits :
    Text.isName "a" = true ∧
      (Expr.ofText "a.1 .5" = .binding [.key "a", .key "1", .key "5"] ∧
        Path.read "1 .5" = .ok [.key "1", .key "5"]) ∧
      (Expr.ofText "a.1.5" = .binding [.key "a", .key "1", .key "5"] ∧
        ∃ error, Path.read "1.5" = .error error) ∧
      Expr.ofText "a[1].5" = .binding [.key "a", .index 1, .key "5"] ∧
        Path.read "[1].5" = .ok [.index 1, .key "5"] := by
  have isName : Text.isName "a" = true := by decide +kernel
  have noDigit : Text.Stops Char.isDigit "a".toList := by
    intro char first
    cases first
    rfl
  have apart : Expr.ofText ("a" ++ "." ++ "1 .5") = .binding [.key "a", .key "1", .key "5"] := by
    decide +kernel
  have together : Expr.ofText ("a" ++ "." ++ "1.5") = .binding [.key "a", .key "1", .key "5"] := by
    decide +kernel
  have position : Expr.ofText ("a" ++ "[1].5") = .binding [.key "a", .index 1, .key "5"] := by
    decide +kernel
  have first := (Path.read_of_binding isName noDigit "1 .5" [.key "1", .key "5"]).1 apart
  have second := (Path.read_of_binding isName noDigit "1.5" [.key "1", .key "5"]).1 together
  have third := (Path.read_of_binding isName noDigit "[1].5" [.index 1, .key "5"]).2
  exact ⟨isName, ⟨apart, first.1 (by decide +kernel)⟩, ⟨together, second.2 (by decide +kernel)⟩,
    position, third (by decide +kernel) position⟩

end LiveBinding
