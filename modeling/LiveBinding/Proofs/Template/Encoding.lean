import LiveBinding.Evaluation
import LiveBinding.Expr.Text
import LiveBinding.Proofs.Template.Closing
import Mathlib.Data.List.Chain

/-!
# Templates are read back

The parts of a template are written one behind the other: plain text with a backslash before each
opening, and an expression between its braces.  The text is read back as the same parts, if it shows
where a part begins and where it ends.
-/

namespace LiveBinding.Template

/-! ### How parts are written -/

/-- Plain text with a backslash before each opening. -/
def escapeChars : List Char → List Char
  | '@' :: '{' :: rest => '\\' :: '@' :: '{' :: escapeChars rest
  | char :: rest => char :: escapeChars rest
  | [] => []

/-- Plain text as it is written in a template. -/
def escape (text : String) : String := String.ofList (escapeChars text.toList)

/-- The characters that a part is written with. -/
def Piece.source : Piece → List Char
  | .text plain => escapeChars plain.toList
  | .expr found => opening ++ found.toText.toList ++ ['}']

/-- The text of a template with these parts. -/
def sourceOf (pieces : List Piece) : String := String.ofList (pieces.flatMap Piece.source)

/-- Whether a part that is written behind another is seen as a part of its own.  A backslash would
hide the opening of an expression. -/
def Piece.MayPrecede : Piece → Piece → Prop
  | .text _, .text _ => False
  | .text plain, .expr _ => plain.toList.getLast? ≠ some '\\'
  | .expr _, _ => True

/-- Parts that a template can have. -/
structure Legible (pieces : List Piece) : Prop where
  texts : ∀ plain, .text plain ∈ pieces → plain ≠ ""
  valid : ∀ found, .expr found ∈ pieces → found.isInvalid = false
  printed : ∀ found, .expr found ∈ pieces → Expr.read found.toText = .ok found
  apart : pieces.IsChain Piece.MayPrecede

theorem Legible.tail {piece : Piece} {pieces : List Piece}
    (legible : Legible (piece :: pieces)) : Legible pieces where
  texts plain listed := legible.texts plain (List.mem_cons_of_mem piece listed)
  valid found listed := legible.valid found (List.mem_cons_of_mem piece listed)
  printed found listed := legible.printed found (List.mem_cons_of_mem piece listed)
  apart := legible.apart.tail

/-- Behind plain text stands an expression, or nothing. -/
theorem Legible.behind_text {plain : String} {pieces : List Piece}
    (legible : Legible (.text plain :: pieces)) :
    pieces = [] ∨ ∃ found later, pieces = .expr found :: later ∧
      plain.toList.getLast? ≠ some '\\' := by
  cases pieces with
  | nil => exact .inl rfl
  | cons next later =>
      have apart := (List.isChain_cons_cons.mp legible.apart).1
      cases next with
      | text other => contradiction
      | expr found => exact .inr ⟨found, later, rfl, apart⟩

/-! ### Text in front of parts -/

/-- Put plain text in front, if there is any. -/
def putText (chars : List Char) (pieces : List Piece) : List Piece :=
  if chars = [] then pieces else addText chars pieces

@[simp] theorem putText_nil (pieces : List Piece) : putText [] pieces = pieces := rfl

theorem putText_cons (char : Char) (chars : List Char) (pieces : List Piece) :
    putText (char :: chars) pieces = addText (char :: chars) pieces := rfl

/-- Text that is put in front piece by piece makes one part. -/
theorem putText_putText (first second : List Char) (pieces : List Piece) :
    putText first (putText second pieces) = putText (first ++ second) pieces := by
  cases first with
  | nil => rfl
  | cons char first =>
      cases second with
      | nil => rw [putText_nil, List.append_nil]
      | cons other second =>
          rw [putText_cons, putText_cons, List.cons_append, putText_cons]
          cases pieces with
          | nil => simp [addText]
          | cons piece pieces =>
              cases piece with
              | text plain => simp [addText]
              | expr found => simp [addText]

/-- In front of an expression, or of nothing, plain text is a part. -/
theorem putText_toList {text : String} {pieces : List Piece} (nonempty : text ≠ "")
    (apart : ∀ plain, pieces.head? ≠ some (.text plain)) :
    putText text.toList pieces = .text text :: pieces := by
  have some : text.toList ≠ [] := by simpa using nonempty
  rw [putText, if_neg some]
  cases pieces with
  | nil => simp [addText]
  | cons piece pieces =>
      cases piece with
      | text plain => exact absurd rfl (apart plain)
      | expr found => simp [addText]

/-! ### How escaped text is read -/

theorem piecesOf_escaped (rest : List Char) :
    piecesOf ('\\' :: (opening ++ rest)) = putText opening (piecesOf rest) := by
  rw [opening, List.cons_append, List.cons_append, List.nil_append, piecesOf]
  rfl

/-- A character that neither opens an expression nor hides an opening is plain text. -/
theorem piecesOf_cons {char : Char} {rest : List Char} (noOpening : ¬opening <+: char :: rest)
    (noEscape : char = '\\' → ¬opening <+: rest) :
    piecesOf (char :: rest) = putText [char] (piecesOf rest) := by
  rw [piecesOf]
  · rfl
  · rintro more rfl rfl
    exact noEscape rfl ⟨more, rfl⟩
  · rintro more rfl rfl
    exact noOpening ⟨more, rfl⟩

theorem escapeChars_opening (rest : List Char) :
    escapeChars (opening ++ rest) = '\\' :: (opening ++ escapeChars rest) := rfl

theorem escapeChars_cons {char : Char} {rest : List Char}
    (noOpening : ¬opening <+: char :: rest) :
    escapeChars (char :: rest) = char :: escapeChars rest := by
  rw [escapeChars]
  rintro more rfl rfl
  exact noOpening ⟨more, rfl⟩

/-- Escaped text begins with a brace only if the text does. -/
theorem head?_escapeChars_ne {chars : List Char} (noBrace : chars.head? ≠ some '{') :
    (escapeChars chars).head? ≠ some '{' := by
  unfold escapeChars
  split
  · exact nofun
  · exact noBrace
  · exact nofun

/-- There is no opening where escaped text begins, and none that it makes with what follows. -/
theorem not_opening_escapeChars {chars rest : List Char} (nonempty : chars ≠ [])
    (follows : rest.head? ≠ some '{') : ¬opening <+: escapeChars chars ++ rest := by
  by_cases opens : opening <+: chars
  · obtain ⟨others, rfl⟩ := opens
    rintro ⟨more, shape⟩
    rw [escapeChars_opening] at shape
    exact absurd (List.cons.inj shape).1 (by decide)
  · cases chars with
    | nil => contradiction
    | cons char others =>
        rintro ⟨more, shape⟩
        rw [escapeChars_cons opens] at shape
        obtain ⟨rfl, behind⟩ := List.cons.inj shape
        have noBrace : others.head? ≠ some '{' := by
          intro brace
          obtain ⟨later, rfl⟩ := List.head?_eq_some_iff.mp brace
          exact opens ⟨later, rfl⟩
        have brace : (escapeChars others ++ rest).head? = some '{' :=
          (congrArg List.head? behind).symm
        rw [List.head?_append, Option.or_eq_some_iff] at brace
        obtain here | ⟨-, there⟩ := brace
        · exact head?_escapeChars_ne noBrace here
        · exact follows there

/-- Escaped text is read as the text that it is, in front of what follows. -/
theorem piecesOf_escapeChars_append (chars rest : List Char)
    (follows : rest.head? ≠ some '{')
    (apart : chars.getLast? = some '\\' → ¬opening <+: rest) :
    piecesOf (escapeChars chars ++ rest) = putText chars (piecesOf rest) := by
  -- In each case the text may be at its end, and then what follows begins here.
  fun_induction escapeChars chars with
  | case1 others ih =>
      have same := piecesOf_escaped (escapeChars others ++ rest)
      rw [ih, putText_putText] at same
      · exact same
      · intro last
        exact apart (by simp [List.getLast?_cons, last])
  | case2 char others plain ih =>
      have noOpening : ¬opening <+: char :: others := by
        rintro ⟨more, shape⟩
        obtain ⟨rfl, behind⟩ := List.cons.inj shape
        exact plain more rfl behind.symm
      have start := not_opening_escapeChars (List.cons_ne_nil char others) follows
      rw [escapeChars_cons noOpening, List.cons_append] at start
      rw [List.cons_append, piecesOf_cons start, ih, putText_putText]
      · rfl
      · intro last
        exact apart (by simp [List.getLast?_cons, last])
      · rintro rfl
        cases others with
        | nil => exact apart rfl
        | cons other others => exact not_opening_escapeChars (List.cons_ne_nil _ _) follows
  | case3 => rfl

/-! ### How expressions are read -/

/-- An expression that is read back from its text is read from between its braces. -/
theorem piecesOf_source_expr_append {found : Expr} (valid : found.isInvalid = false)
    (printed : Expr.read found.toText = .ok found) (rest : List Char) :
    piecesOf (Piece.source (.expr found) ++ rest) = .expr found :: piecesOf rest := by
  have closes : takeBody false (found.toText.toList ++ '}' :: rest) =
      some (found.toText.toList, rest) := by
    unfold Expr.read Parser.readText at printed
    split at printed
    · contradiction
    · next stream lexed => exact takeBody_of_lex lexed rest
  have same : interpolation found.toText.toList = found := by
    rw [interpolation, String.ofList_toList, Expr.ofText, printed]
    cases found with
    | invalid text fault => contradiction
    | _ => rfl
  have source : Piece.source (.expr found) ++ rest =
      '@' :: '{' :: (found.toText.toList ++ '}' :: rest) := by
    rw [Piece.source, List.append_assoc, List.append_assoc]
    rfl
  rw [source, piecesOf]
  split
  · next body after taken =>
      rw [closes] at taken
      cases taken
      rw [same]
  · next taken =>
      rw [closes] at taken
      contradiction

/-- What is written is read back. -/
theorem piecesOf_flatMap_source {pieces : List Piece} (legible : Legible pieces) :
    piecesOf (pieces.flatMap Piece.source) = pieces := by
  induction pieces with
  | nil => rw [List.flatMap_nil, piecesOf]
  | cons piece pieces ih =>
      have later := ih legible.tail
      rw [List.flatMap_cons]
      cases piece with
      | expr found =>
          rw [piecesOf_source_expr_append (legible.valid found List.mem_cons_self)
            (legible.printed found List.mem_cons_self), later]
      | text plain =>
          have nonempty := legible.texts plain List.mem_cons_self
          have read : piecesOf (escapeChars plain.toList ++ pieces.flatMap Piece.source) =
              putText plain.toList pieces := by
            conv_rhs => rw [← later]
            obtain rfl | ⟨found, others, rfl, last⟩ := legible.behind_text
            · exact piecesOf_escapeChars_append _ _ (by simp) (by simp [opening])
            · exact piecesOf_escapeChars_append _ _ (by simp [Piece.source, opening])
                fun backslash => absurd backslash last
          rw [Piece.source, read]
          apply putText_toList nonempty
          obtain rfl | ⟨found, others, rfl, -⟩ := legible.behind_text
          · simp
          · simp

/-- Escaped text is a template that denotes the text. -/
theorem evaluate_escape (text : String) (registry : Registry) (scope : Scope) :
    (ofText (escape text)).evaluate registry scope = .string text := by
  have pieces : (ofText (escape text)).pieces = putText text.toList [] := by
    have read := piecesOf_escapeChars_append text.toList [] (by simp) (by simp [opening])
    rw [List.append_nil] at read
    rw [ofText, escape, String.toList_ofList, read, piecesOf]
  by_cases empty : text = ""
  · cases empty
    have nothing : (ofText (escape "")).pieces = [] := pieces
    rw [evaluate, single?, nothing]
    rfl
  · have alone := pieces.trans (putText_toList empty (by simp))
    rw [evaluate, single?, alone]
    simp [Piece.render, String.join]

/-- The parts that are written are those that are read, if plain text is not empty, does not stand
in front of other plain text and does not end with a backslash in front of an expression, and if
each expression is one that is read back from its own text.  Any text at all, escaped, is a template
that denotes just that text. -/
theorem pieces_ofText_sourceOf :
    (∀ pieces, Legible pieces → (ofText (sourceOf pieces)).pieces = pieces) ∧
      ∀ text registry scope, (ofText (escape text)).evaluate registry scope = .string text := by
  constructor
  · intro pieces legible
    rw [ofText, sourceOf, String.toList_ofList]
    exact piecesOf_flatMap_source legible
  · exact evaluate_escape

/-- Plain text that holds an opening behind a backslash and ends like the beginning of one, and a
string that holds braces, a quote and a backslash. -/
theorem pieces_ofText_sourceOf_braces :
    let call : Expr := .call "f" [.literal (.string "\x7d'@\x7b\\"), .binding [.key "a", .index 0]]
    let pieces : List Piece :=
      [.text "\\@\x7bx\x7d @", .expr call, .expr (.binding [.key "b"]), .text "\x7b\\"]
    Legible pieces ∧ (ofText (sourceOf pieces)).pieces = pieces ∧
      sourceOf pieces =
        "\\\\@\x7bx\x7d @@\x7bf('\x7d\\'@\x7b\\\\', a[0])\x7d@\x7bb\x7d\x7b\\" := by
  intro call pieces
  have legible : Legible pieces := by
    constructor
    · simp [pieces]
    · simp [pieces, call, Expr.isInvalid]
    · have printed : Expr.read call.toText = .ok call ∧
          Expr.read (Expr.binding [.key "b"]).toText = .ok (.binding [.key "b"]) := by
        decide +kernel
      simpa [pieces] using printed
    · simp [pieces, Piece.MayPrecede]
  exact ⟨legible, pieces_ofText_sourceOf.1 pieces legible, by decide +kernel⟩

end LiveBinding.Template
