import LiveBinding.Proofs.Expr.Grammar
import LiveBinding.Proofs.Template.Encoding

/-!
# The parts of a template make up its text

The parts of a template stand for the characters of its text, one part behind the other and with
nothing left out: plain text for itself with its escapes, an expression for what stands between the
braces.  What cannot be read is kept as it is written.  A template without an expression therefore
denotes its own text without the escapes.
-/

namespace LiveBinding

/-- A text is an expression, or it is kept with the reason why it is none. -/
theorem Expr.ofText_valid_or (text : String) :
    (ofText text).isInvalid = false ∨ ∃ error, ofText text = .invalid text (.malformed error) := by
  cases read : Expr.read text with
  | error error =>
      right
      exact ⟨error, by rw [ofText, read]⟩
  | ok found =>
      left
      rw [ofText, read]
      exact isInvalid_of_read read

namespace Template

/-! ### Text without its escapes -/

/-- Plain text without the backslash before each opening. -/
def unescapeChars : List Char → List Char
  | '\\' :: '@' :: '{' :: rest => '@' :: '{' :: unescapeChars rest
  | char :: rest => char :: unescapeChars rest
  | [] => []

theorem unescapeChars_escaped (rest : List Char) :
    unescapeChars ('\\' :: (opening ++ rest)) = opening ++ unescapeChars rest := rfl

theorem unescapeChars_cons {char : Char} {rest : List Char}
    (noEscape : char = '\\' → ¬opening <+: rest) :
    unescapeChars (char :: rest) = char :: unescapeChars rest := by
  rw [unescapeChars]
  rintro more rfl rfl
  exact noEscape rfl ⟨more, rfl⟩

theorem unescapeChars_escapeChars (chars : List Char) :
    unescapeChars (escapeChars chars) = chars := by
  fun_induction escapeChars chars with
  | case1 rest ih => exact (unescapeChars_escaped (escapeChars rest)).trans (by rw [ih]; rfl)
  | case2 char rest plain ih =>
      rw [unescapeChars_cons, ih]
      rintro rfl
      cases rest with
      | nil => simp [escapeChars, opening]
      | cons other rest =>
          have start : ¬opening <+: escapeChars (other :: rest) ++ [] :=
            not_opening_escapeChars (List.cons_ne_nil other rest) (by simp)
          rwa [List.append_nil] at start
  | case3 => rfl

/-! ### What a part stands for -/

/-- The characters of a text that a part of its template can stand for. -/
inductive Piece.StandsFor : Piece → List Char → Prop
  | text (plain : String) : StandsFor (.text plain) (escapeChars plain.toList)
  | valid {body : List Char} {found : Expr} (read : Expr.ofText (String.ofList body) = found)
      (valid : found.isInvalid = false) : StandsFor (.expr found) (opening ++ body ++ ['}'])
  | malformed {body : List Char} {error : ParseError}
      (unread : Expr.ofText (String.ofList body) =
        .invalid (String.ofList body) (.malformed error)) :
      StandsFor (.expr (.invalid (String.ofList (opening ++ body ++ ['}'])) (.malformed error)))
        (opening ++ body ++ ['}'])
  | unclosed {rest : List Char} (unclosed : takeBody false rest = none) :
      StandsFor (.expr (.invalid (String.ofList (opening ++ rest)) .unterminatedInterpolation))
        (opening ++ rest)

theorem Piece.StandsFor.opening_prefix {found : Expr} {chunk : List Char}
    (stands : StandsFor (.expr found) chunk) : opening <+: chunk := by
  cases stands with
  | valid read valid => exact ⟨_, (List.append_assoc _ _ _).symm⟩
  | malformed unread => exact ⟨_, (List.append_assoc _ _ _).symm⟩
  | unclosed unclosed => exact ⟨_, rfl⟩

/-- Between braces stands an expression, or what is kept with its braces. -/
theorem interpolation_valid_or (body : List Char) :
    (Expr.ofText (String.ofList body) = interpolation body ∧
        (interpolation body).isInvalid = false) ∨
      ∃ error, Expr.ofText (String.ofList body) =
          .invalid (String.ofList body) (.malformed error) ∧
        interpolation body =
          .invalid (String.ofList (opening ++ body ++ ['}'])) (.malformed error) := by
  obtain valid | ⟨error, unread⟩ := Expr.ofText_valid_or (String.ofList body)
  · left
    have same : interpolation body = Expr.ofText (String.ofList body) := by
      unfold interpolation
      split
      · next unread =>
          rw [unread] at valid
          contradiction
      · rfl
    exact ⟨same.symm, same ▸ valid⟩
  · right
    exact ⟨error, unread, by rw [interpolation, unread]⟩

theorem Piece.standsFor_interpolation (body : List Char) :
    StandsFor (.expr (interpolation body)) (opening ++ body ++ ['}']) := by
  obtain ⟨read, valid⟩ | ⟨error, unread, same⟩ := interpolation_valid_or body
  · exact .valid read valid
  · rw [same]
    exact .malformed unread

/-- Whether a part is what follows an opening that is never closed. -/
def Piece.IsUnclosed (piece : Piece) : Prop :=
  ∃ text, piece = .expr (.invalid text .unterminatedInterpolation)

theorem Piece.not_isUnclosed_interpolation (body : List Char) :
    ¬IsUnclosed (.expr (interpolation body)) := by
  rintro ⟨text, unclosed⟩
  have same := Piece.expr.inj unclosed
  obtain ⟨-, valid⟩ | ⟨error, -, malformed⟩ := interpolation_valid_or body
  · rw [same] at valid
    contradiction
  · rw [malformed] at same
    cases same

/-- Whether a part can be read in front of another.  An opening that is never closed takes the rest
of the text. -/
def Piece.IsReadBefore (first second : Piece) : Prop :=
  first.MayPrecede second ∧ ¬first.IsUnclosed

theorem Piece.isReadBefore_text_expr {plain : String} {found : Expr} :
    IsReadBefore (.text plain) (.expr found) ↔ plain.toList.getLast? ≠ some '\\' := by
  constructor
  · exact fun before => before.1
  · exact fun last => ⟨last, nofun⟩

/-- Plain text that other plain text is put in front of can stand before the same parts. -/
theorem Piece.IsReadBefore.append {plain : String} {next : Piece}
    (before : IsReadBefore (.text plain) next) (nonempty : plain ≠ "") (chars : List Char) :
    IsReadBefore (.text (String.ofList (chars ++ plain.toList))) next := by
  cases next with
  | text other => exact absurd before.1 id
  | expr found =>
      have some : plain.toList ≠ [] := by simpa using nonempty
      rw [isReadBefore_text_expr] at before ⊢
      rwa [String.toList_ofList, List.getLast?_append_of_ne_nil chars some]

/-! ### Parts and the characters that they stand for -/

/-- Parts as they are read from a text, and the characters of the text that each stands for. -/
structure Accounts (pieces : List Piece) (chunks : List (List Char)) : Prop where
  texts : ∀ plain, .text plain ∈ pieces → plain ≠ ""
  apart : pieces.IsChain Piece.IsReadBefore
  standsFor : List.Forall₂ Piece.StandsFor pieces chunks

namespace Accounts

theorem nil : Accounts [] [] := ⟨nofun, .nil, .nil⟩

variable {pieces : List Piece} {chunks : List (List Char)}

theorem cons (accounts : Accounts pieces chunks) {piece : Piece} {chunk : List Char}
    (nonempty : ∀ plain, piece = .text plain → plain ≠ "")
    (apart : ∀ next ∈ pieces.head?, piece.IsReadBefore next) (stands : piece.StandsFor chunk) :
    Accounts (piece :: pieces) (chunk :: chunks) where
  texts := by
    intro plain member
    obtain same | member := List.mem_cons.mp member
    · exact nonempty plain same.symm
    · exact accounts.texts plain member
  apart := List.isChain_cons.mpr ⟨apart, accounts.apart⟩
  standsFor := .cons stands accounts.standsFor

theorem cons_text (accounts : Accounts pieces chunks) {plain : String} (nonempty : plain ≠ "")
    (apart : ∀ next ∈ pieces.head?, Piece.IsReadBefore (.text plain) next) :
    Accounts (.text plain :: pieces) (escapeChars plain.toList :: chunks) := by
  refine accounts.cons ?_ apart (.text plain)
  rintro _ ⟨⟩
  exact nonempty

theorem of_cons_text {plain : String} (accounts : Accounts (.text plain :: pieces) chunks) :
    ∃ later, chunks = escapeChars plain.toList :: later ∧ plain ≠ "" ∧
      (∀ next ∈ pieces.head?, Piece.IsReadBefore (.text plain) next) ∧ Accounts pieces later := by
  obtain ⟨texts, apart, standsFor⟩ := accounts
  obtain ⟨chunk, later, ⟨⟩, others, rfl⟩ := List.forall₂_cons_left_iff.mp standsFor
  obtain ⟨next, apart⟩ := List.isChain_cons.mp apart
  exact ⟨later, rfl, texts plain List.mem_cons_self, next,
    fun other member => texts other (List.mem_cons_of_mem _ member), apart, others⟩

/-- In front of an expression, or of nothing, plain text that is added is a part. -/
theorem cons_text_ofList (accounts : Accounts pieces chunks) {chars : List Char}
    (nonempty : chars ≠ []) (apart : chars.getLast? = some '\\' → ¬opening <+: chunks.flatten)
    (noText : ∀ plain, pieces.head? ≠ some (.text plain)) :
    Accounts (.text (String.ofList chars) :: pieces) (escapeChars chars :: chunks) := by
  have some : String.ofList chars ≠ "" := by simpa using nonempty
  have last : ∀ next ∈ pieces.head?, Piece.IsReadBefore (.text (String.ofList chars)) next := by
    intro next first
    cases next with
    | text plain => exact absurd first (noText plain)
    | expr found =>
        obtain ⟨others, rfl⟩ := List.head?_eq_some_iff.mp first
        obtain ⟨chunk, later, stands, -, rfl⟩ := List.forall₂_cons_left_iff.mp accounts.standsFor
        rw [Piece.isReadBefore_text_expr, String.toList_ofList]
        intro backslash
        exact apart backslash (stands.opening_prefix.trans (List.prefix_append chunk _))
  have added := accounts.cons_text some last
  rwa [String.toList_ofList] at added

/-- Plain text that is added in front of parts is accounted for by the characters that spell it,
whatever plain text these stand in front of. -/
theorem exists_addText (accounts : Accounts pieces chunks) {chars : List Char}
    (spelling : List Char) (nonempty : chars ≠ [])
    (spelled : ∀ plain, escapeChars plain <+: chunks.flatten →
      escapeChars (chars ++ plain) = spelling ++ escapeChars plain)
    (apart : chars.getLast? = some '\\' → ¬opening <+: chunks.flatten) :
    ∃ more, Accounts (addText chars pieces) more ∧ more.flatten = spelling ++ chunks.flatten := by
  have alone : escapeChars chars = spelling := by
    have same := spelled [] List.nil_prefix
    rwa [List.append_nil, escapeChars, List.append_nil] at same
  unfold addText
  split
  · next plain pieces =>
      obtain ⟨later, rfl, some, last, others⟩ := accounts.of_cons_text
      have longer : String.ofList (chars ++ plain.toList) ≠ "" := by simp [nonempty]
      have added := others.cons_text longer fun next first => (last next first).append some chars
      rw [String.toList_ofList] at added
      refine ⟨_, added, ?_⟩
      rw [List.flatten_cons, List.flatten_cons, spelled, List.append_assoc]
      exact List.prefix_append _ _
  · next noText =>
      refine ⟨_, accounts.cons_text_ofList nonempty apart ?_, ?_⟩
      · intro plain first
        obtain ⟨others, rfl⟩ := List.head?_eq_some_iff.mp first
        exact noText plain others rfl
      · rw [List.flatten_cons, alone]

end Accounts

/-- A character that neither opens an expression nor hides an opening is spelled as it is. -/
theorem escapeChars_cons_of_prefix {char : Char} {plain rest : List Char}
    (noOpening : ¬opening <+: char :: rest) (spelled : escapeChars plain <+: rest) :
    escapeChars (char :: plain) = char :: escapeChars plain := by
  apply escapeChars_cons
  rintro ⟨more, shape⟩
  obtain ⟨rfl, rfl⟩ := List.cons.inj shape
  obtain ⟨left, rfl⟩ := spelled
  exact noOpening ⟨escapeChars more ++ left, rfl⟩

/-- The parts of a text are accounted for by its characters. -/
theorem exists_accounts_piecesOf (chars : List Char) :
    ∃ chunks, Accounts (piecesOf chars) chunks ∧ chunks.flatten = chars := by
  fun_induction piecesOf chars with
  | case1 => exact ⟨[], .nil, rfl⟩
  | case2 rest ih =>
      obtain ⟨chunks, accounts, rfl⟩ := ih
      apply accounts.exists_addText ('\\' :: opening)
      · exact List.cons_ne_nil _ _
      · intro plain _
        rfl
      · intro backslash
        cases backslash
  | case3 rest body after taken shorter ih =>
      obtain ⟨chunks, accounts, rfl⟩ := ih
      have closed := Piece.not_isUnclosed_interpolation body
      refine ⟨_, accounts.cons (by simp) (fun _ _ => ⟨trivial, closed⟩)
        (Piece.standsFor_interpolation body), ?_⟩
      rw [takeBody_eq taken]
      simp [opening]
  | case4 rest unclosed =>
      refine ⟨_, Accounts.nil.cons (by simp) (by simp) (.unclosed unclosed), ?_⟩
      simp [opening]
  | case5 char rest noEscape noOpening ih =>
      obtain ⟨chunks, accounts, rfl⟩ := ih
      apply accounts.exists_addText [char]
      · exact List.cons_ne_nil _ _
      · intro plain spelled
        refine escapeChars_cons_of_prefix ?_ spelled
        rintro ⟨more, shape⟩
        obtain ⟨rfl, behind⟩ := List.cons.inj shape
        exact noOpening more rfl behind.symm
      · rintro ⟨⟩ ⟨more, behind⟩
        exact noEscape more rfl behind.symm

/-! ### The text of a template without an expression -/

/-- The characters of a part where nothing is evaluated: plain text loses its escapes. -/
def Piece.unescaped : Piece → List Char → List Char
  | .text _, chunk => unescapeChars chunk
  | .expr _, chunk => chunk

/-- What could not be read stands for its own text. -/
theorem Piece.StandsFor.eq_toList {text : String} {fault : Expr.Fault} {chunk : List Char}
    (stands : StandsFor (.expr (.invalid text fault)) chunk) : chunk = text.toList := by
  cases stands with
  | valid read valid => contradiction
  | malformed unread => exact String.toList_ofList.symm
  | unclosed unclosed => exact String.toList_ofList.symm

theorem Piece.StandsFor.toList_render {piece : Piece} {chunk : List Char}
    (stands : StandsFor piece chunk) (constant : ∀ found, piece = .expr found → found.isInvalid)
    (registry : Registry) (scope : Scope) :
    (piece.render registry scope).toList = piece.unescaped chunk := by
  cases piece with
  | text plain =>
      cases stands
      exact (unescapeChars_escapeChars plain.toList).symm
  | expr found =>
      have invalid := constant found rfl
      cases found with
      | invalid text fault => exact stands.eq_toList.symm
      | literal | binding | call => contradiction

theorem toList_join_render {pieces : List Piece} {chunks : List (List Char)}
    (standsFor : List.Forall₂ Piece.StandsFor pieces chunks)
    (constant : ∀ found, .expr found ∈ pieces → found.isInvalid)
    (registry : Registry) (scope : Scope) :
    (String.join (pieces.map (·.render registry scope))).toList =
      (List.zipWith Piece.unescaped pieces chunks).flatten := by
  induction standsFor with
  | nil => rfl
  | cons stands others ih =>
      rw [List.map_cons, String.join_cons, String.toList_append, List.zipWith_cons_cons,
        List.flatten_cons, ih fun found member => constant found (List.mem_cons_of_mem _ member),
        stands.toList_render fun found same => constant found (same ▸ List.mem_cons_self)]

section

variable {template : Template} (constant : template.hasValid = false)

include constant

theorem isInvalid_of_not_hasValid {found : Expr} (listed : .expr found ∈ template.pieces) :
    found.isInvalid = true := by
  have member : found ∈ template.expressions := List.mem_filterMap.mpr ⟨.expr found, listed, rfl⟩
  simpa using List.any_eq_false.mp constant found member

theorem single?_of_not_hasValid : template.single? = none := by
  unfold single?
  split
  · next found alone =>
      rw [if_pos (isInvalid_of_not_hasValid constant (alone ▸ List.mem_cons_self))]
  · rfl

theorem Accounts.evaluate_eq {chunks : List (List Char)}
    (accounts : Accounts template.pieces chunks) (registry : Registry) (scope : Scope) :
    template.evaluate registry scope =
      .string (String.ofList (List.zipWith Piece.unescaped template.pieces chunks).flatten) := by
  have rendered := toList_join_render accounts.standsFor
    (fun found listed => isInvalid_of_not_hasValid constant listed) registry scope
  rw [evaluate, single?_of_not_hasValid constant, ← rendered, String.ofList_toList]

end

/-- Each part of a template stands for some characters, and together these are the text: plain text
for itself with a backslash before each opening, an expression for a body between braces that is
read as this expression, and what could not be read for itself.  No plain text is empty or stands in
front of other plain text, and an opening that is never closed can only be in the last part.  So a
template without an expression denotes its text, where the escapes outside of what could not be read
are resolved. -/
theorem pieces_make_up_text (text : String) :
    ∃ chunks, Accounts (ofText text).pieces chunks ∧ chunks.flatten = text.toList ∧
      ((ofText text).hasValid = false → ∀ registry scope,
        (ofText text).evaluate registry scope =
          .string (String.ofList
            (List.zipWith Piece.unescaped (ofText text).pieces chunks).flatten)) := by
  obtain ⟨chunks, accounts, whole⟩ := exists_accounts_piecesOf text.toList
  exact ⟨chunks, accounts, whole, fun constant => Accounts.evaluate_eq constant accounts⟩

/-- An escape outside and one inside of what cannot be read, and an opening that is left open. -/
theorem pieces_make_up_text_unread :
    let text := "a\\@\x7bb\x7d @\x7b\\@\x7bc\x7d\\\\@\x7b\x7d @\x7b\\@\x7b"
    let pieces : List Piece :=
      [.text "a@\x7bb\x7d ",
        .expr (.invalid "@\x7b\\@\x7bc\x7d" (.malformed ⟨0, .unexpectedChar '\\'⟩)),
        .text "\\@\x7b\x7d ", .expr (.invalid "@\x7b\\@\x7b" .unterminatedInterpolation)]
    (ofText text).pieces = pieces ∧ (ofText text).hasValid = false ∧
      ∀ registry scope, (ofText text).evaluate registry scope =
        .string "a@\x7bb\x7d @\x7b\\@\x7bc\x7d\\@\x7b\x7d @\x7b\\@\x7b" := by
  intro text pieces
  have shape : (ofText text).pieces = pieces := by decide +kernel
  have constant : (ofText text).hasValid = false := by decide +kernel
  obtain ⟨chunks, accounts, -, denoted⟩ := pieces_make_up_text text
  rw [shape] at accounts denoted
  have standsFor := accounts.standsFor
  unfold pieces at standsFor
  -- Every part stands for characters that are known.
  rcases standsFor with _ | ⟨⟨⟩, _ | ⟨second, _ | ⟨⟨⟩, _ | ⟨last, ⟨⟩⟩⟩⟩⟩
  cases second.eq_toList
  cases last.eq_toList
  refine ⟨shape, constant, fun registry scope => (denoted constant registry scope).trans ?_⟩
  decide +kernel

end Template

end LiveBinding
