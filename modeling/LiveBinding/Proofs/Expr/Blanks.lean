import LiveBinding.Proofs.Expr.Coverage

/-!
# Blanks between tokens

Where a token begins or ends, blanks make no difference.  There the text is cut in two, and each
part is laid out on its own; a blank in between keeps every token from going on, whatever comes
behind.  So the text with blanks put in has the same tokens, and is read as the same expression and
the same path, if it is read as any.
-/

namespace LiveBinding

/-! ### Boundaries -/

/-- A token is written in some characters from its own position up to another. -/
def Located.EndsAt (found : Located) (chars : List Char) (position : Nat) : Prop :=
  ∃ spelling rest, chars.drop found.offset = spelling ++ rest ∧ found.token.IsWritten spelling ∧
    position = found.offset + spelling.length

/-- A position where a token of a text or its end begins, or where a token ends. -/
def TokenStream.IsBoundary (stream : TokenStream) (text : String) (position : Nat) : Prop :=
  position ∈ stream.offsets ∨ ∃ found ∈ stream.located, found.EndsAt text.toList position

/-- A token further on in a text. -/
def Located.shift (count : Nat) (found : Located) : Located :=
  ⟨found.token, found.offset + count⟩

/-- A text with another one put in at a position. -/
def Text.insertAt (position : Nat) (inserted text : String) : String :=
  String.ofList (text.toList.take position ++ (inserted.toList ++ text.toList.drop position))

namespace Token

/-- From a place on, a token is written in one way at most. -/
theorem eq_of_isWritten {token : Token} {spelling other rest left : List Char}
    (written : token.IsWritten spelling) (alsoWritten : token.IsWritten other)
    (same : spelling ++ rest = other ++ left) : spelling = other := by
  cases token with
  | string text =>
      obtain ⟨quoted, quotedAs, rfl⟩ := written
      obtain ⟨others, alsoQuotedAs, rfl⟩ := alsoWritten
      have content : quoted ++ '\'' :: rest = others ++ '\'' :: left := by simpa using same
      have width := stringBody_of_quotedAs quotedAs rest
      rw [content, stringBody_of_quotedAs alsoQuotedAs left] at width
      simp only [Option.some.injEq, Prod.mk.injEq, true_and, Nat.add_right_cancel_iff] at width
      rw [(List.append_inj content width.symm).1]
  | _ => exact Eq.trans written (Eq.symm alsoWritten)

/-! ### Cuts -/

/-- Characters in two parts, with the tokens that are laid out in each of them. -/
def IsCut (start : Nat) (afterDot : Bool) (located : List Located) (first second : List Char) :
    Prop :=
  ∃ earlier later, located = earlier ++ later ∧ Layout start afterDot earlier first ∧
    Layout (start + first.length) (endsInDot afterDot earlier) later second

/-- Where the characters behind blanks and a token end. -/
theorem add_length_behind {start position : Nat} {blanks spelling rest : List Char}
    (place : position = start + blanks.length) :
    start + (blanks ++ (spelling ++ rest)).length = position + spelling.length + rest.length := by
  rw [List.length_append, List.length_append, place]
  omega

/-- A cut stays one behind a further token. -/
theorem IsCut.behind {start position : Nat} {afterDot : Bool} {token : Token}
    {located : List Located} {blanks spelling first second : List Char}
    (areBlank : AreBlank blanks) (place : position = start + blanks.length)
    (spelled : token.IsSpelled afterDot) (written : token.IsWritten spelling)
    (ends : token.EndsBefore (first ++ second))
    (cut : IsCut (position + spelling.length) (decide (token = .dot)) located first second) :
    IsCut start afterDot (⟨token, position⟩ :: located) (blanks ++ (spelling ++ first)) second := by
  obtain ⟨earlier, later, rfl, layout, layoutLater⟩ := cut
  refine ⟨⟨token, position⟩ :: earlier, later, rfl,
    .token areBlank place spelled written ends.of_append layout, ?_⟩
  rw [add_length_behind place]
  exact layoutLater

/-- Characters are cut in front of each token and behind it. -/
theorem Layout.cuts {start : Nat} {afterDot : Bool} {located : List Located} {chars : List Char}
    (layout : Layout start afterDot located chars) {found : Located} (member : found ∈ located) :
    ∃ first spelling rest, chars = first ++ (spelling ++ rest) ∧
      found.offset = start + first.length ∧ found.token.IsWritten spelling ∧
        IsCut start afterDot located first (spelling ++ rest) ∧
          IsCut start afterDot located (first ++ spelling) rest := by
  induction layout with
  | blanks => contradiction
  | @token start position afterDot token located blanks spelling rest areBlank place spelled written
      ends later ih =>
      obtain rfl | member := List.mem_cons.mp member
      · refine ⟨blanks, spelling, rest, rfl, place, written, ?_, ?_⟩
        · refine ⟨[], _, rfl, .blanks areBlank, ?_⟩
          rw [← place]
          exact .behind_token spelled written ends later
        · have here : IsCut (position + spelling.length) (decide (token = .dot)) located [] rest :=
            ⟨[], located, rfl, .blanks (List.forall_mem_nil _), later⟩
          have endsHere : token.EndsBefore ([] ++ rest) := ends
          have cut := here.behind areBlank place spelled written endsHere
          rwa [List.append_nil] at cut
      · obtain ⟨first, inner, left, rfl, offset, innerWritten, cutFront, cutBehind⟩ := ih member
        refine ⟨blanks ++ (spelling ++ first), inner, left, ?_, ?_, innerWritten,
          cutFront.behind areBlank place spelled written ends, ?_⟩
        · rw [List.append_assoc, List.append_assoc]
        · rw [offset, place, List.length_append, List.length_append]
          omega
        · have cut := cutBehind.behind areBlank place spelled written (List.append_assoc .. ▸ ends)
          rwa [← List.append_assoc spelling, ← List.append_assoc blanks] at cut

/-- At a boundary a text is cut in two. -/
theorem exists_cut {text : String} {stream : TokenStream} {position : Nat}
    (lexed : lex text = .ok stream) (boundary : stream.IsBoundary text position) :
    ∃ first second, text.toList = first ++ second ∧ position = first.length ∧
      IsCut 0 false stream.located first second := by
  obtain ⟨layout, length⟩ := lex_eq_ok_iff.mp lexed
  obtain begins | ⟨found, member, spelling, rest, written⟩ := boundary
  · obtain token | atEnd := List.mem_append.mp begins
    · obtain ⟨found, member, rfl⟩ := List.mem_map.mp token
      obtain ⟨first, spelling, rest, split, offset, -, cut, -⟩ := layout.cuts member
      rw [Nat.zero_add] at offset
      exact ⟨first, _, split, offset, cut⟩
    · rw [List.mem_singleton.mp atEnd]
      exact ⟨text.toList, [], (List.append_nil _).symm, length, stream.located, [],
        (List.append_nil _).symm, layout, .blanks (List.forall_mem_nil _)⟩
  · obtain ⟨behind, isWritten, rfl⟩ := written
    obtain ⟨first, own, left, split, offset, ownWritten, -, cut⟩ := layout.cuts member
    rw [Nat.zero_add] at offset
    rw [split, offset, List.drop_left] at behind
    obtain rfl := eq_of_isWritten ownWritten isWritten behind
    refine ⟨first ++ own, left, ?_, ?_, cut⟩
    · rw [split, List.append_assoc]
    · rw [offset, List.length_append]

/-! ### Blanks in a cut -/

theorem not_isWordChar_of_isBlank {char : Char} (blank : Text.isBlank char = true) :
    Text.isWordChar char = false := by
  rw [Bool.eq_false_iff]
  intro letter
  rw [Text.isBlank_eq_false letter] at blank
  contradiction

/-- The same characters are laid out further on. -/
theorem Layout.shift {start : Nat} {afterDot : Bool} {located : List Located} {chars : List Char}
    (layout : Layout start afterDot located chars) (count : Nat) :
    Layout (start + count) afterDot (located.map (Located.shift count)) chars := by
  induction layout with
  | blanks areBlank => exact .blanks areBlank
  | @token start position _ _ _ blanks spelling _ areBlank place spelled written ends _ ih =>
      rw [Nat.add_right_comm] at ih
      exact .token areBlank (by rw [place, Nat.add_right_comm]) spelled written ends ih

/-- What no token goes on with may follow. -/
theorem Layout.append {start : Nat} {afterDot : Bool} {earlier later : List Located}
    {first more : List Char} (layout : Layout start afterDot earlier first)
    (stops : Text.Stops Text.isWordChar more) (noPoint : more.head? ≠ some '.')
    (layoutLater : Layout (start + first.length) (endsInDot afterDot earlier) later more) :
    Layout start afterDot (earlier ++ later) (first ++ more) := by
  induction layout with
  | blanks areBlank => exact layoutLater.behind_blanks areBlank
  | @token start position _ _ _ blanks spelling rest areBlank place spelled written ends _ ih =>
      rw [List.append_assoc, List.append_assoc]
      refine .token areBlank place spelled written (ends.append stops noPoint) (ih ?_)
      rw [add_length_behind place] at layoutLater
      exact layoutLater

/-- Blanks in a cut leave the tokens as they are. -/
theorem IsCut.insert {start : Nat} {afterDot : Bool} {located : List Located}
    {first second blanks : List Char} (cut : IsCut start afterDot located first second)
    (areBlank : AreBlank blanks) (some : blanks ≠ []) :
    ∃ moved, moved.map (·.token) = located.map (·.token) ∧
      Layout start afterDot moved (first ++ (blanks ++ second)) := by
  obtain ⟨earlier, later, rfl, layout, layoutLater⟩ := cut
  obtain ⟨char, others, rfl⟩ := List.exists_cons_of_ne_nil some
  have blank := areBlank char List.mem_cons_self
  have stops : Text.Stops Text.isWordChar (char :: others ++ second) :=
    Text.stops_cons (not_isWordChar_of_isBlank blank)
  have noPoint : (char :: others ++ second).head? ≠ Option.some '.' := by
    intro point
    cases point
    exact absurd blank (by decide)
  have moved := (layoutLater.shift (char :: others).length).behind_blanks areBlank
  refine ⟨_, ?_, layout.append stops noPoint moved⟩
  rw [List.map_append, List.map_append, List.map_map]
  rfl

/-- A text with blanks put in at a boundary has the same tokens. -/
theorem exists_lex_insertAt {text blanks : String} {stream : TokenStream} {position : Nat}
    (lexed : lex text = .ok stream) (boundary : stream.IsBoundary text position)
    (areBlank : AreBlank blanks.toList) :
    ∃ other, lex (Text.insertAt position blanks text) = .ok other ∧
      other.tokens = stream.tokens := by
  obtain ⟨first, second, split, rfl, cut⟩ := exists_cut lexed boundary
  have chars : (Text.insertAt first.length blanks text).toList =
      first ++ (blanks.toList ++ second) := by
    rw [Text.insertAt, String.toList_ofList, split, List.take_left, List.drop_left]
  by_cases none : blanks.toList = []
  · rw [none, List.nil_append, ← split, String.toList_inj] at chars
    rw [chars]
    exact ⟨stream, lexed, rfl⟩
  · obtain ⟨moved, same, layout⟩ := cut.insert areBlank none
    rw [← chars] at layout
    exact ⟨⟨moved, _⟩, lex_eq_ok_iff.mpr ⟨layout, rfl⟩, same⟩

end Token

/-- Texts with the same tokens are read alike. -/
theorem Parser.readText_eq_ok_iff_of_tokens {α : Type} {reader : List Token → Except Failure α}
    {text otherText : String} {stream other : TokenStream} (lexed : Token.lex text = .ok stream)
    (otherLexed : Token.lex otherText = .ok other) (same : other.tokens = stream.tokens)
    {found : α} : readText reader otherText = .ok found ↔ readText reader text = .ok found := by
  simp only [readText, lexed, otherLexed, same]
  cases reader stream.tokens with
  | error => simp only [reduceCtorEq]
  | ok => exact Iff.rfl

/-- A text with blanks put in where a token or the end begins, or where a token ends, has the same
tokens, and is read as an expression or a path exactly if the text without them is read as the
same. -/
theorem Token.insert_blanks {text blanks : String} {stream : TokenStream} {position : Nat}
    (lexed : lex text = .ok stream) (boundary : stream.IsBoundary text position)
    (areBlank : ∀ char ∈ blanks.toList, Text.isBlank char = true) :
    let spaced := Text.insertAt position blanks text
    (∃ other, lex spaced = .ok other ∧ other.tokens = stream.tokens) ∧
      (∀ expr, Expr.read spaced = .ok expr ↔ Expr.read text = .ok expr) ∧
        ∀ path, Path.read spaced = .ok path ↔ Path.read text = .ok path := by
  obtain ⟨other, otherLexed, same⟩ := exists_lex_insertAt lexed boundary areBlank
  exact ⟨⟨other, otherLexed, same⟩,
    fun _ => Parser.readText_eq_ok_iff_of_tokens lexed otherLexed same,
    fun _ => Parser.readText_eq_ok_iff_of_tokens lexed otherLexed same⟩

/-- A tab and a wide blank in front of digits behind a point, and blanks behind a comma. -/
theorem Token.insert_blanks_call :
    let text := "min(a.1, -2)"
    let stream : TokenStream := ⟨[⟨.word "min", 0⟩, ⟨.openParen, 3⟩, ⟨.word "a", 4⟩, ⟨.dot, 5⟩,
      ⟨.word "1", 6⟩, ⟨.comma, 7⟩, ⟨.integer "-2", 9⟩, ⟨.closeParen, 11⟩], 12⟩
    let expr := Expr.call "min" [.binding [.key "a", .key "1"], .literal (.int (-2))]
    lex text = .ok stream ∧ stream.IsBoundary text 6 ∧ stream.IsBoundary text 8 ∧
      Text.insertAt 6 "\t\u3000" text = "min(a.\t\u30001, -2)" ∧
        Expr.read (Text.insertAt 6 "\t\u3000" text) = .ok expr ∧
          ∃ other, lex (Text.insertAt 8 "\n " text) = .ok other ∧
            other.tokens = stream.tokens := by
  intro text stream expr
  have lexed : lex text = .ok stream := by decide +kernel
  have read : Expr.read text = .ok expr := by decide +kernel
  have atKey : stream.IsBoundary text 6 := .inl (by decide +kernel)
  have behindComma : stream.IsBoundary text 8 :=
    .inr ⟨⟨.comma, 7⟩, by decide +kernel, [','], " -2)".toList, by decide +kernel, rfl, rfl⟩
  have wide : "\t\u3000".toList.all Text.isBlank = true := by decide +kernel
  have plain : "\n ".toList.all Text.isBlank = true := by decide +kernel
  obtain ⟨-, readsAlike, -⟩ := insert_blanks lexed atKey (List.all_eq_true.mp wide)
  obtain ⟨sameTokens, -⟩ := insert_blanks lexed behindComma (List.all_eq_true.mp plain)
  exact ⟨lexed, atKey, behindComma, by decide +kernel, (readsAlike expr).mpr read, sameTokens⟩

end LiveBinding
