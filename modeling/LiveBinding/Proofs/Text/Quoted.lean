import LiveBinding.Json.Reader
import LiveBinding.Text.Quote

/-!
# Quoted text is read back

Between double quotes each character is written so that the reader of JSON strings finds it again,
and none is written with a quote that would end the string.  So quoted text shows what it quotes,
and where it ends, whatever follows.
-/

namespace LiveBinding

open Text (escapeChar hexDigit hexValue?)

/-! ### Escapes -/

theorem hexValue?_hexDigit (value : Nat) : hexValue? (hexDigit value) = some (value % 16) := by
  have digits : ∀ digit < 16, hexValue? (Nat.digitChar digit) = some digit := by decide
  exact digits (value % 16) (Nat.mod_lt value (by decide))

namespace Json

/-- A control character is found from its code point. -/
theorem takeEscapedCode?_control {char : Char} (control : char.toNat < 0x20) (rest : List Char) :
    takeEscapedCode?
        ('0' :: '0' :: hexDigit (char.toNat / 16) :: hexDigit char.toNat :: rest) =
      some (char, rest) := by
  have zero : hexValue? '0' = some 0 := by decide
  have joined : ((0 * 16 + 0) * 16 + char.toNat / 16 % 16) * 16 + char.toNat % 16 =
      char.toNat := by omega
  have noHighHalf : isHighHalf char.toNat = false := by
    rw [isHighHalf, Bool.and_eq_false_iff, decide_eq_false_iff_not]
    exact .inl (by omega)
  have noLowHalf : isLowHalf char.toNat = false := by
    rw [isLowHalf, Bool.and_eq_false_iff, decide_eq_false_iff_not]
    exact .inl (by omega)
  simp only [takeEscapedCode?, takeHex?, zero, hexValue?_hexDigit, Option.bind_eq_bind,
    Option.bind_some, joined, noHighHalf, noLowHalf, Bool.false_eq_true, if_false,
    Char.ofNat_toNat]

theorem takeString?_backslash {fuel : Nat} {char : Char} {escaped rest : List Char}
    (stands : takeEscape? escaped = some (char, rest)) :
    takeString? (fuel + 1) ('\\' :: escaped) =
      (takeString? fuel rest).map fun out => (char :: out.1, out.2) := by
  rw [takeString?, stands]
  dsimp only [Option.bind_eq_bind, Option.bind_some]
  cases takeString? fuel rest <;> rfl

/-- A character as it stands between quotes is read as this character. -/
theorem takeString?_escapeChar (fuel : Nat) (char : Char) (rest : List Char) :
    takeString? (fuel + 1) (escapeChar char ++ rest) =
      (takeString? fuel rest).map fun out => (char :: out.1, out.2) := by
  unfold escapeChar
  split
  case h_8 noQuote noBackslash _ _ _ _ _ =>
    split
    · next control => exact takeString?_backslash (takeEscapedCode?_control control rest)
    · next visible =>
        rw [List.singleton_append, takeString?, if_neg visible]
        · cases takeString? fuel rest <;> rfl
        · exact noQuote
        · exact noBackslash
  all_goals exact takeString?_backslash rfl

/-! ### Strings -/

theorem takeString?_flatMap_escapeChar {fuel : Nat} {chars : List Char}
    (enough : chars.length < fuel) (rest : List Char) :
    takeString? fuel (chars.flatMap escapeChar ++ '"' :: rest) = some (chars, rest) := by
  induction chars generalizing fuel with
  | nil =>
      cases fuel with
      | zero => contradiction
      | succ fuel => rfl
  | cons char chars ih =>
      cases fuel with
      | zero => contradiction
      | succ fuel =>
          have later := ih (Nat.lt_of_succ_lt_succ enough)
          rw [List.flatMap_cons, List.append_assoc, takeString?_escapeChar, later]
          rfl

end Json

namespace Text

theorem toList_quote (text : String) :
    (quote text).toList = '"' :: (text.toList.flatMap escapeChar ++ ['"']) := by
  rw [quote, String.toList_ofList]
  rfl

/-- Quoted text shows what it quotes, and where it ends. -/
theorem eq_of_quote_append {text other : String} {rest left : List Char}
    (same : (quote text).toList ++ rest = (quote other).toList ++ left) :
    text = other ∧ rest = left := by
  rw [toList_quote, toList_quote, List.cons_append, List.cons_append, List.append_assoc,
    List.append_assoc] at same
  have content := (List.cons.inj same).2
  have first : text.toList.length < text.toList.length + other.toList.length + 1 := by omega
  have second : other.toList.length < text.toList.length + other.toList.length + 1 := by omega
  have read := Json.takeString?_flatMap_escapeChar first rest
  rw [← List.singleton_append, content, List.singleton_append,
    Json.takeString?_flatMap_escapeChar second left] at read
  obtain ⟨sameContent, sameRest⟩ := Prod.mk.inj (Option.some.inj read)
  exact ⟨String.toList_inj.mp sameContent.symm, sameRest.symm⟩

end Text

end LiveBinding
