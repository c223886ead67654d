import LiveBinding.Text.Numeral
import LiveBinding.Text.CharClass
import Mathlib.Data.List.TakeWhile

/-!
# Numerals and names

Numerals are read back as what was written, and characters of a kind are taken together up to the
first one of another kind.  A character that may stand in a name is neither a blank nor one of the
marks of the notation.
-/

namespace LiveBinding.Text

/-! ### Runs of characters -/

/-- Whether what follows cannot be taken for another one of the same kind. -/
def Stops (kind : Char → Bool) (rest : List Char) : Prop :=
  ∀ char, rest.head? = some char → kind char = false

theorem stops_nil (kind : Char → Bool) : Stops kind [] := nofun

theorem stops_cons {kind : Char → Bool} {char : Char} {rest : List Char}
    (other : kind char = false) : Stops kind (char :: rest) := by
  intro first same
  cases same
  exact other

theorem Stops.append {kind : Char → Bool} {rest more : List Char} (stops : Stops kind rest)
    (stopsMore : Stops kind more) : Stops kind (rest ++ more) := by
  cases rest with
  | nil => exact stopsMore
  | cons first others => exact stops_cons (stops first rfl)

theorem Stops.of_append {kind : Char → Bool} {rest more : List Char}
    (stops : Stops kind (rest ++ more)) : Stops kind rest := by
  intro char first
  refine stops char ?_
  rw [List.head?_append, first, Option.some_or]

theorem stops_dropWhile (kind : Char → Bool) (chars : List Char) :
    Stops kind (chars.dropWhile kind) := by
  intro char first
  have fails := List.head?_dropWhile_not kind chars
  rw [first] at fails
  exact fails

/-- Where a kind stops, nothing more of it is taken. -/
theorem takeWhile_append_right {kind : Char → Bool} {rest : List Char} (stops : Stops kind rest)
    (chars : List Char) : (chars ++ rest).takeWhile kind = chars.takeWhile kind := by
  induction chars with
  | nil =>
      cases rest with
      | nil => rfl
      | cons char rest => exact List.takeWhile_cons_of_neg (by simp [stops char rfl])
  | cons char others ih => rw [List.cons_append, List.takeWhile_cons, List.takeWhile_cons, ih]

/-- Characters of a kind are taken together, up to the first one of another kind. -/
theorem takeWhile_append_of_stops {kind : Char → Bool} {taken rest : List Char}
    (all : ∀ char ∈ taken, kind char = true) (stops : Stops kind rest) :
    (taken ++ rest).takeWhile kind = taken := by
  rw [takeWhile_append_right stops, List.takeWhile_eq_self_iff.mpr all]

theorem dropWhile_append_right {kind : Char → Bool} {rest : List Char} (stops : Stops kind rest)
    (chars : List Char) : (chars ++ rest).dropWhile kind = chars.dropWhile kind ++ rest := by
  induction chars with
  | nil =>
      cases rest with
      | nil => rfl
      | cons char rest => exact List.dropWhile_cons_of_neg (by simp [stops char rfl])
  | cons char others ih =>
      rw [List.cons_append, List.dropWhile_cons, List.dropWhile_cons, ih]
      split <;> rfl

theorem dropWhile_append_of_stops {kind : Char → Bool} {taken rest : List Char}
    (all : ∀ char ∈ taken, kind char = true) (stops : Stops kind rest) :
    (taken ++ rest).dropWhile kind = rest := by
  rw [dropWhile_append_right stops, List.dropWhile_eq_nil_iff.mpr all, List.nil_append]

/-! ### Numerals -/

theorem isNumeral_iff {chars : List Char} :
    isNumeral chars = true ↔ chars ≠ [] ∧ ∀ char ∈ chars, char.isDigit = true := by
  simp [isNumeral]

/-- What begins with a digit begins with a numeral. -/
theorem isNumeral_takeWhile {char : Char} (digit : char.isDigit = true) (rest : List Char) :
    isNumeral ((char :: rest).takeWhile Char.isDigit) = true := by
  rw [isNumeral_iff, List.takeWhile_cons_of_pos digit]
  refine ⟨List.cons_ne_nil _ _, fun other member => ?_⟩
  rw [← List.takeWhile_cons_of_pos digit] at member
  exact List.mem_takeWhile_imp member

theorem toLower_of_isDigit {char : Char} (digit : char.isDigit = true) : char.toLower = char := by
  rw [Char.isDigit, Bool.and_eq_true, decide_eq_true_eq, decide_eq_true_eq] at digit
  have notUpper : ¬(char.val ≥ 'A'.val ∧ char.val ≤ 'Z'.val) := by
    rintro ⟨upper, -⟩
    exact absurd (UInt32.le_trans upper digit.2) (by decide)
  exact dif_neg notUpper

theorem isNumeral_digitChars (value : Nat) : isNumeral (digitChars value) = true := by
  rw [isNumeral_iff]
  constructor
  · exact Nat.toDigits_ne_nil
  · intro char member
    exact Nat.isDigit_of_mem_toDigits (by decide) (by decide) member

theorem readNat_eq_ofDigitChars (chars : List Char) : readNat chars = Nat.ofDigitChars 10 chars 0 :=
  Nat.ofDigitChars_eq_foldl.symm

@[simp] theorem readNat_digitChars (value : Nat) : readNat (digitChars value) = value := by
  rw [readNat_eq_ofDigitChars]
  exact Nat.ofDigitChars_ten_toDigits

theorem readNat_replicate_zero_append (count : Nat) (chars : List Char) :
    readNat (List.replicate count '0' ++ chars) = readNat chars := by
  rw [readNat_eq_ofDigitChars, Nat.ofDigitChars_append, Nat.ofDigitChars_replicate_zero,
    Nat.mul_zero, readNat_eq_ofDigitChars]

theorem readNat_append_zero (chars : List Char) :
    readNat (chars ++ ['0']) = 10 * readNat chars := by
  rw [readNat, List.foldl_append]
  rfl

theorem toList_natText (value : Nat) : (natText value).toList = digitChars value := by
  rw [natText, String.toList_ofList]

/-- Characters in front of which a sign would be seen, but which have none. -/
theorem takeSign_of_isNumeral {chars : List Char} (numeral : isNumeral chars = true)
    (rest : List Char) : takeSign (chars ++ rest) = (false, chars ++ rest) := by
  obtain ⟨nonempty, isDigit⟩ := isNumeral_iff.mp numeral
  cases chars with
  | nil => contradiction
  | cons first others =>
      have digit := isDigit first List.mem_cons_self
      rw [List.cons_append, takeSign]
      · intro others same
        cases same
        contradiction
      · intro others same
        cases same
        contradiction

/-- A sign in front of a numeral is seen. -/
theorem takeSign_signText_append (negative : Bool) {chars : List Char}
    (numeral : isNumeral chars = true) (rest : List Char) :
    takeSign ((signText negative).toList ++ (chars ++ rest)) = (negative, chars ++ rest) := by
  cases negative with
  | true => rfl
  | false => exact takeSign_of_isNumeral numeral rest

theorem toList_intText (value : Int) :
    (intText value).toList = (signText (decide (value < 0))).toList ++ digitChars value.natAbs := by
  rw [intText, String.toList_append, toList_natText]

/-- An integer is read back from its numeral. -/
theorem readInt?_intText (value : Int) : readInt? (intText value).toList = some value := by
  have numeral := isNumeral_digitChars value.natAbs
  have sign := takeSign_signText_append (decide (value < 0)) numeral []
  rw [List.append_nil] at sign
  rw [toList_intText, readInt?, sign]
  simp only [numeral, if_true, readNat_digitChars, decide_eq_true_eq]
  split
  · next negative => rw [Int.ofNat_natAbs_of_nonpos (Int.le_of_lt negative), Int.neg_neg]
  · next positive => rw [Int.natAbs_of_nonneg (Int.not_lt.mp positive)]

/-- An integer of 64 bits is read back from its numeral. -/
theorem readInt64?_intText (value : Int64) : readInt64? (intText value.toInt) = some value := by
  rw [readInt64?, readInt?_intText, Option.bind_some, if_pos, Int64.ofInt_toInt]
  exact ⟨value.minValue_le_toInt, value.toInt_le⟩

/-- What an integer of 64 bits is read from is a numeral with an optional sign. -/
theorem exists_of_readInt64? {text : String} {value : Int64}
    (reads : readInt64? text = some value) :
    ∃ negative digits, takeSign text.toList = (negative, digits) ∧ isNumeral digits = true ∧
      value.toInt = if negative then -(readNat digits : Int) else readNat digits := by
  obtain ⟨integer, isInteger, inRange⟩ := Option.bind_eq_some_iff.mp reads
  split at inRange
  · next range =>
      cases inRange
      obtain ⟨low, high⟩ := range
      rw [Int64.toInt_ofInt_of_le low (Int.lt_add_one_of_le high)]
      rw [readInt?] at isInteger
      split at isInteger
      next negative digits sign =>
        split at isInteger
        · next numeral =>
            cases isInteger
            exact ⟨negative, digits, sign, numeral, rfl⟩
        · contradiction
  · contradiction

/-! ### Signed numerals -/

/-- A minus sign, or nothing. -/
def IsSign (chars : List Char) : Prop := chars = [] ∨ chars = ['-']

/-- Whether characters are digits, at least one, with or without a minus sign. -/
def IsInteger (chars : List Char) : Prop :=
  ∃ sign whole, IsSign sign ∧ isNumeral whole = true ∧ chars = sign ++ whole

/-- Whether characters are digits with a point among them, with or without a minus sign. -/
def IsDecimal (chars : List Char) : Prop :=
  ∃ sign whole fraction, IsSign sign ∧ isNumeral whole = true ∧ isNumeral fraction = true ∧
    chars = sign ++ whole ++ '.' :: fraction

/-- Digits with a point among them stand behind a sign, if there is one. -/
theorem IsDecimal.exists_signText {chars : List Char} (decimal : IsDecimal chars) :
    ∃ negative whole fraction, isNumeral whole = true ∧ isNumeral fraction = true ∧
      chars = (signText negative).toList ++ (whole ++ '.' :: fraction) := by
  obtain ⟨sign, whole, fraction, isSign, wholeDigits, fractionDigits, spelling⟩ := decimal
  rw [List.append_assoc] at spelling
  obtain rfl | rfl := isSign
  · exact ⟨false, whole, fraction, wholeDigits, fractionDigits, spelling⟩
  · exact ⟨true, whole, fraction, wholeDigits, fractionDigits, spelling⟩

theorem isSign_signText (negative : Bool) : IsSign (signText negative).toList := by
  cases negative with
  | true => exact .inr rfl
  | false => exact .inl rfl

theorem isInteger_intText (value : Int) : IsInteger (intText value).toList :=
  ⟨_, _, isSign_signText _, isNumeral_digitChars _, toList_intText value⟩

/-! ### Names -/

theorem isName_iff {text : String} :
    isName text = true ↔ text.toList ≠ [] ∧ ∀ char ∈ text.toList, isWordChar char = true := by
  simp [isName]

/-- Where no name can go on, no digits can. -/
theorem Stops.isDigit {rest : List Char} (stops : Stops isWordChar rest) :
    Stops Char.isDigit rest := by
  intro char first
  rw [← Bool.not_eq_true]
  intro digit
  have noWordChar := stops char first
  rw [isWordChar_of_isDigit digit] at noWordChar
  contradiction

/-- Whether each of some ranges lies beside each of some others. -/
def areApart (left right : List Range) : Bool :=
  left.all fun first => right.all fun second =>
    first.last.blt second.first || second.last.blt first.first

/-- Ranges that lie beside each other have nothing in common. -/
theorem inRanges_eq_false {left right : List Range} {char : Char}
    (apart : areApart left right = true) (inLeft : inRanges left char = true) :
    inRanges right char = false := by
  rw [inRanges, List.any_eq_true] at inLeft
  obtain ⟨first, listed, inFirst⟩ := inLeft
  rw [inRanges, List.any_eq_false]
  intro second alsoListed inSecond
  rw [Range.contains_eq_true] at inFirst inSecond
  have beside := List.all_eq_true.mp (List.all_eq_true.mp apart first listed) second alsoListed
  rw [Bool.or_eq_true, Nat.blt_eq, Nat.blt_eq] at beside
  obtain below | above := beside
  · exact absurd (Nat.le_trans inSecond.1 inFirst.2) (Nat.not_le_of_lt below)
  · exact absurd (Nat.le_trans inFirst.1 inSecond.2) (Nat.not_le_of_lt above)

theorem inRanges_of_mem {ranges : List Range} {char : Char} (range : Range)
    (listed : range ∈ ranges) (first : range.first ≤ char.toNat) (last : char.toNat ≤ range.last) :
    inRanges ranges char = true :=
  List.any_eq_true.mpr ⟨range, listed, Range.contains_eq_true.mpr ⟨first, last⟩⟩

/-- The characters of names are those of some ranges. -/
theorem inRanges_of_isWordChar {char : Char} (wordChar : isWordChar char = true) :
    inRanges (⟨0x5f, 0x5f⟩ :: alphanumericRanges) char = true := by
  have listed : (⟨0x41, 0x5a⟩ : Range) ∈ ⟨0x5f, 0x5f⟩ :: alphanumericRanges ∧
      ⟨0x61, 0x7a⟩ ∈ ⟨0x5f, 0x5f⟩ :: alphanumericRanges ∧
        ⟨0x30, 0x39⟩ ∈ ⟨0x5f, 0x5f⟩ :: alphanumericRanges := by decide +kernel
  rw [isWordChar, isAlphanumeric, Bool.or_eq_true, Bool.or_eq_true, beq_iff_eq] at wordChar
  obtain rfl | ascii | other := wordChar
  · exact inRanges_of_mem ⟨0x5f, 0x5f⟩ List.mem_cons_self (by decide) (by decide)
  · obtain letter | digit := Bool.or_eq_true_iff.mp ascii
    · obtain upper | lower := Bool.or_eq_true_iff.mp letter
      · have bounds : 'A'.val ≤ char.val ∧ char.val ≤ 'Z'.val := of_decide_eq_true upper
        exact inRanges_of_mem _ listed.1 bounds.1 bounds.2
      · have bounds := Bool.and_eq_true_iff.mp lower
        exact inRanges_of_mem _ listed.2.1 (of_decide_eq_true bounds.1)
          (of_decide_eq_true bounds.2)
    · have bounds := Bool.and_eq_true_iff.mp digit
      exact inRanges_of_mem _ listed.2.2 (of_decide_eq_true bounds.1) (of_decide_eq_true bounds.2)
  · rw [inRanges, List.any_cons, Bool.or_eq_true]
    exact .inr other

/-- The marks of the notation, with quotes, signs and spaces. -/
def markRanges : List Range :=
  [⟨0x20, 0x20⟩, ⟨0x27, 0x2e⟩, ⟨0x5b, 0x5d⟩]

theorem not_blank_or_mark {char : Char} (wordChar : isWordChar char = true) :
    inRanges blankRanges char = false ∧ inRanges markRanges char = false := by
  have neither : inRanges (blankRanges ++ markRanges) char = false :=
    inRanges_eq_false (by decide +kernel) (inRanges_of_isWordChar wordChar)
  rw [inRanges, List.any_append, Bool.or_eq_false_iff] at neither
  exact neither

/-- No blank may stand in a name. -/
theorem isBlank_eq_false {char : Char} (wordChar : isWordChar char = true) :
    isBlank char = false :=
  (not_blank_or_mark wordChar).1

/-- No mark may stand in a name. -/
theorem isWordChar_eq_false (char : Char) (mark : inRanges markRanges char = true) :
    isWordChar char = false := by
  rw [← Bool.not_eq_true]
  intro wordChar
  rw [(not_blank_or_mark wordChar).2] at mark
  contradiction

end LiveBinding.Text
