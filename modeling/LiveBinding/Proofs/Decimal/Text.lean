import LiveBinding.Decimal.Text
import LiveBinding.Proofs.Text
import Mathlib.Algebra.Ring.Nat

/-!
# Decimals are read back

The plain text of a finite decimal has digits on both sides of a point and reads back as the same
decimal.  A whole number is written exactly; any other number is written with digits that were
tested to read back, or with all of its digits.
-/

namespace LiveBinding.Decimal

/-! ### Rounding leaves the grid alone -/

/-- A magnitude on the grid is the nearest one to itself, however it is given as a ratio. -/
theorem roundRatio_mul {steps scale : Nat} (onGrid : steps % spacing steps = 0)
    (positive : 0 < scale) : roundRatio (steps * scale) scale = steps := by
  have whole : steps * scale / scale = steps := Nat.mul_div_cancel steps positive
  have below : steps * scale / (scale * spacing steps) = steps / spacing steps := by
    rw [Nat.mul_comm steps, Nat.mul_div_mul_left _ _ positive]
  have rest : steps * scale % (scale * spacing steps) = 0 := by
    rw [Nat.mul_comm steps, Nat.mul_mod_mul_left, onGrid, Nat.mul_zero]
  have nothingLeft : 2 * 0 < scale * spacing steps :=
    Nat.mul_pos positive (spacing_pos steps)
  rw [roundRatio]
  simp only [whole, below, rest, nothingLeft, true_or, if_true]
  exact Nat.div_mul_cancel (Nat.dvd_of_mod_eq_zero onGrid)

theorem ofRatio_mul (negative : Bool) {steps scale : Nat} (onGrid : OnGrid steps)
    (positive : 0 < scale) :
    ofRatio negative (steps * scale) scale = .finite negative steps onGrid := by
  have rounded := roundRatio_mul onGrid.2 positive
  rw [ofRatio, dif_pos (by rw [rounded]; exact onGrid.1)]
  congr 1

theorem spacing_dvd_unit {steps : Nat} (fine : steps.log2 - 52 ≤ depth) : spacing steps ∣ unit := by
  unfold unit
  generalize depth = bits at fine ⊢
  exact Nat.pow_dvd_pow 2 fine

theorem unit_dvd_spacing {steps : Nat} (coarse : depth ≤ steps.log2 - 52) :
    unit ∣ spacing steps := by
  unfold unit
  generalize depth = bits at coarse ⊢
  exact Nat.pow_dvd_pow 2 coarse

/-- A whole number is rounded to a whole number. -/
theorem unit_dvd_roundRatio (whole : Nat) : unit ∣ roundRatio (whole * unit) 1 := by
  rcases Nat.le_total ((whole * unit).log2 - 52) depth with fine | coarse
  · have onGrid : whole * unit % spacing (whole * unit) = 0 :=
      Nat.mod_eq_zero_of_dvd (Nat.dvd_trans (spacing_dvd_unit fine) (Nat.dvd_mul_left _ _))
    have rounded := roundRatio_mul onGrid Nat.one_pos
    rw [Nat.mul_one] at rounded
    rw [rounded]
    exact Nat.dvd_mul_left unit whole
  · have divides := unit_dvd_spacing coarse
    rw [roundRatio, Nat.div_one]
    split
    · exact Nat.dvd_trans divides (Nat.dvd_mul_left _ _)
    · exact Nat.dvd_trans divides (Nat.dvd_mul_left _ _)

/-! ### Digits that denote a decimal -/

/-- Digits denote a finite decimal or an infinite one of their sign. -/
theorem toDecimal_cases (digits : Digits) (negative : Bool) :
    (digits.toDecimal negative).isFinite = true ∨
      digits.toDecimal negative = .infinite negative := by
  rw [Digits.toDecimal]
  split
  · exact .inl rfl
  · split
    · exact .inr rfl
    · split
      · exact .inl rfl
      · rw [ofRatio]
        split
        · exact .inl rfl
        · exact .inr rfl

theorem toDecimal_ne_nan (digits : Digits) (negative : Bool) :
    digits.toDecimal negative ≠ .nan := by
  intro undefined
  obtain finite | infinite := toDecimal_cases digits negative
  · rw [undefined] at finite
    exact Bool.false_ne_true finite
  · rw [undefined] at infinite
    contradiction

/-- The sign has no part in how digits are rounded. -/
theorem toDecimal_sign {digits : Digits} {steps : Nat} {onGrid : OnGrid steps}
    (denotes : digits.toDecimal false = .finite false steps onGrid) (negative : Bool) :
    digits.toDecimal negative = .finite negative steps onGrid := by
  rw [Digits.toDecimal] at denotes ⊢
  split at denotes
  · next none =>
      rw [if_pos none]
      cases denotes
      rfl
  · next some =>
      rw [if_neg some]
      split at denotes
      · contradiction
      · next moderate =>
          rw [if_neg moderate]
          split at denotes
          · next tiny =>
              rw [if_pos tiny]
              cases denotes
              rfl
          · next visible =>
              rw [if_neg visible]
              rw [ofRatio] at denotes ⊢
              split at denotes
              · next finite =>
                  rw [dif_pos finite]
                  cases denotes
                  rfl
              · contradiction

/-- Digits without a fractional part denote a whole number. -/
theorem unit_dvd_of_toDecimal {digits : Digits} {negative : Bool} {steps : Nat}
    {onGrid : OnGrid steps} (integral : 0 ≤ digits.exponent)
    (denotes : digits.toDecimal negative = .finite negative steps onGrid) : unit ∣ steps := by
  rw [Digits.toDecimal] at denotes
  split at denotes
  · cases denotes
    exact Nat.dvd_zero unit
  · split at denotes
    · contradiction
    · split at denotes
      · cases denotes
        exact Nat.dvd_zero unit
      · rw [ofRatio] at denotes
        split at denotes
        · cases denotes
          rw [Digits.ratio, if_pos integral]
          exact unit_dvd_roundRatio _
        · contradiction

theorem readsBack_iff {steps : Nat} {digits : Digits} :
    readsBack steps digits = true ↔
      ∃ onGrid, digits.toDecimal false = .finite false steps onGrid := by
  rw [readsBack]
  split
  · next found onGrid denotes =>
      rw [beq_iff_eq, denotes]
      constructor
      · rintro rfl
        exact ⟨onGrid, rfl⟩
      · rintro ⟨_, same⟩
        cases same
        rfl
  · next other =>
      refine iff_of_false Bool.false_ne_true ?_
      rintro ⟨onGrid, denotes⟩
      exact other _ _ denotes

/-! ### The digits that are written -/

theorem searchDigits_readsBack {ties : TieRule} {steps : Nat} {magnitude : Int}
    {count left : Nat} {digits : Digits}
    (found : searchDigits ties steps magnitude count left = some digits) :
    readsBack steps digits = true := by
  induction left generalizing count with
  | zero => contradiction
  | succ left ih =>
      rw [searchDigits] at found
      split at found
      · next first =>
          cases found
          exact List.find?_some first
      · exact ih found

/-- The magnitude of a number is between those of its bounds. -/
theorem length_digitChars_le_iff {value count : Nat} (positive : 0 < count) :
    (Text.digitChars value).length ≤ count ↔ value < 10 ^ count :=
  Nat.length_toDigits_le_iff (by decide) positive

/-- Digits whose value is on the grid and not out of all proportion denote it. -/
theorem toDecimal_of_ratio {digits : Digits} {steps scale : Nat} (negative : Bool)
    (onGrid : OnGrid steps) (positive : 0 < scale) (nonzero : digits.coefficient ≠ 0)
    (ratio : digits.ratio = (steps * scale, scale)) (upper : digits.magnitude ≤ 400)
    (lower : -400 ≤ digits.magnitude) :
    digits.toDecimal negative = .finite negative steps onGrid := by
  rw [Digits.toDecimal, if_neg nonzero, if_neg (Int.not_lt.mpr upper),
    if_neg (Int.not_lt.mpr lower), ratio]
  exact ofRatio_mul negative onGrid positive

/-- All digits of a number denote it. -/
theorem toDecimal_exactDigits {steps : Nat} (negative : Bool) (onGrid : OnGrid steps)
    (positive : 0 < steps) :
    (exactDigits steps).toDecimal negative = .finite negative steps onGrid := by
  -- The two powers are named, so that nothing but the kernel computes them.
  obtain ⟨fives, isFives⟩ : ∃ fives, fives = Nat.pow 5 1074 := ⟨_, rfl⟩
  obtain ⟨tens, isTens⟩ : ∃ tens, tens = Nat.pow 10 (-(-1074 : Int)).toNat := ⟨_, rfl⟩
  have digits : exactDigits steps = ⟨steps * fives, -1074⟩ := by rw [isFives, exactDigits]
  have ratio : (exactDigits steps).ratio = (steps * tens, tens) := by
    have split : fives * unit = tens := by
      rw [isFives, isTens]
      decide +kernel
    have fractional : ¬(0 : Int) ≤ -1074 := by decide
    rw [digits, Digits.ratio, if_neg fractional, ← isTens, Nat.mul_assoc, split]
  have somePowers : 0 < fives ∧ 0 < tens := by
    rw [isFives, isTens]
    decide +kernel
  have small : steps * fives < 10 ^ 1474 :=
    calc steps * fives < limit * fives := Nat.mul_lt_mul_of_pos_right onGrid.1 somePowers.1
      _ ≤ 10 ^ 1474 := by
        rw [isFives]
        decide +kernel
  have large : 10 ^ 673 ≤ steps * fives :=
    calc 10 ^ 673 ≤ 1 * fives := by
          rw [isFives]
          decide +kernel
      _ ≤ steps * fives := Nat.mul_le_mul_right _ positive
  have upper := (length_digitChars_le_iff (by decide)).mpr small
  have lower := mt (length_digitChars_le_iff (by decide)).mp (Nat.not_lt.mpr large)
  have magnitude : (exactDigits steps).magnitude =
      -1074 + (Text.digitChars (steps * fives)).length := by rw [digits, Digits.magnitude]
  refine toDecimal_of_ratio negative onGrid somePowers.2 ?_ ratio ?_ ?_
  · rw [digits]
    exact Nat.ne_of_gt (Nat.mul_pos positive somePowers.1)
  · omega
  · omega

/-- The digits that are written denote the number that was meant. -/
theorem toDecimal_shortestDigits {steps : Nat} (ties : TieRule) (negative : Bool)
    (onGrid : OnGrid steps) (positive : 0 < steps) :
    (shortestDigits ties steps).toDecimal negative = .finite negative steps onGrid := by
  rw [shortestDigits]
  cases found : searchDigits ties steps (magnitudeOfRatio steps unit) 1 17 with
  | none => exact toDecimal_exactDigits negative onGrid positive
  | some digits =>
      obtain ⟨_, denotes⟩ := readsBack_iff.mp (searchDigits_readsBack found)
      exact toDecimal_sign denotes negative

/-- The digits of a whole number and a zero behind them denote it. -/
theorem toDecimal_whole {steps : Nat} (negative : Bool) (onGrid : OnGrid steps)
    (integral : steps % unit = 0) :
    (⟨10 * (steps / unit), -1⟩ : Digits).toDecimal negative = .finite negative steps onGrid := by
  have exact : steps / unit * unit = steps := Nat.div_mul_cancel (Nat.dvd_of_mod_eq_zero integral)
  rcases Nat.eq_zero_or_pos (steps / unit) with none | some
  · rw [none, Nat.zero_mul] at exact
    rw [none]
    cases exact
    rfl
  · have ratio : (⟨10 * (steps / unit), -1⟩ : Digits).ratio = (steps * 10, 10) := by
      have product : 10 * (steps / unit) * unit = steps * 10 := by
        rw [Nat.mul_assoc, exact, Nat.mul_comm]
      rw [← product]
      rfl
    have small : 10 * (steps / unit) < 10 ^ 401 :=
      calc 10 * (steps / unit) ≤ 10 * (limit / unit) :=
            Nat.mul_le_mul_left 10 (Nat.div_le_div_right (Nat.le_of_lt onGrid.1))
        _ < 10 ^ 401 := by decide +kernel
    have upper := (length_digitChars_le_iff (by decide)).mpr small
    have magnitude : (⟨10 * (steps / unit), -1⟩ : Digits).magnitude =
        -1 + (Text.digitChars (10 * (steps / unit))).length := rfl
    refine toDecimal_of_ratio negative onGrid (by decide) ?_ ratio ?_ ?_
    · exact Nat.ne_of_gt (Nat.mul_pos (by decide) some)
    · omega
    · omega

/-! ### Reading and writing -/

/-- What is read from digits on both sides of a point. -/
theorem ofChars?_eq {whole fraction : List Char} (wholeDigits : Text.isNumeral whole = true)
    (fractionDigits : Text.isNumeral fraction = true) :
    Digits.ofChars? (whole ++ '.' :: fraction) =
      some ⟨Text.readNat (whole ++ fraction), -(fraction.length : Int)⟩ := by
  obtain ⟨nonempty, wholeAll⟩ := Text.isNumeral_iff.mp wholeDigits
  obtain ⟨-, fractionAll⟩ := Text.isNumeral_iff.mp fractionDigits
  have point : Text.Stops Char.isDigit ('.' :: fraction) := Text.stops_cons rfl
  have ends := Text.stops_nil Char.isDigit
  have taken : fraction.takeWhile Char.isDigit = fraction := by
    have all := Text.takeWhile_append_of_stops fractionAll ends
    rwa [List.append_nil] at all
  have dropped : fraction.dropWhile Char.isDigit = [] := by
    have all := Text.dropWhile_append_of_stops fractionAll ends
    rwa [List.append_nil] at all
  rw [Digits.ofChars?]
  simp only [Text.takeWhile_append_of_stops wholeAll point,
    Text.dropWhile_append_of_stops wholeAll point, takeFraction, taken, dropped, nonempty,
    false_and, if_false, readExponent?, Option.map_some, Int.zero_sub]

/-- Digits with a point among them are never taken for a name. -/
theorem ofText?_eq {digits : String} (negative : Bool) {whole fraction : List Char}
    (wholeDigits : Text.isNumeral whole = true) (fractionDigits : Text.isNumeral fraction = true)
    (spelling : digits.toList = (Text.signText negative).toList ++ (whole ++ '.' :: fraction)) :
    ofText? digits = some
      ((⟨Text.readNat (whole ++ fraction), -(fraction.length : Int)⟩ : Digits).toDecimal
        negative) := by
  have noName : ∀ name : String, '.' ∉ name.toList →
      String.ofList ((whole ++ '.' :: fraction).map Char.toLower) ≠ name := by
    intro name noPoint same
    rw [← same, String.toList_ofList] at noPoint
    exact noPoint (List.mem_map.mpr ⟨'.', by simp, rfl⟩)
  rw [ofText?, spelling, Text.takeSign_signText_append negative wholeDigits]
  simp only [noName "inf" (by decide), noName "infinity" (by decide), noName "nan" (by decide),
    or_self, if_false, ofChars?_eq wholeDigits fractionDigits, Option.map_some]

/-- Digits with a fractional part are written on both sides of a point. -/
theorem exists_of_positional {digits : Digits} (fractional : digits.exponent < 0) :
    ∃ whole fraction, digits.positional.toList = whole ++ '.' :: fraction ∧
      Text.isNumeral whole = true ∧ Text.isNumeral fraction = true ∧
        (⟨Text.readNat (whole ++ fraction), -(fraction.length : Int)⟩ : Digits) = digits := by
  obtain ⟨coefficient, exponent⟩ := digits
  obtain ⟨-, isDigit⟩ := Text.isNumeral_iff.mp (Text.isNumeral_digitChars coefficient)
  let chars := Text.digitChars coefficient
  let places := (-exponent).toNat
  let padded := List.replicate (places + 1 - chars.length) '0' ++ chars
  have length : padded.length = places + 1 - chars.length + chars.length := by
    rw [List.length_append, List.length_replicate]
  have somePlaces : (places : Int) = -exponent := Int.toNat_of_nonneg (by grind)
  have fractionLength : (padded.drop (padded.length - places)).length = places := by
    rw [List.length_drop]
    omega
  have paddedDigits : ∀ char ∈ padded, char.isDigit = true := by
    intro char member
    obtain zero | digit := List.mem_append.mp member
    · rw [List.eq_of_mem_replicate zero]
      rfl
    · exact isDigit char digit
  refine ⟨padded.take (padded.length - places), padded.drop (padded.length - places), ?_, ?_, ?_,
    ?_⟩
  · rw [Digits.positional]
    simp only [if_neg (Int.not_le.mpr fractional), String.toList_ofList]
    rfl
  · refine Text.isNumeral_iff.mpr ⟨?_, fun char member => ?_⟩
    · rw [← List.length_pos_iff, List.length_take]
      omega
    · exact paddedDigits char (List.mem_of_mem_take member)
  · refine Text.isNumeral_iff.mpr ⟨?_, fun char member => ?_⟩
    · rw [← List.length_pos_iff, fractionLength]
      grind
    · exact paddedDigits char (List.mem_of_mem_drop member)
  · rw [List.take_append_drop, fractionLength, somePlaces, Int.neg_neg,
      Text.readNat_replicate_zero_append, Text.readNat_digitChars]

/-- The text of a finite decimal has digits on both sides of a point, which denote it. -/
theorem exists_of_toText {value : Decimal} (finite : value.isFinite = true) :
    ∃ negative whole fraction, Text.isNumeral whole = true ∧ Text.isNumeral fraction = true ∧
      value.toText.toList = (Text.signText negative).toList ++ (whole ++ '.' :: fraction) ∧
        (⟨Text.readNat (whole ++ fraction), -(fraction.length : Int)⟩ : Digits).toDecimal
          negative = value := by
  cases value with
  | nan => contradiction
  | infinite => contradiction
  | finite negative steps onGrid =>
      rw [toText]
      split
      · next integral =>
          refine ⟨negative, Text.digitChars (steps / unit), ['0'], Text.isNumeral_digitChars _,
            rfl, ?_, ?_⟩
          · rw [String.toList_append, String.toList_append, Text.toList_natText, List.append_assoc]
            rfl
          · rw [Text.readNat_append_zero, Text.readNat_digitChars]
            exact toDecimal_whole negative onGrid integral
      · next fractional =>
          have positive : 0 < steps := by
            rcases Nat.eq_zero_or_pos steps with rfl | positive
            · exact absurd (Nat.zero_mod unit) fractional
            · exact positive
          have denotes := toDecimal_shortestDigits .up negative onGrid positive
          have below : (shortestDigits .up steps).exponent < 0 := by
            rw [← Int.not_le]
            intro integral
            exact fractional (Nat.mod_eq_zero_of_dvd (unit_dvd_of_toDecimal integral denotes))
          obtain ⟨whole, fraction, text, wholeDigits, fractionDigits, same⟩ :=
            exists_of_positional below
          refine ⟨negative, whole, fraction, wholeDigits, fractionDigits, ?_, ?_⟩
          · rw [String.toList_append, text]
          · rw [same]
            exact denotes

theorem isDecimal_toText {value : Decimal} (finite : value.isFinite = true) :
    Text.IsDecimal value.toText.toList := by
  obtain ⟨negative, whole, fraction, wholeDigits, fractionDigits, text, -⟩ :=
    exists_of_toText finite
  refine ⟨_, whole, fraction, Text.isSign_signText negative, wholeDigits, fractionDigits, ?_⟩
  rw [text, List.append_assoc]

/-- A finite decimal is read back from its text. -/
theorem ofText?_toText {value : Decimal} (finite : value.isFinite = true) :
    ofText? value.toText = some value := by
  obtain ⟨negative, whole, fraction, wholeDigits, fractionDigits, text, denotes⟩ :=
    exists_of_toText finite
  rw [ofText?_eq negative wholeDigits fractionDigits text, denotes]

end LiveBinding.Decimal
