import LiveBinding.Decimal.Arithmetic
import LiveBinding.Proofs.Decimal.Range

/-!
# Decimals of integers

Rounding never exchanges two numbers, but it may merge them.  So the decimals nearest to two
integers are in the order of the integers, or equal, and they are equal for different integers only
beyond the integers of 53 binary digits, which are decimals themselves.  The text of an integer
denotes the decimal nearest to the integer.
-/

namespace LiveBinding.Decimal

/-! ### Rounding keeps the order -/

theorem spacing_mono {less more : Nat} (le : less ≤ more) : spacing less ≤ spacing more := by
  have digits : less.log2 ≤ more.log2 := by
    rcases Nat.eq_zero_or_pos less with rfl | positive
    · exact Nat.zero_le _
    · rw [Nat.le_log2 (by omega)]
      exact Nat.le_trans (Nat.log2_self_le (Nat.ne_of_gt positive)) le
  exact Nat.pow_le_pow_right Nat.two_pos (by omega)

section

variable {numerator denominator bound : Nat}

/-- Rounding does not fall below a multiple of the spacing that was reached. -/
theorem le_roundRatio_of_dvd (multiple : spacing (numerator / denominator) ∣ bound)
    (reached : bound ≤ numerator / denominator) : bound ≤ roundRatio numerator denominator := by
  obtain ⟨count, rfl⟩ := multiple
  refine Nat.le_trans ?_ (roundRatio_bounds numerator denominator).1
  rw [Nat.mul_comm]
  refine Nat.mul_le_mul_right _ ((Nat.le_div_iff_mul_le (spacing_pos _)).mpr ?_)
  rwa [Nat.mul_comm]

/-- Rounding does not go beyond a multiple of the spacing that was not reached. -/
theorem roundRatio_le_of_dvd (multiple : spacing (numerator / denominator) ∣ bound)
    (above : numerator / denominator < bound) : roundRatio numerator denominator ≤ bound := by
  obtain ⟨count, rfl⟩ := multiple
  have below : numerator / denominator / spacing (numerator / denominator) < count := by
    rw [Nat.div_lt_iff_lt_mul (spacing_pos _), Nat.mul_comm]
    exact above
  rw [roundRatio, ← Nat.div_div_eq_div_mul, Nat.mul_comm (spacing _) count]
  split
  · exact Nat.mul_le_mul_right _ (Nat.le_of_lt below)
  · exact Nat.mul_le_mul_right _ below

/-- A larger ratio is never rounded to a smaller magnitude. -/
theorem roundRatio_mono {more : Nat} (positive : 0 < denominator) (le : numerator ≤ more) :
    roundRatio numerator denominator ≤ roundRatio more denominator := by
  have whole : numerator / denominator ≤ more / denominator := Nat.div_le_div_right le
  rcases Nat.lt_or_eq_of_le (spacing_mono whole) with finer | same
  · -- The power of two at which the spacing grew is a multiple of both spacings.
    have digits : (numerator / denominator).log2 < (more / denominator).log2 := by
      have exponents := (Nat.pow_lt_pow_iff_right (by decide)).mp finer
      omega
    have large : more / denominator ≠ 0 := by
      intro zero
      rw [zero] at digits
      contradiction
    have between : numerator / denominator < 2 ^ (more / denominator).log2 :=
      Nat.lt_of_lt_of_le Nat.lt_log2_self (Nat.pow_le_pow_right Nat.two_pos digits)
    exact Nat.le_trans
      (roundRatio_le_of_dvd (Nat.pow_dvd_pow 2 (by omega)) between)
      (le_roundRatio_of_dvd (Nat.pow_dvd_pow 2 (Nat.sub_le _ _)) (Nat.log2_self_le large))
  · have divisorPos : 0 < denominator * spacing (more / denominator) :=
      Nat.mul_pos positive (spacing_pos _)
    rw [roundRatio, roundRatio, same]
    generalize denominator * spacing (more / denominator) = divisor at divisorPos ⊢
    have quotients : numerator / divisor ≤ more / divisor := Nat.div_le_div_right le
    have split := Nat.div_add_mod numerator divisor
    have splitMore := Nat.div_add_mod more divisor
    have remainders : numerator / divisor = more / divisor →
        numerator % divisor ≤ more % divisor := by
      intro equal
      rw [equal] at split
      omega
    split
    · split
      · exact Nat.mul_le_mul_right _ quotients
      · exact Nat.mul_le_mul_right _ (Nat.le_succ_of_le quotients)
    · split
      · exact Nat.mul_le_mul_right _ (by omega)
      · exact Nat.mul_le_mul_right _ (Nat.succ_le_succ quotients)

end

/-! ### The decimal nearest to an integer -/

/-- The steps of the decimal nearest to an integer, with its sign. -/
def nearestSteps (value : Int) : Int :=
  signedSteps (decide (value < 0)) (roundRatio (value.natAbs * unit) 1)

/-- The sign has no part in the rounding. -/
theorem signedSteps_roundRatio (negative : Bool) (value : Nat) :
    signedSteps negative (roundRatio (value * unit) 1) =
      nearestSteps (signedSteps negative value) := by
  cases negative with
  | false =>
      have nonnegative : ¬(value : Int) < 0 := by omega
      simp only [nearestSteps, signedSteps, Bool.false_eq_true, if_false, nonnegative,
        decide_false, Int.natAbs_natCast]
  | true =>
      rcases Nat.eq_zero_or_pos value with rfl | positive
      · have zero : roundRatio 0 1 = 0 := roundRatio_mul (Nat.zero_mod _) Nat.one_pos
        simp [nearestSteps, signedSteps, zero]
      · have below : -(value : Int) < 0 := by omega
        simp only [nearestSteps, signedSteps, if_true, below, decide_true, Int.natAbs_neg,
          Int.natAbs_natCast]

theorem nearestSteps_mono {less more : Int} (le : less ≤ more) :
    nearestSteps less ≤ nearestSteps more := by
  have rounded {first second : Nat} (le : first ≤ second) :
      roundRatio (first * unit) 1 ≤ roundRatio (second * unit) 1 :=
    roundRatio_mono Nat.one_pos (Nat.mul_le_mul_right unit le)
  simp only [nearestSteps, signedSteps, decide_eq_true_eq]
  split
  · split
    · have := rounded (show more.natAbs ≤ less.natAbs by omega)
      omega
    · omega
  · have := rounded (show less.natAbs ≤ more.natAbs by omega)
    rw [if_neg (by omega)]
    omega

/-- The steps of an integer by its sign and its magnitude. -/
theorem signedSteps_natAbs (value : Int) :
    signedSteps (decide (value < 0)) (value.natAbs * unit) = value * unit := by
  rw [signedSteps]
  split
  · next negative =>
      rw [decide_eq_true_eq] at negative
      rw [Int.natCast_mul, Int.ofNat_natAbs_of_nonpos (Int.le_of_lt negative), Int.neg_mul,
        Int.neg_neg]
  · next positive =>
      rw [decide_eq_true_eq, Int.not_lt] at positive
      rw [Int.natCast_mul, Int.natAbs_of_nonneg positive]

/-- An integer of at most 53 binary digits is a decimal. -/
theorem nearestSteps_of_le {value : Int} (small : value.natAbs ≤ 2 ^ 53) :
    nearestSteps value = value * unit := by
  have exact : roundRatio (value.natAbs * unit) 1 = value.natAbs * unit := by
    have onGrid : value.natAbs * unit % spacing (value.natAbs * unit) = 0 := by
      unfold unit
      generalize depth = bits
      exact mul_two_pow_mod_spacing small
    have fixed := roundRatio_mul onGrid Nat.one_pos
    rwa [Nat.mul_one] at fixed
  rw [nearestSteps, exact, signedSteps_natAbs]

/-- Different integers are merged only beyond the integers of 53 binary digits. -/
theorem le_natAbs_of_nearestSteps_eq {left right : Int} (different : left ≠ right)
    (merged : nearestSteps left = nearestSteps right) : 2 ^ 53 ≤ left.natAbs := by
  by_contra small
  have positive : (0 : Int) < unit := Int.natCast_pos.mpr unit_pos
  have exact := nearestSteps_of_le (show left.natAbs ≤ 2 ^ 53 by omega)
  rcases Int.lt_or_gt_of_ne different with less | greater
  · have next := nearestSteps_of_le (show (left + 1).natAbs ≤ 2 ^ 53 by omega)
    have order := nearestSteps_mono (show left + 1 ≤ right by omega)
    rw [← merged, next, exact] at order
    have := Int.le_of_mul_le_mul_right order positive
    omega
  · have previous := nearestSteps_of_le (show (left - 1).natAbs ≤ 2 ^ 53 by omega)
    have order := nearestSteps_mono (show right ≤ left - 1 by omega)
    rw [← merged, previous, exact] at order
    have := Int.le_of_mul_le_mul_right order positive
    omega

theorem compare_nearestSteps (left right : Int) :
    compare (nearestSteps left) (nearestSteps right) =
      if nearestSteps left = nearestSteps right then .eq else compare left right := by
  split
  · next merged => exact Std.compare_eq_iff_eq.mpr merged
  · next apart =>
      rcases Int.lt_trichotomy left right with less | rfl | greater
      · have order := nearestSteps_mono (Int.le_of_lt less)
        rw [Int.compare_eq_lt.mpr less, Int.compare_eq_lt]
        omega
      · contradiction
      · have order := nearestSteps_mono (Int.le_of_lt greater)
        rw [Int.compare_eq_gt.mpr greater, Int.compare_eq_gt]
        omega

/-- The decimal nearest to an integer that is not out of range. -/
theorem exists_ofRatio_eq (negative : Bool) {value : Nat} (small : value < leastInfinite) :
    ∃ onGrid, ofRatio negative (value * unit) 1 =
      .finite negative (roundRatio (value * unit) 1) onGrid := by
  have finite : roundRatio (value * unit) 1 < limit := by
    rw [roundRatio_lt_limit_iff Nat.one_pos, Nat.mul_one, threshold]
    exact Nat.mul_lt_mul_of_pos_right small unit_pos
  rw [ofRatio, dif_pos finite]
  exact ⟨_, rfl⟩

theorem compare?_ofInt {left right : Int} (smallLeft : left.natAbs < leastInfinite)
    (smallRight : right.natAbs < leastInfinite) :
    (ofInt left).compare? (ofInt right) =
      some (compare (nearestSteps left) (nearestSteps right)) := by
  obtain ⟨_, isLeft⟩ := exists_ofRatio_eq (decide (left < 0)) smallLeft
  obtain ⟨_, isRight⟩ := exists_ofRatio_eq (decide (right < 0)) smallRight
  rw [ofInt, ofInt, isLeft, isRight]
  rfl

/-! ### Texts of integers -/

/-- A natural number of up to 400 digits denotes the nearest decimal. -/
theorem toDecimal_natural (negative : Bool) {value : Nat} (small : value < 10 ^ 400) :
    (⟨value, 0⟩ : Digits).toDecimal negative = ofRatio negative (value * unit) 1 := by
  have ratio : (⟨value, 0⟩ : Digits).ratio = (value * unit, 1) := by
    rw [Digits.ratio, if_pos (Int.le_refl 0), Int.toNat_zero, Nat.pow_eq, Nat.pow_zero,
      Nat.mul_one]
  have length := (length_digitChars_le_iff (by decide)).mpr small
  rw [Digits.toDecimal, Digits.magnitude, ratio]
  dsimp only
  split
  · next none =>
      rw [none, Nat.zero_mul]
      exact (ofRatio_mul negative ⟨limit_pos, Nat.zero_mod _⟩ Nat.one_pos).symm
  · rw [if_neg (by omega), if_neg (by omega)]

theorem ofText?_of_isNumeral {text : String} {negative : Bool} {digits : List Char}
    (sign : Text.takeSign text.toList = (negative, digits))
    (numeral : Text.isNumeral digits = true) :
    ofText? text = some ((⟨Text.readNat digits, 0⟩ : Digits).toDecimal negative) := by
  obtain ⟨nonempty, isDigit⟩ := Text.isNumeral_iff.mp numeral
  have noName : ∀ name : String, 'n' ∈ name.toList →
      String.ofList (digits.map Char.toLower) ≠ name := by
    intro name letter same
    rw [← same, String.toList_ofList] at letter
    obtain ⟨char, member, lower⟩ := List.mem_map.mp letter
    have digit := isDigit char member
    rw [← Text.toLower_of_isDigit digit, lower] at digit
    contradiction
  have taken : digits.takeWhile Char.isDigit = digits := by
    have all := Text.takeWhile_append_of_stops isDigit (Text.stops_nil _)
    rwa [List.append_nil] at all
  have dropped : digits.dropWhile Char.isDigit = [] := List.dropWhile_eq_nil_iff.mpr isDigit
  rw [ofText?, sign]
  simp only [noName "inf" (by decide), noName "infinity" (by decide), noName "nan" (by decide),
    or_self, if_false, Digits.ofChars?, taken, dropped, takeFraction, nonempty, false_and,
    readExponent?, Option.map_some, List.append_nil, List.length_nil]
  rfl

end LiveBinding.Decimal
