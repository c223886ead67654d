import LiveBinding.Proofs.Decimal.Text

/-!
# The range of decimals

A ratio is rounded to a finite decimal exactly if it lies below a threshold, half way between the
largest finite magnitude and the power of two above it.  The digits of a literal denote a finite
decimal exactly if their number lies below that threshold.
-/

namespace LiveBinding.Decimal

/-- The spacing of the largest finite magnitudes. -/
def topSpacing : Nat := Nat.pow 2 (height - 53)

/-- The largest number of 53 binary digits. -/
def topCoefficient : Nat := Nat.pow 2 53 - 1

/-- The least whole number that is rounded to an infinite decimal: half a spacing above the
largest finite one. -/
def leastInfinite : Nat := Nat.pow 2 1024 - Nat.pow 2 970

/-- The least magnitude, in steps, that is rounded to an infinite one. -/
def threshold : Nat := leastInfinite * unit

/-! ### Spacings -/

theorem topSpacing_pos : 0 < topSpacing := by
  unfold topSpacing
  generalize height - 53 = bits
  exact Nat.two_pow_pos bits

theorem topCoefficient_odd : topCoefficient % 2 = 1 := by decide

theorem limit_eq : limit = (topCoefficient + 1) * topSpacing := by
  have coefficient : topCoefficient + 1 = Nat.pow 2 53 := by decide
  have exponents : height = 53 + (height - 53) := by decide
  rw [coefficient]
  unfold limit topSpacing
  generalize height - 53 = bits at exponents ⊢
  rw [exponents]
  exact Nat.pow_add 2 53 bits

theorem threshold_eq : 2 * threshold = 2 * (topCoefficient * topSpacing) + topSpacing := by
  decide +kernel

theorem lt_limit_iff {steps : Nat} (positive : 0 < steps) :
    steps < limit ↔ steps.log2 < height := by
  unfold limit
  generalize height = bits
  exact (Nat.log2_lt (Nat.ne_of_gt positive)).symm

theorem spacing_le_topSpacing {steps : Nat} (small : steps < limit) :
    spacing steps ≤ topSpacing := by
  rcases Nat.eq_zero_or_pos steps with rfl | positive
  · exact topSpacing_pos
  · have digits := (lt_limit_iff positive).mp small
    have exponents : steps.log2 - 52 ≤ height - 53 := by omega
    unfold spacing topSpacing
    generalize height - 53 = bits at exponents ⊢
    exact Nat.pow_le_pow_right Nat.two_pos exponents

/-- The upper half of the finite magnitudes has one spacing. -/
theorem spacing_eq_topSpacing {steps : Nat} (large : limit ≤ 2 * steps) (small : steps < limit) :
    spacing steps = topSpacing := by
  have positive : 0 < steps := by
    have := limit_pos
    omega
  have digits := (lt_limit_iff positive).mp small
  have more : ¬ (2 * steps).log2 < height := by
    rw [← lt_limit_iff (by omega)]
    omega
  rw [Nat.log2_two_mul (Nat.ne_of_gt positive)] at more
  have exponents : steps.log2 - 52 = height - 53 := by omega
  unfold spacing topSpacing
  generalize height - 53 = bits at exponents ⊢
  rw [exponents]

/-- From the first multiple of all larger spacings on, nothing is rounded below it. -/
theorem limit_le_div_mul_spacing {steps : Nat} (large : limit ≤ steps) :
    limit ≤ steps / spacing steps * spacing steps := by
  have positive : 0 < steps := Nat.lt_of_lt_of_le limit_pos large
  have digits : height ≤ steps.log2 := by
    by_contra few
    have := (lt_limit_iff positive).mpr (Nat.lt_of_not_le few)
    omega
  have power : Nat.pow 2 steps.log2 = 2 ^ 52 * spacing steps := by
    have split : steps.log2 = 52 + (steps.log2 - 52) := by
      have : 52 ≤ height := by decide
      omega
    rw [spacing, Nat.pow_eq, Nat.pow_eq, ← Nat.pow_add, ← split]
  have leading : Nat.pow 2 steps.log2 ≤ steps := Nat.log2_self_le (Nat.ne_of_gt positive)
  have quotient : 2 ^ 52 ≤ steps / spacing steps :=
    (Nat.le_div_iff_mul_le (spacing_pos steps)).mpr (power ▸ leading)
  have reached : limit ≤ Nat.pow 2 steps.log2 := by
    unfold limit
    generalize height = bits at digits ⊢
    exact Nat.pow_le_pow_right Nat.two_pos digits
  calc limit ≤ Nat.pow 2 steps.log2 := reached
    _ = 2 ^ 52 * spacing steps := power
    _ ≤ steps / spacing steps * spacing steps := Nat.mul_le_mul_right _ quotient

/-! ### Ratios -/

variable (numerator denominator : Nat)

/-- Rounding goes down or up to the next multiple of the spacing. -/
theorem roundRatio_bounds :
    let whole := numerator / denominator
    whole / spacing whole * spacing whole ≤ roundRatio numerator denominator ∧
      roundRatio numerator denominator ≤ whole + spacing whole := by
  intro whole
  have below := Nat.div_mul_le_self whole (spacing whole)
  rw [roundRatio, ← Nat.div_div_eq_div_mul]
  split
  · exact ⟨Nat.le_refl _, Nat.le_trans below (Nat.le_add_right _ _)⟩
  · rw [Nat.succ_mul]
    exact ⟨Nat.le_add_right _ _, Nat.add_le_add_right below _⟩

variable {numerator denominator : Nat}

/-- Among the largest finite magnitudes, what is rounded up from the last one is out of range. -/
theorem roundRatio_lt_limit_iff_of_top (positive : 0 < denominator)
    (large : limit ≤ 2 * (numerator / denominator)) (small : numerator / denominator < limit) :
    roundRatio numerator denominator < limit ↔ numerator < threshold * denominator := by
  have gapPos := topSpacing_pos
  have odd := topCoefficient_odd
  have twice : 2 * (threshold * denominator) =
      2 * (denominator * topSpacing * topCoefficient) + denominator * topSpacing := by
    rw [← Nat.mul_assoc, threshold_eq, Nat.add_mul, Nat.mul_comm topSpacing denominator,
      Nat.mul_assoc, Nat.mul_assoc, Nat.mul_comm topSpacing, Nat.mul_comm topCoefficient]
  have few : numerator / (denominator * topSpacing) ≤ topCoefficient := by
    rw [limit_eq] at small
    rw [← Nat.div_div_eq_div_mul]
    exact Nat.le_of_lt_add_one ((Nat.div_lt_iff_lt_mul gapPos).mpr small)
  have split := Nat.div_add_mod numerator (denominator * topSpacing)
  have rest := Nat.mod_lt numerator (Nat.mul_pos positive gapPos)
  rw [roundRatio, spacing_eq_topSpacing large small, limit_eq]
  clear large small
  -- The constants get names of their own here and below, so that no tactic computes them.
  generalize denominator * topSpacing = divisor at *
  generalize numerator / divisor = below at *
  generalize numerator % divisor = left at *
  generalize topSpacing = gap at *
  generalize topCoefficient = last at *
  generalize threshold * denominator = bound at *
  -- Only from the last coefficient is there a way out of range; it is odd, so a tie goes up.
  rcases Nat.lt_or_eq_of_le few with fewer | rfl
  · have product : divisor * (below + 1) ≤ divisor * last := Nat.mul_le_mul_left divisor fewer
    rw [Nat.mul_succ] at product
    refine iff_of_true ?_ (by omega)
    split
    · exact Nat.mul_lt_mul_of_pos_right (by omega) gapPos
    · exact Nat.mul_lt_mul_of_pos_right (by omega) gapPos
  · split
    · next down => exact iff_of_true (Nat.mul_lt_mul_of_pos_right (by omega) gapPos) (by omega)
    · next up => exact iff_of_false (Nat.lt_irrefl _) (by omega)

/-- A ratio is rounded to a finite magnitude exactly if it lies below the threshold. -/
theorem roundRatio_lt_limit_iff (positive : 0 < denominator) :
    roundRatio numerator denominator < limit ↔ numerator < threshold * denominator := by
  obtain ⟨lower, upper⟩ := roundRatio_bounds numerator denominator
  have some : topSpacing ≤ topCoefficient * topSpacing :=
    Nat.le_mul_of_pos_left _ (by decide)
  have whole := limit_eq
  have middle := threshold_eq
  rw [Nat.add_mul, Nat.one_mul] at whole
  generalize topCoefficient * topSpacing = product at some whole middle
  rcases Nat.lt_or_ge (numerator / denominator) limit with small | large
  · rcases Nat.lt_or_ge (2 * (numerator / denominator)) limit with lowerHalf | upperHalf
    · rw [← Nat.div_lt_iff_lt_mul positive]
      have gap := spacing_le_topSpacing small
      generalize topSpacing = top at *
      generalize limit = bound at *
      generalize threshold = middle at *
      exact iff_of_true (by omega) (by omega)
    · exact roundRatio_lt_limit_iff_of_top positive upperHalf small
  · have reached := Nat.le_trans (limit_le_div_mul_spacing large) lower
    rw [← Nat.div_lt_iff_lt_mul positive]
    have beyond : threshold ≤ numerator / denominator := by
      generalize topSpacing = top at *
      generalize limit = bound at *
      generalize threshold = middle at *
      omega
    exact iff_of_false (Nat.not_lt_of_le reached) (Nat.not_lt_of_le beyond)

theorem isFinite_ofRatio (negative : Bool) (positive : 0 < denominator) :
    (ofRatio negative numerator denominator).isFinite = true ↔
      numerator < threshold * denominator := by
  rw [← roundRatio_lt_limit_iff positive, ofRatio]
  split
  · next finite => exact iff_of_true rfl finite
  · next infinite => exact iff_of_false Bool.false_ne_true infinite

/-! ### Digits -/

/-- Numbers of more than 400 digits, which are infinite without being rounded, are no exceptions. -/
theorem leastInfinite_bounds : 0 < leastInfinite ∧ leastInfinite ≤ 10 ^ 400 := by
  decide +kernel

theorem Digits.ratio_of_places (coefficient places : Nat) :
    (⟨coefficient, -(places : Int)⟩ : Digits).ratio = (coefficient * unit, 10 ^ places) := by
  cases places with
  | zero => simp [Digits.ratio]
  | succ places =>
      have fractional : ¬0 ≤ -((places + 1 : Nat) : Int) := by omega
      rw [Digits.ratio, if_neg fractional, Int.neg_neg, Int.toNat_natCast, Nat.pow_eq]

/-- Digits with some of them behind a point denote a finite decimal exactly if their number is
below the least one that is rounded to an infinite decimal. -/
theorem Digits.isFinite_toDecimal (coefficient places : Nat) (negative : Bool) :
    ((⟨coefficient, -(places : Int)⟩ : Digits).toDecimal negative).isFinite = true ↔
      coefficient < leastInfinite * 10 ^ places := by
  have somePlaces : 0 < 10 ^ places := Nat.pow_pos (by decide)
  obtain ⟨someInfinite, most⟩ := leastInfinite_bounds
  have length := @length_digitChars_le_iff coefficient
  rw [Digits.toDecimal, Digits.magnitude, Digits.ratio_of_places]
  dsimp only
  split
  · next zero =>
      rw [zero]
      exact iff_of_true rfl (Nat.mul_pos someInfinite somePlaces)
  · split
    · next huge =>
        have digits : ¬(Text.digitChars coefficient).length ≤ 400 + places := by omega
        rw [length (by omega), Nat.not_lt, pow_add] at digits
        exact iff_of_false Bool.false_ne_true
          (Nat.not_lt_of_le (Nat.le_trans (Nat.mul_le_mul_right _ most) digits))
    · split
      · next tiny =>
          have digits : (Text.digitChars coefficient).length ≤ places := by omega
          rw [length (by omega)] at digits
          exact iff_of_true rfl
            (Nat.lt_of_lt_of_le digits (Nat.le_mul_of_pos_left _ someInfinite))
      · have unitPos := unit_pos
        rw [isFinite_ofRatio negative somePlaces, threshold, Nat.mul_right_comm]
        exact Nat.mul_lt_mul_right unitPos

end LiveBinding.Decimal
