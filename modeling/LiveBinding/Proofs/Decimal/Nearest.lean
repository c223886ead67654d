import LiveBinding.Proofs.Decimal.Integers

/-!
# Nearest decimals

The magnitudes of decimals are spread over the line with gaps that only grow.  Rounding takes the
end of a gap that is nearer, and in a gap there is no magnitude, so no decimal is nearer to what was
rounded.  For an integer that is not out of range the decimal of this integer is the nearest one.
-/

namespace LiveBinding.Decimal

/-- The value of a finite decimal, in steps. -/
def steps? : Decimal → Option Int
  | .finite negative steps _ => some (signedSteps negative steps)
  | .infinite _ => none
  | .nan => none

/-- A finite decimal is as near to an integer as any other. -/
def IsNearest (value : Int) (decimal : Decimal) : Prop :=
  ∃ steps, decimal.steps? = some steps ∧ ∀ other otherSteps, steps? other = some otherSteps →
    (steps - value * unit).natAbs ≤ (otherSteps - value * unit).natAbs

theorem IsNearest.isFinite {value : Int} {decimal : Decimal} (nearest : decimal.IsNearest value) :
    decimal.isFinite = true := by
  obtain ⟨steps, found, -⟩ := nearest
  cases decimal with
  | finite => rfl
  | infinite | nan => cases found

/-- Between two neighbouring multiples of the spacing there is no magnitude. -/
theorem le_or_le_of_onGrid {other : Nat} (onGrid : other % spacing other = 0) (steps : Nat) :
    other ≤ steps / spacing steps * spacing steps ∨
      (steps / spacing steps + 1) * spacing steps ≤ other := by
  by_cases digits : steps.log2 ≤ other.log2
  · have divides : spacing steps ∣ other :=
      Nat.dvd_trans (Nat.pow_dvd_pow 2 (Nat.sub_le_sub_right digits 52))
        (Nat.dvd_of_mod_eq_zero onGrid)
    obtain ⟨count, rfl⟩ := divides
    rw [Nat.mul_comm (spacing steps)]
    obtain below | above := Nat.lt_or_ge (steps / spacing steps) count
    · exact .inr (Nat.mul_le_mul_right _ below)
    · exact .inl (Nat.mul_le_mul_right _ above)
  · -- A shorter magnitude lies below the leading power of two, which is a multiple itself.
    have nonzero : steps ≠ 0 := by
      rintro rfl
      exact digits (Nat.zero_le _)
    have shorter : other < 2 ^ steps.log2 :=
      Nat.lt_of_lt_of_le Nat.lt_log2_self (Nat.pow_le_pow_right Nat.two_pos (by omega))
    have multiple : spacing steps ∣ 2 ^ steps.log2 := Nat.pow_dvd_pow 2 (Nat.sub_le _ _)
    have leading : 2 ^ steps.log2 ≤ steps / spacing steps * spacing steps := by
      obtain ⟨count, power⟩ := multiple
      rw [power, Nat.mul_comm]
      refine Nat.mul_le_mul_right _ ((Nat.le_div_iff_mul_le (spacing_pos _)).mpr ?_)
      rw [Nat.mul_comm, ← power]
      exact Nat.log2_self_le nonzero
    exact .inl (Nat.le_trans (Nat.le_of_lt shorter) leading)

/-- No magnitude is nearer to a ratio than what the ratio is rounded to. -/
theorem roundRatio_nearest {numerator denominator other : Nat} (positive : 0 < denominator)
    (onGrid : other % spacing other = 0) :
    ((roundRatio numerator denominator * denominator : Nat) - (numerator : Int)).natAbs ≤
      ((other * denominator : Nat) - (numerator : Int)).natAbs := by
  have neighbours := le_or_le_of_onGrid onGrid (numerator / denominator)
  have split := Nat.div_add_mod numerator
    (denominator * spacing (numerator / denominator))
  have rest := Nat.mod_lt numerator
    (Nat.mul_pos positive (spacing_pos (numerator / denominator)))
  rw [Nat.div_div_eq_div_mul] at neighbours
  rw [roundRatio]
  generalize spacing (numerator / denominator) = gap at *
  generalize numerator / (denominator * gap) = below at *
  have lower : below * gap * denominator = denominator * gap * below := by
    rw [Nat.mul_comm, Nat.mul_comm below, Nat.mul_assoc]
  have upper : (below + 1) * gap * denominator = denominator * gap * below + denominator * gap := by
    rw [Nat.succ_mul, Nat.add_mul, lower, Nat.mul_comm gap]
  have away := neighbours.imp (Nat.mul_le_mul_right denominator) (Nat.mul_le_mul_right denominator)
  rw [lower, upper] at away
  split
  · next down =>
      rw [lower]
      omega
  · next up =>
      rw [upper]
      omega

/-- The decimal of an integer that is not out of range is the nearest one. -/
theorem isNearest_ofInt {value : Int} (small : value.natAbs < leastInfinite) :
    IsNearest value (ofInt value) := by
  obtain ⟨_, rounded⟩ := exists_ofRatio_eq (decide (value < 0)) small
  refine ⟨nearestSteps value, congrArg steps? rounded, fun other otherSteps found => ?_⟩
  cases other with
  | infinite | nan => cases found
  | finite negative steps onGrid =>
      cases found
      have near := @roundRatio_nearest (value.natAbs * unit) 1 _ Nat.one_pos onGrid.2
      -- Zero is nearer than the decimals on its other side.
      have nearZero := @roundRatio_nearest (value.natAbs * unit) 1 0 Nat.one_pos (Nat.zero_mod _)
      rw [← signedSteps_natAbs, nearestSteps]
      generalize value.natAbs * unit = magnitude at *
      simp only [signedSteps, Nat.mul_one] at *
      split <;> split <;> omega

end LiveBinding.Decimal
