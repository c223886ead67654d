/-!
# Decimals

A decimal is a binary floating-point number of 64 bits. Every finite magnitude is a whole number
of *steps*, the least positive magnitude `2 ^ (-1074)`, so the exact value of a decimal is one
natural number and a sign, and every operation is exact arithmetic on naturals followed by one
rounding. The magnitudes that exist are those on the grid: 53 binary digits and then zeros.
-/

namespace LiveBinding

namespace Decimal

/-- The power of two that is the least positive magnitude, counted downward. -/
def depth : Nat := 1074

/-- The steps that make one. -/
def unit : Nat := Nat.pow 2 depth

/-- The power of two, in steps, that no finite decimal reaches. -/
def height : Nat := 2098

/-- The first magnitude, in steps, above all finite decimals. -/
def limit : Nat := Nat.pow 2 height

/-- The distance between neighbours on the grid at a magnitude. -/
def spacing (steps : Nat) : Nat := Nat.pow 2 (steps.log2 - 52)

/-- Magnitudes that are finite and a multiple of the spacing there. -/
def OnGrid (steps : Nat) : Prop := steps < limit ∧ steps % spacing steps = 0

instance (steps : Nat) : Decidable (OnGrid steps) := by
  unfold OnGrid; infer_instance

theorem unit_pos : 0 < unit := by
  unfold unit
  generalize depth = bits
  exact Nat.two_pow_pos bits

theorem limit_pos : 0 < limit := by
  unfold limit
  generalize height = bits
  exact Nat.two_pow_pos bits

theorem spacing_pos (steps : Nat) : 0 < spacing steps := Nat.two_pow_pos _

/-- The multiple of the spacing nearest to `numerator / denominator` steps; of two equally near
multiples the even one. -/
def roundRatio (numerator denominator : Nat) : Nat :=
  let gap := spacing (numerator / denominator)
  let below := numerator / (denominator * gap)
  let rest := 2 * (numerator % (denominator * gap))
  if rest < denominator * gap ∨ (rest = denominator * gap ∧ below % 2 = 0) then
    below * gap
  else
    (below + 1) * gap

/-- A number of at most 53 binary digits followed by zeros is a multiple of the spacing at it. -/
theorem mul_two_pow_mod_spacing {significand shift : Nat}
    (small : significand ≤ Nat.pow 2 53) :
    significand * Nat.pow 2 shift % spacing (significand * Nat.pow 2 shift) = 0 := by
  simp only [Nat.pow_eq] at small ⊢
  rcases Nat.eq_zero_or_pos significand with rfl | positive
  · simp
  · have nonzero : significand * 2 ^ shift ≠ 0 :=
      Nat.mul_ne_zero (Nat.ne_of_gt positive) (Nat.ne_of_gt (Nat.two_pow_pos shift))
    rcases Nat.lt_or_eq_of_le small with less | rfl
    · have bound : significand * 2 ^ shift < 2 ^ (53 + shift) := by
        rw [Nat.pow_add]
        exact Nat.mul_lt_mul_of_pos_right less (Nat.two_pow_pos shift)
      have log : (significand * 2 ^ shift).log2 < 53 + shift := (Nat.log2_lt nonzero).mpr bound
      have divides : spacing (significand * 2 ^ shift) ∣ 2 ^ shift :=
        Nat.pow_dvd_pow 2 (by omega)
      exact Nat.mod_eq_zero_of_dvd (Nat.dvd_trans divides (Nat.dvd_mul_left _ _))
    · have log : (2 ^ 53 * 2 ^ shift).log2 = 53 + shift := by
        rw [← Nat.pow_add, Nat.log2_two_pow]
      have divides : spacing (2 ^ 53 * 2 ^ shift) ∣ 2 ^ 53 * 2 ^ shift := by
        rw [spacing, log, ← Nat.pow_add]
        exact Nat.pow_dvd_pow 2 (by omega)
      exact Nat.mod_eq_zero_of_dvd divides

/-- Rounding ends on a multiple of the spacing. -/
theorem roundRatio_mod_spacing (numerator denominator : Nat) :
    roundRatio numerator denominator % spacing (roundRatio numerator denominator) = 0 := by
  have below : numerator / (denominator * spacing (numerator / denominator)) < 2 ^ 53 := by
    rw [← Nat.div_div_eq_div_mul]
    rcases Nat.eq_zero_or_pos (numerator / denominator) with zero | positive
    · simp [zero]
    · have upper : numerator / denominator < 2 ^ ((numerator / denominator).log2 + 1) :=
        Nat.lt_log2_self
      refine (Nat.div_lt_iff_lt_mul (spacing_pos _)).mpr (Nat.lt_of_lt_of_le upper ?_)
      rw [spacing, Nat.pow_eq, ← Nat.pow_add]
      exact Nat.pow_le_pow_right (by decide) (by omega)
  unfold roundRatio
  simp only
  split
  · exact mul_two_pow_mod_spacing (Nat.le_of_lt below)
  · exact mul_two_pow_mod_spacing below

end Decimal

/-- Finite decimals, the two infinities, and the one value that is not a number. Zero has a sign.
-/
inductive Decimal where
  | finite (negative : Bool) (steps : Nat) (onGrid : Decimal.OnGrid steps)
  | infinite (negative : Bool)
  | nan
  deriving DecidableEq

namespace Decimal

/-- Zero with a sign. -/
def zero (negative : Bool) : Decimal := .finite negative 0 ⟨limit_pos, Nat.zero_mod _⟩

instance : Inhabited Decimal := ⟨zero false⟩

/-- The decimal nearest to `numerator / denominator` steps, with the sign given. Past the largest
finite magnitude it is infinite. -/
def ofRatio (negative : Bool) (numerator denominator : Nat) : Decimal :=
  if finite : roundRatio numerator denominator < limit then
    .finite negative (roundRatio numerator denominator)
      ⟨finite, roundRatio_mod_spacing numerator denominator⟩
  else
    .infinite negative

/-- The decimal nearest to an integer. -/
def ofInt (value : Int) : Decimal :=
  ofRatio (decide (value < 0)) (value.natAbs * unit) 1

/-- Whether a decimal is neither infinite nor undefined. -/
def isFinite : Decimal → Bool
  | .finite .. => true
  | .infinite _ => false
  | .nan => false

/-- Whether a decimal is finite and has no fractional part. -/
def isIntegral : Decimal → Bool
  | .finite _ steps _ => steps % unit == 0
  | .infinite _ => false
  | .nan => false

/-- A finite value in steps, with its sign. -/
def signedSteps (negative : Bool) (steps : Nat) : Int :=
  if negative then -(steps : Int) else steps

end Decimal

end LiveBinding
