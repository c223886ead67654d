/-!
# Ranges of code points

A property of characters is written as ranges of code points that include both ends.
-/

namespace LiveBinding.Text

/-- The code points from `first` to `last`, both included. -/
structure Range where
  first : Nat
  last : Nat
  deriving DecidableEq, Repr

/-- Whether a code point lies in the range. -/
def Range.contains (range : Range) (code : Nat) : Bool :=
  range.first ≤ code && code ≤ range.last

@[simp] theorem Range.contains_eq_true {range : Range} {code : Nat} :
    range.contains code = true ↔ range.first ≤ code ∧ code ≤ range.last := by
  simp [Range.contains]

/-- Whether one of the ranges contains the character. -/
def inRanges (ranges : List Range) (char : Char) : Bool :=
  ranges.any (·.contains char.toNat)

end LiveBinding.Text
