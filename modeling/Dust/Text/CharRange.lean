/-!
# Ranges of code points

A property of characters is given by the sorted list of the ranges of code points that have it.
-/

namespace Dust.Text

/-- First and last code point of a range. -/
abbrev CharRange := Nat × Nat

/-- Whether a code point lies in one of the ranges. -/
def inRanges (ranges : List CharRange) (code : Nat) : Bool :=
  ranges.any fun range => range.1 ≤ code && code ≤ range.2

/-- A code point in a list of ranges lies between the ends of one of them. -/
theorem inRanges_eq_true_iff (ranges : List CharRange) (code : Nat) :
    inRanges ranges code = true ↔ ∃ range ∈ ranges, range.1 ≤ code ∧ code ≤ range.2 := by
  simp [inRanges]

end Dust.Text
