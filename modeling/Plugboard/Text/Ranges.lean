/-!
# Ranges of code points

A property of characters given by the ranges of the code points that have it.
-/

namespace Plugboard.Text

/-- Whether a number lies in one of the ranges. -/
def inRanges : List (Nat × Nat) → Nat → Bool
  | [], _ => false
  | (first, last) :: ranges, n => (first ≤ n && n ≤ last) || inRanges ranges n

/-- A number lies in the ranges exactly when it lies in one of them. -/
theorem inRanges_iff {ranges : List (Nat × Nat)} {n : Nat} :
    inRanges ranges n = true ↔ ∃ r ∈ ranges, r.1 ≤ n ∧ n ≤ r.2 := by
  induction ranges with
  | nil => simp [inRanges]
  | cons r ranges ih => simp [inRanges, ih]

end Plugboard.Text
