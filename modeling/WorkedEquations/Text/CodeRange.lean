/-
Classes of characters given as runs of code points.
-/

namespace WorkedEquations
namespace Text

/-- A run of code points, both ends included. -/
abbrev CodeRange := Nat × Nat

/-- The character's code point lies in one of the runs. -/
def inRanges (ranges : List CodeRange) (c : Char) : Bool :=
  ranges.any fun r => decide (r.1 ≤ c.toNat) && decide (c.toNat ≤ r.2)

theorem inRanges_eq_true_iff {ranges : List CodeRange} {c : Char} :
    inRanges ranges c = true ↔ ∃ r ∈ ranges, r.1 ≤ c.toNat ∧ c.toNat ≤ r.2 := by
  simp [inRanges]

end Text
end WorkedEquations
