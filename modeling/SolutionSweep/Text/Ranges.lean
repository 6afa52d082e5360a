import SolutionSweep.Text.Basic

/-!
# Ranges of code points

Character classes beyond ASCII are lists of inclusive ranges of code points.
-/

namespace SolutionSweep

/-- Whether a code point lies in one of some inclusive ranges. -/
def inRanges (ranges : List (Nat × Nat)) (n : Nat) : Bool :=
  ranges.any fun r => r.1 ≤ n && n ≤ r.2

end SolutionSweep
