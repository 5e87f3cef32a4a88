/-!
# Ranges of code points

Character classes are given as lists of ranges, in increasing order and with gaps between them.
-/

namespace PairingSig.Text

/-- The code points from the first to the last, both included. -/
abbrev CodeRange := Nat × Nat

/-- Whether a code point lies in one of the ranges. -/
def inRanges (ranges : List CodeRange) (n : Nat) : Bool :=
  ranges.any fun r => decide (r.1 ≤ n) && decide (n ≤ r.2)

end PairingSig.Text
