/-
CODE RANGES: sets of characters as lists of inclusive ranges of code points, in increasing order.
-/
namespace Trialbook.Text

/-- whether a code point lies in one of the ranges -/
def inRanges (ranges : List (Nat × Nat)) (n : Nat) : Bool :=
  ranges.any fun r => r.1 ≤ n && n ≤ r.2

end Trialbook.Text
