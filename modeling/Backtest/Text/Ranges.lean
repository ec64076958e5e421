/-!
# Ranges of characters

A class of characters as ranges of code points.
-/

namespace Backtest.Text

/-- Whether a code point lies in one of some ranges. -/
def inRanges (ranges : List (Nat × Nat)) (n : Nat) : Bool := ranges.any fun r => r.1 ≤ n && n ≤ r.2

end Backtest.Text
