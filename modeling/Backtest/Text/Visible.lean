import Backtest.Text.Printable
import Backtest.Text.Ranges

/-!
# Visible characters

The characters that a text may show as they stand: those that are printable, and with them blanks
beyond ASCII, marks of format and characters for private use. Controls, separators of lines and code
points without a character are not visible.
-/

namespace Backtest.Text

/-- The ranges of visible characters that are not printable. -/
def formatRanges : List (Nat × Nat) :=
  [(160, 160), (173, 173), (1536, 1541), (1564, 1564), (1757, 1757), (1807, 1807), (2192, 2193),
    (2274, 2274), (5760, 5760), (6158, 6158), (8192, 8207), (8234, 8239), (8287, 8292),
    (8294, 8303), (12288, 12288), (57344, 63743), (65279, 65279), (65529, 65531), (69821, 69821),
    (69837, 69837), (78896, 78904), (113824, 113827), (119155, 119162), (917505, 917505),
    (917536, 917631), (983040, 1048573), (1048576, 1114109)]

/-- Whether a character is visible. -/
def isVisible (c : Char) : Bool := isPrintable c || inRanges formatRanges c.toNat

end Backtest.Text
