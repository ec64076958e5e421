import Backtest.Shell.Octets
import Backtest.Text.Letter
import Backtest.Text.Visible

/-!
# Classes of characters

The classes that have names between brackets, such as `[:alpha:]`. They hold characters of all scripts,
but digits are those of ASCII alone.

* `CharClass.named?`, the class of a name; `CharClass.changeCase`, the other case of a letter.
-/

namespace Backtest.Shell.CharClass

open Text

/-- A blank beyond the white space of ASCII, at which a line may be broken. -/
def isWideBlank (n : Nat) : Bool :=
  inRanges [(0x1680, 0x1680), (0x2000, 0x2006), (0x2008, 0x200A), (0x205F, 0x205F), (0x3000, 0x3000)] n

/-- A separator of lines or paragraphs. -/
def isSeparator (n : Nat) : Bool := n == 0x2028 || n == 0x2029

/-- A letter or a digit. -/
def isAlphanumeric (c : Char) : Bool := isLetter c || c.isDigit

/-- A visible character that is no blank. -/
def isGraphic (c : Char) : Bool := isVisible c && c != ' ' && !isWideBlank c.toNat

/-- A character of a word: a letter, a digit or an underscore. -/
def isWordChar (c : Char) : Bool := isAlphanumeric c || c == '_'

/-- White space. -/
def isSpaceChar (c : Char) : Bool := isSpace c || isWideBlank c.toNat || isSeparator c.toNat

/-- The classes of patterns and of regular expressions. -/
def classes : List (String × (Char → Bool)) :=
  [("alpha", isLetter), ("digit", Char.isDigit), ("alnum", isAlphanumeric), ("upper", isCapital),
    ("lower", isSmall), ("space", isSpaceChar),
    ("blank", fun c => isWhite c || isWideBlank c.toNat),
    ("punct", fun c => isGraphic c && !isAlphanumeric c),
    ("cntrl", fun c => c.toNat < 32 || (127 ≤ c.toNat && c.toNat < 160) || isSeparator c.toNat),
    ("graph", isGraphic), ("print", isVisible), ("xdigit", fun c => (digitOf? 16 c).isSome)]

/-- The classes that only patterns have. -/
def patternClasses : List (String × (Char → Bool)) :=
  [("word", isWordChar), ("ascii", fun c => c.toNat < 128)]

/-- The class of a name. -/
def named? (name : String) : Option (Char → Bool) := (classes ++ patternClasses).lookup name

/-- A letter as a capital, as a small one, or the other of both. -/
def changeCase (sign : Char) (c : Char) : Char :=
  if sign == '^' then upperChar c
  else if sign == ',' then lowerChar c
  else if lowerChar c != c then lowerChar c else upperChar c

end Backtest.Shell.CharClass
