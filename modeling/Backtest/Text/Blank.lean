/-!
# Blank characters

The white space that separates and surrounds the parts of a line: the twenty-nine characters that
Unicode calls white space or that separate lines, paragraphs, files, groups, records and units.

* `isBlank`, the class; `isNumberBlank`, the smaller class that may surround the text of a number;
* `strip`, a text without the blanks at its two ends;
* `words`, the maximal runs of other characters;
* `splitOn`, the pieces between single separators, empty ones kept.
-/

namespace Backtest.Text

/-- The code points of the blank characters. -/
def blankPoints : List Nat :=
  [0x09, 0x0A, 0x0B, 0x0C, 0x0D, 0x1C, 0x1D, 0x1E, 0x1F, 0x20, 0x85, 0xA0, 0x1680, 0x2000, 0x2001,
    0x2002, 0x2003, 0x2004, 0x2005, 0x2006, 0x2007, 0x2008, 0x2009, 0x200A, 0x2028, 0x2029, 0x202F,
    0x205F, 0x3000]

/-- A blank character. -/
def isBlank (c : Char) : Bool := blankPoints.contains c.toNat

/-- A character that may surround the text of a number: a blank other than the four information
separators. -/
def isNumberBlank (c : Char) : Bool := isBlank c && !(0x1C ≤ c.toNat && c.toNat ≤ 0x1F)

/-- The characters without those in `p` at either end. -/
def stripBy (p : Char → Bool) (cs : List Char) : List Char :=
  ((cs.dropWhile p).reverse.dropWhile p).reverse

/-- The text without the blanks at its two ends. -/
def strip (s : String) : String := String.ofList (stripBy isBlank s.toList)

/-- The maximal runs of characters that are not blank, after the run `acc` (reversed). -/
def wordsFrom (acc : List Char) : List Char → List (List Char)
  | [] => if acc.isEmpty then [] else [acc.reverse]
  | c :: cs =>
    if isBlank c then
      if acc.isEmpty then wordsFrom [] cs else acc.reverse :: wordsFrom [] cs
    else wordsFrom (c :: acc) cs

/-- The words of a text: its maximal runs of characters that are not blank. -/
def words (s : String) : List String := (wordsFrom [] s.toList).map String.ofList

/-- The pieces of a list between the members that satisfy `p`; one more piece than such members. -/
def piecesBy (p : Char → Bool) : List Char → List (List Char)
  | [] => [[]]
  | c :: cs =>
    if p c then [] :: piecesBy p cs
    else match piecesBy p cs with
      | [] => [[c]]
      | w :: ws => (c :: w) :: ws

/-- The pieces of a text between single separators, empty pieces kept. -/
def splitOn (separator : Char) (s : String) : List String :=
  (piecesBy (· == separator) s.toList).map String.ofList

@[simp] theorem piecesBy_nil (p : Char → Bool) : piecesBy p [] = [[]] := rfl

theorem piecesBy_ne_nil (p : Char → Bool) (cs : List Char) : piecesBy p cs ≠ [] := by
  cases cs with
  | nil => simp
  | cons c cs =>
    unfold piecesBy
    split
    · simp
    · split <;> simp

end Backtest.Text
