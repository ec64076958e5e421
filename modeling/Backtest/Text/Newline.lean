/-!
# Newlines

Three ways to end a line, a newline, a carriage return, and a carriage return before a newline, are
one when a file is read as text. A text that is cut into lines ends one at further characters.

* `plainNewlines`, the characters with every end of a line as a newline;
* `lines`, the lines of a text.
-/

namespace Backtest.Text

/-- The characters with every end of a line as a newline. -/
def plainNewlines : List Char → List Char
  | [] => []
  | '\r' :: '\n' :: cs => '\n' :: plainNewlines cs
  | c :: cs => (if c == '\r' then '\n' else c) :: plainNewlines cs

/-- No carriage return is left. -/
theorem not_mem_plainNewlines (cs : List Char) : '\r' ∉ plainNewlines cs := by
  fun_induction plainNewlines cs with
  | case1 => simp
  | case2 cs ih => simpa using ih
  | case3 c cs _ ih =>
    simp only [List.mem_cons, not_or]
    refine ⟨?_, ih⟩
    split
    · decide
    · rename_i h
      exact fun e => h (by simp [← e])

/-- The characters that end a line: besides a newline and a carriage return, the tabulator of lines,
the end of a page, the separators of records and the ends of lines and of paragraphs. -/
def endsLine (c : Char) : Bool :=
  let n := c.toNat
  (10 ≤ n && n ≤ 13) || (0x1C ≤ n && n ≤ 0x1E) || n == 0x85 || n == 0x2028 || n == 0x2029

/-- The lines of characters without their ends; `acc` holds those of the first one before, reversed.
What stands behind the last end is a line if there is something. -/
def linesFrom (acc : List Char) : List Char → List (List Char)
  | [] => if acc.isEmpty then [] else [acc.reverse]
  | '\r' :: '\n' :: cs => acc.reverse :: linesFrom [] cs
  | c :: cs => if endsLine c then acc.reverse :: linesFrom [] cs else linesFrom (c :: acc) cs

/-- The lines of a text. -/
def lines (s : String) : List String := (linesFrom [] s.toList).map String.ofList

end Backtest.Text
