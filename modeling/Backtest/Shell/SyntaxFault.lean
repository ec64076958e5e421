import Backtest.Shell.Octets

/-!
# Faults of texts

Why a text is no text of the shell, what is told of it, and the code that it leaves.

* `SyntaxFault`; `SyntaxFault.lines`, what is told, on which lines; `SyntaxFault.code`;
* `SyntaxFault.unclosed?`, what is told of a quote or a bracket that is not closed.
-/

namespace Backtest.Shell

/-- Why a text is no text of the shell. -/
inductive SyntaxFault
  /-- A sign or a word where it may not stand. -/
  | unexpected (line : Nat) (token : Octets)
  | unexpectedEnd (line : Nat)
  /-- A quote or a bracket that is not closed, by its other half. -/
  | unmatched (line : Nat) (mark : Char)
  /-- A command substitution that is not closed. -/
  | unclosed (line : Nat)
  /-- A fault within a command substitution. -/
  | inner (fault : SyntaxFault)
  /-- A fault within the items of an array. -/
  | inArray (fault : SyntaxFault)
  /-- A fault with words of its own. -/
  | told (line : Nat) (texts : List Octets)
  /-- A fault of a condition: what is told of it on which lines, and whether the text ends before a line
  does. -/
  | condition (told : List (Nat × Octets)) (atEnd : Bool)

namespace SyntaxFault

/-- The code that a fault of a text leaves behind a code. What is not closed leaves that, if it tells
of a failure, and so does a condition; a fault of a condition within the text always leaves it. -/
def code (before : Nat) : SyntaxFault → Nat
  | .inner _ => 127
  | .inArray _ => 1
  | .unmatched _ _ => if before == 0 then 2 else before
  | .condition _ atEnd => if atEnd && before == 0 then 2 else before
  | _ => 2

/-- What is told of a bracket or a quote that the end of a text leaves open. -/
def openAtEnd (mark : Char) : Octets :=
  "unexpected EOF while looking for matching \x60".toList ++ [mark, '\'']

/-- What is told of a quote or a bracket that is not closed. -/
def unclosed? : SyntaxFault → Option (Nat × Octets)
  | .unmatched n mark => some (n, openAtEnd mark)
  | .unclosed n => some (n, openAtEnd ')')
  | _ => none

/-- What is told of a fault, on which lines. `source` holds the lines of the text. -/
def lines (source : Nat → Octets) : SyntaxFault → List (Nat × Octets)
  | .unexpected n token =>
    [(n, "syntax error near unexpected token \x60".toList ++ token ++ ['\'']),
      (n, '\x60' :: source n ++ ['\''])]
  | .unexpectedEnd n => [(n, "syntax error: unexpected end of file".toList)]
  | .unmatched n mark => [(n, openAtEnd mark)]
  | .unclosed n => [(n, openAtEnd ')')]
  | .told n texts => texts.map (n, ·)
  | .condition texts _ => texts
  | .inner f | .inArray f => f.lines source

end SyntaxFault

end Backtest.Shell
