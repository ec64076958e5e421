import Backtest.Shell.Syntax
import Backtest.Shell.SyntaxFault

/-!
# Readers

A reader stands somewhere in a text of the shell. It counts lines, and knows how much of the text behind
the line belongs to documents that were already read.

* `Reader`; `Reading`, an action of a reader that a fault of the text may end;
* `Reading.peek`, `take`, `skipBlanks`; `Reading.slice`, what an action went through;
* `closing`, where a bracket closes.
-/

namespace Backtest.Shell

/-- A place in a text. -/
structure Reader where
  rest : Octets
  line : Nat
  /-- Whether the text ends with a backslash that hides nothing. -/
  endsBare : Bool
  /-- How much behind the end of the line belongs to documents. -/
  behind : Nat
  /-- The documents behind this line that end with the text: their last and first lines, and the words
  that should end them. -/
  pending : List (Nat × Nat × Octets)
  /-- Such documents behind the lines before. -/
  openDocuments : List (Nat × Nat × Octets)

/-- An action of a reader. -/
abbrev Reading (α : Type) := ExceptT SyntaxFault (StateM Reader) α

/-- The reader at the start of a text. A text ends with a line; a backslash at its end stands for
itself. -/
def Reader.ofText (line : Nat) (o : Octets) : Reader :=
  { rest := if o.isEmpty || o.getLast? == some '\n' then o else o ++ ['\n']
    endsBare := (o.reverse.takeWhile (· == '\\')).length % 2 == 1
    line, behind := 0, pending := [], openDocuments := [] }

namespace Reading

/-- What is left of the text. -/
def rest : Reading Octets := return (← get).rest

/-- The line. -/
def line : Reading Nat := return (← get).line

/-- The next character. -/
def peek : Reading (Option Char) := return (← get).rest.head?

/-- One character passed. -/
def take : Reading Unit :=
  modify fun r => match r.rest with
    | '\n' :: cs => { r with rest := cs, line := r.line + 1 }
    | _ :: cs => { r with rest := cs }
    | [] => r

/-- So many characters passed. -/
def pass (n : Nat) : Reading Unit :=
  modify fun r =>
    { r with rest := r.rest.drop n, line := r.line + (r.rest.take n).count '\n' }

/-- A fault. -/
def fail {α : Type} (f : SyntaxFault) : Reading α := throw f

/-- The end of a line passed, and the documents behind it. -/
def passLine : Reading Unit :=
  modify fun r =>
    let passed := r.rest.take (r.behind + 1)
    { r with
      rest := r.rest.drop passed.length
      line := r.line + passed.count '\n'
      behind := 0
      pending := []
      openDocuments := r.openDocuments ++ r.pending }

/-- All that is left of the text passed. -/
def passAll : Reading Unit := do pass (← rest).length

/-- Whether the text goes on in a way. -/
def startsWith (s : String) : Reading Bool := return s.toList.isPrefixOf (← rest)

/-- Blanks passed, and lines that go on, and a comment. `fuel` bounds the text. -/
def skipBlanksFrom : Nat → Reading Unit
  | 0 => return
  | fuel + 1 => do
    let r ← get
    match r.rest with
    | ' ' :: _ | '\t' :: _ => take; skipBlanksFrom fuel
    | '\\' :: '\n' :: cs =>
      if r.endsBare && cs.isEmpty then return
      pass 2
      skipBlanksFrom fuel
    | '#' :: cs => pass (1 + (cs.takeWhile (· != '\n')).length)
    | _ => return

/-- Blanks passed, and lines that go on, and a comment. -/
def skipBlanks : Reading Unit := do skipBlanksFrom ((← rest).length + 1)

/-- What an action went through, with its result. -/
def slice {α : Type} (action : Reading α) : Reading (α × Octets) := do
  let before ← rest
  let a ← action
  let after ← rest
  return (a, before.take (before.length - after.length))

/-- An action tried: if it fails, or gives nothing, the reader stays. -/
def tried {α : Type} (action : Reading (Option α)) : Reading (Option α) := do
  let before ← get
  let result ← tryCatch action fun _ => return none
  if result.isNone then set before
  return result

end Reading

/-- The characters up to a quote, with what a backslash hides, and those behind it. -/
def untilQuote? (quote : Char) : Octets → Option (Octets × Octets)
  | [] => none
  | '\\' :: c :: cs => (untilQuote? quote cs).map fun (a, b) => ('\\' :: c :: a, b)
  | c :: cs => if c == quote then some ([], cs) else (untilQuote? quote cs).map fun (a, b) => (c :: a, b)

/-- What is not closed in a text, and how much of the text is left where it begins. -/
structure Unclosed where
  mark : Char
  left : Nat

/-- How many characters stand before the bracket that closes one, among quotes and brackets inside; or
what is not closed. `left` is how much of the text is left where the bracket opens; `fuel` bounds the
characters. -/
def closingFrom (left : Nat) (opens : String) (closes : Char) :
    Nat → Nat → Octets → Except Unclosed Nat
  | 0, _, _ => .error ⟨closes, left⟩
  | _ + 1, _, [] => .error ⟨closes, left⟩
  | fuel + 1, depth, c :: cs =>
    let skip (n : Nat) (depth : Nat) : Except Unclosed Nat :=
      (closingFrom left opens closes fuel depth (cs.drop n)).map (· + n + 1)
    let inside (opens : String) (closes : Char) (n : Nat) : Except Unclosed Nat := do
      let m ← closingFrom cs.length opens closes fuel 0 (cs.drop n)
      skip (n + m + 1) depth
    if c == '\\' then skip 1 depth
    else if c == '\'' then
      if cs.contains '\'' then skip ((cs.takeWhile (· != '\'')).length + 1) depth else .error ⟨c, cs.length⟩
    else if c == '"' || c == '\x60' then
      match untilQuote? c cs with
      | some (inner, _) => skip (inner.length + 1) depth
      | none => .error ⟨c, cs.length⟩
    else if c == '$' && cs.head? == some '\'' then
      match untilQuote? '\'' cs.tail with
      | some (inner, _) => skip (inner.length + 2) depth
      | none => .error ⟨'\'', cs.length - 1⟩
    else if c == closes then if depth == 0 then .ok 0 else skip 0 (depth - 1)
    else if opens.toList.isPrefixOf (c :: cs) then skip (opens.length - 1) (depth + 1)
    else if c == '$' && cs.head? == some '\x7b' then inside "$\x7b" '\x7d' 1
    else if c == '$' && cs.head? == some '(' then inside "(" ')' 1
    else skip 0 depth

/-- How many characters stand before the bracket that closes one, or what is not closed. -/
def closing (opens : String) (closes : Char) (o : Octets) : Except Unclosed Nat :=
  closingFrom o.length opens closes (o.length + 1) 0 o

/-- The fault of what is not closed in the text that is left. -/
def Reading.failUnclosed {α : Type} (e : Unclosed) : Reading α := do
  let text ← rest
  fail (.unmatched ((← line) + (text.take (text.length - e.left)).count '\n') e.mark)

end Backtest.Shell
