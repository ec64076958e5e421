import Backtest.Shell.Octets

/-!
# Commands of the shell

What a text of the shell says, before anything of it is carried out. A word is made of parts: characters
as they stand, characters between quotes, and expansions, which are worked out when the word is used.
Commands are simple ones, made of words, and compound ones, made of commands.

* `Use`, `Parameter`, `Part`; `Word`, a list of parts;
* `Assignment`, a value for a parameter; `Redirection`, where a stream of a command leads;
* `Condition`, what a conditional command asks; `Command`, what is carried out.
-/

namespace Backtest.Shell

/-- Where a pattern is looked for. -/
inductive Anchor
  | first
  | all
  | start
  | finish
  deriving DecidableEq

/-- What is made of the value of a parameter; the words that it takes stand beside it. -/
inductive Use
  | value
  /-- The value of one without braces, whose name is as long as the characters behind it allow. -/
  | bare
  | length
  /-- Another text if there is no value, or if an empty one counts as none; the sign says what to do
  with it. -/
  | instead (sign : Char) (ifEmpty : Bool)
  /-- The value without what matches a pattern at one of its ends. -/
  | trim (fromEnd longest : Bool)
  /-- So many characters from one on; with how their number is written. -/
  | slice (count : Octets)
  /-- The value with another text for what matches a pattern. -/
  | replace (anchor : Anchor)
  /-- Capital or small letters for those that match a pattern. -/
  | inCase (sign : Char) (all : Bool)
  | transform (letter : Char)
  deriving DecidableEq

/-- Whether a use changes letters. -/
def Use.isInCase : Use → Bool
  | .inCase _ _ => true
  | _ => false

/-- Whether a use looks at the parameter more than once. -/
def Use.looksAgain : Use → Bool
  | .trim _ _ | .slice _ | .replace _ | .inCase _ _ => true
  | .transform letter => letter != 'a' && letter != 'A'
  | _ => false

/-- A parameter, and what is made of it with words of a kind. -/
structure Parameter (W : Type) where
  /-- The text in which it stands. -/
  raw : Octets
  /-- How it is written with its index. -/
  shown : Octets
  name : Octets
  /-- Its index, if it is part of an array. -/
  index : Option W
  use : Use
  words : List W

/-- A part of a word. -/
inductive Part
  /-- A character that stands for itself. -/
  | plain (c : Char)
  /-- Characters between single quotes or behind a backslash. -/
  | quoted (text : Octets)
  /-- What stands between double quotes. -/
  | double (parts : List Part)
  /-- A parameter. Behind an exclamation mark its value names another. -/
  | parameter (indirect : Bool) (p : Parameter (List Part))
  /-- The names that begin with some characters. -/
  | names (start : Octets) (sign : Char)
  /-- The indexes of an array. -/
  | indexes (name : Octets) (sign : Char)
  | arithmetic (expression : List Part)
  /-- The output of commands. `kept` tells whether their text is kept as it is written, with its
  lines. -/
  | output (text : Octets) (kept : Bool)
  /-- The path of a stream from which commands are read, or to which they are written. -/
  | process (writes : Bool) (text : Octets)
  /-- Braces behind a dollar sign that mean nothing. -/
  | bad (raw : Octets)

/-- A word. -/
abbrev Word := List Part

instance : Inhabited Part := ⟨.plain ' '⟩

/-- The characters of a word in which each stands for itself. -/
def Word.plain? (w : Word) : Option Octets :=
  w.mapM fun
    | .plain c => some c
    | _ => none

/-- An item of an array as it is written. -/
structure Item where
  /-- Its index, if it has one, and whether the value is added to what is there. -/
  index : Option (Word × Bool)
  value : Word

/-- A value that is given to a parameter. -/
inductive Assigned
  | text (value : Word)
  | array (items : List Item)

/-- A parameter that is given a value, or has it added to its own. -/
structure Assignment where
  name : Octets
  index : Option Word
  adds : Bool
  value : Assigned

/-- How a redirection opens its file or stream. -/
inductive Opening
  | read
  | write
  | append
  | readWrite
  /-- The same stream as another, which is given by its number. -/
  | sameRead
  | sameWrite
  /-- Output and errors, to one file. -/
  | writeBoth
  | appendBoth
  deriving DecidableEq

/-- A stream as a redirection names it. -/
inductive StreamName
  | number (n : Nat)
  /-- A new one that stays open, whose number a parameter takes. -/
  | new (parameter : Octets)

/-- Whether a stream stays open. -/
def StreamName.isNew : StreamName → Bool
  | .number _ => false
  | .new _ => true

/-- A change of where a stream leads. -/
inductive Redirection
  /-- To a file or another stream; `raw` is how its word is written. -/
  | file (stream : Option StreamName) (opening : Opening) (raw : Octets) (word : Word)
  /-- From a text. -/
  | text (stream : Option StreamName) (parts : Word)

/-- The stream that a redirection names. -/
def Redirection.stream : Redirection → Option StreamName
  | .file s _ _ _ | .text s _ => s

/-- What a conditional command asks. -/
inductive Condition
  | unary (sign : Octets) (word : Word)
  | binary (sign : Octets) (left right : Word)
  | negation (c : Condition)
  | both (a b : Condition)
  | either (a b : Condition)

/-- A word of a simple command, which may say that a parameter is given a value. -/
structure Argument where
  word : Word
  assignment : Option Assignment

/-- What follows a clause that was chosen by its pattern. -/
inductive ClauseEnd
  | leave
  /-- The next clause is carried out too. -/
  | fallThrough
  /-- The patterns of the next clauses are tried too. -/
  | tryNext
  deriving DecidableEq

/-- What is carried out. -/
inductive Command
  /-- A simple command, on the line to which its faults belong. -/
  | simple (line : Nat) (assignments : List Assignment) (arguments : List Argument)
      (redirections : List Redirection)
  | redirected (line : Nat) (body : Command) (redirections : List Redirection)
  /-- A name for a command. -/
  | define (line : Nat) (name : Octets) (body : Command)
  /-- Commands one after the other. -/
  | sequence (list : List Command)
  /-- A command of a sequence that begins a line. -/
  | onNewLine (body : Command)
  /-- Commands whose outputs are the inputs of the next. -/
  | pipeline (list : List Command)
  | negation (body : Command)
  /-- A second command, if the first succeeds. -/
  | andThen (first second : Command)
  /-- A second command, if the first fails. -/
  | orElse (first second : Command)
  | background (body : Command)
  | subshell (body : Command)
  | branch (condition success failure : Command)
  /-- A loop as long as a condition succeeds, or until it does. -/
  | loop (untilIt : Bool) (condition body : Command)
  /-- A loop over words, or over the arguments. -/
  | each (line : Nat) (name : Octets) (words : Option (List Word)) (body : Command)
  /-- A loop over the words that are chosen from a menu. -/
  | menu (line : Nat) (name : Octets) (words : Option (List Word)) (body : Command)
  | count (line : Nat) (start condition next : Word) (body : Command)
  /-- The first of some commands with a pattern that matches. -/
  | choice (line : Nat) (word : Word) (patterns : List (List Word × ClauseEnd)) (bodies : List Command)
  | arithmetic (line : Nat) (expression : Word)
  | condition (line : Nat) (c : Condition)

instance : Inhabited Command := ⟨.sequence []⟩

/-- Whether a command is a simple one. -/
def Command.isSimple : Command → Bool
  | .simple _ _ _ _ => true
  | _ => false

end Backtest.Shell
