/-!
# Paths

A path to a file: the names from the current directory or from a root, without empty names and
without `.`, which mean nothing; `..` stays, for what it means hangs on the directories. Two leading
slashes are a root of their own, three or more are one.

* `Path.read`, `Path.shown`; `join`, `parent`, `name`, `stem`, `suffix`;
* `isAbove`, whether a path leads on to another; `enter`, the path one name further.
-/

namespace Backtest

/-- A path. -/
structure Path where
  /-- The slashes in front: none, one or two. -/
  root : String
  names : List String
  deriving DecidableEq

namespace Path

/-- The pieces of a list of characters between slashes. -/
def pieces : List Char → List (List Char)
  | [] => [[]]
  | c :: cs =>
    if c == '/' then [] :: pieces cs
    else match pieces cs with
      | [] => [[c]]
      | w :: ws => (c :: w) :: ws

/-- The slashes in front of a text. -/
def rootOf : List Char → String
  | '/' :: '/' :: '/' :: _ => "/"
  | '/' :: '/' :: _ => "//"
  | '/' :: _ => "/"
  | _ => ""

/-- The path that a text gives. -/
def read (text : String) : Path :=
  { root := rootOf text.toList
    names := ((pieces text.toList).filter fun w => w != [] && w != ['.']).map String.ofList }

/-- The text of a path; the current directory is a point. -/
def shown (p : Path) : String :=
  if p.root.isEmpty && p.names.isEmpty then "." else p.root ++ String.intercalate "/" p.names

/-- Whether the path starts at a root. -/
def isAbsolute (p : Path) : Bool := !p.root.isEmpty

/-- A path seen from a directory. -/
def join (base p : Path) : Path :=
  if p.isAbsolute then p else { base with names := base.names ++ p.names }

/-- The directory that holds the path; a root and the current directory hold themselves. -/
def parent (p : Path) : Path := { p with names := p.names.dropLast }

/-- Whether a path leads on to another. -/
def isAbove (p q : Path) : Bool :=
  p.root == q.root && p.names.length < q.names.length && p.names.isPrefixOf q.names

/-- Whether a path stands for a root, the current directory, or a directory that holds it. -/
def isBase (p : Path) : Bool := p.names.all (· == "..")

/-- The path one name further, from a path whose names all count: two points lead back to the
directory that holds it; a root holds itself. -/
def enter (p : Path) (name : String) : Path :=
  if name != ".." then { p with names := p.names ++ [name] }
  else if !p.isBase then p.parent
  else if p.isAbsolute then p
  else { p with names := p.names ++ [".."] }

/-- The last name; empty for a root and the current directory. -/
def name (p : Path) : String := p.names.getLastD ""

/-- The last name cut at its last point: what stands before it and, with the point, behind it. A
point at either end of the name does not count. -/
def cutName (p : Path) : List Char × List Char :=
  let cs := p.name.toList
  let tail := (cs.reverse.takeWhile (· != '.')).reverse
  let head := cs.take (cs.length - tail.length - 1)
  if tail.length == cs.length || tail.isEmpty || head.isEmpty then (cs, [])
  else (head, '.' :: tail)

/-- The last name without its suffix. -/
def stem (p : Path) : String := String.ofList p.cutName.1

/-- The last name from its last point on. -/
def suffix (p : Path) : String := String.ofList p.cutName.2

end Path

end Backtest
