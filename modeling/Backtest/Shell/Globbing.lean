import Backtest.FileTree
import Backtest.Shell.Pattern

/-!
# Names of files

A word with signs of patterns stands for the files whose paths match it, in the order of their names. A
name with a point in front must be asked for with a point; a slash must be written.

* `Globbing.paths`, the paths for which a pattern stands.
-/

namespace Backtest.Shell.Globbing

/-- The pieces of a pattern between slashes. -/
def pieces : Marked → List Marked
  | [] => [[]]
  | m :: ms =>
    if m.1 == '/' then [] :: pieces ms
    else match pieces ms with
      | [] => [[m]]
      | p :: ps => (m :: p) :: ps

/-- The path of octets, if they are a text. -/
def pathOf? (o : Octets) : Option Path := o.toString?.map Path.read

/-- The names in the directory of a path as it is written, sorted. -/
def names (files : FileTree) (directory : Octets) : List Octets :=
  match pathOf? directory with
  | none => []
  | some p => match files.locate p with
    | .ok (.directory p) =>
      ((files.namesIn p).map Octets.ofString).mergeSort Octets.precedes
    | _ => []

/-- Whether something stands at a path as it is written. -/
def isThere (files : FileTree) (path : Octets) : Bool :=
  match pathOf? path with
  | none => false
  | some p => match files.find? p with
    | .ok (some (.file _)) => path.getLast? != some '/'
    | .ok (some .directory) => true
    | _ => false

/-- The paths from one on, by the pieces that are left of a pattern. -/
def pathsFrom (files : FileTree) (start : Octets) : List Marked → List Octets
  | [] => [start]
  | piece :: rest =>
    let text := piece.map (·.1)
    let slash : Octets := if rest.isEmpty then [] else ['/']
    if !Pattern.hasSigns piece then
      let path := start ++ text ++ slash
      if text.isEmpty || isThere files (start ++ text) then
        if rest.isEmpty && !isThere files path then [] else pathsFrom files path rest
      else []
    else
      let pattern := Pattern.of false piece
      let hidden := text.head? == some '.'
      let matching := (names files start).filter fun name =>
        (hidden || name.head? != some '.') && pattern.matchesOctets name
      matching.flatMap fun name =>
        if rest.isEmpty then [start ++ name] else pathsFrom files (start ++ name ++ ['/']) rest

/-- The paths for which a pattern stands. -/
def paths (files : FileTree) (m : Marked) : List Octets := pathsFrom files [] (pieces m)

end Backtest.Shell.Globbing
