import Backtest.Fault
import Backtest.Path

/-!
# File trees

The files that a run reads and writes, as a value: files with their bytes, and the directories that
were made. A directory exists when it was made, when a file lies below it, or when it is a root, the
current directory or one that holds it. What is written to the null device is gone.

* `FileTree`; `locate`, the place to which a path leads, name by name;
* `find?`, what stands there; `read`, `write`, `append`, `makeDirectory`.
-/

namespace Backtest

/-- The files of a run. -/
structure FileTree where
  /-- The files, by the paths that they come down to, in the order in which they were last written. -/
  files : List (Path × ByteArray)
  /-- The directories that were made. -/
  made : List Path

namespace FileTree

/-- What stands at a path. -/
inductive Entry
  | file (bytes : ByteArray)
  | directory

/-- Where a path leads, with the path that it comes down to. -/
inductive Place
  | file (path : Path) (bytes : ByteArray)
  | directory (path : Path)
  /-- Nothing stands there, in a directory that does. -/
  | vacant (path : Path)

/-- The file that is always empty. -/
def nullDevice : Path := .read "/dev/null"

/-- A tree without files of its own. -/
def empty : FileTree := ⟨[(nullDevice, ⟨#[]⟩)], []⟩

/-- The bytes that a name may have. -/
def longestName : Nat := 255

/-- The bytes that the text of a path may have. -/
def longestPath : Nat := 4095

/-- Whether a path that comes down to itself leads to a directory. -/
def isDirectory (t : FileTree) (p : Path) : Bool :=
  p.isBase || t.made.contains p || t.files.any fun f => p.isAbove f.1

/-- The names in a directory whose path comes down to itself. -/
def namesIn (t : FileTree) (p : Path) : List String :=
  let below := (t.files.map (·.1) ++ t.made).filter p.isAbove
  (below.filterMap fun q => q.names[p.names.length]?).eraseDups

/-- The file at a path that comes down to itself. -/
def fileAt (t : FileTree) (p : Path) : Option ByteArray := (t.files.find? (·.1 == p)).map (·.2)

/-- Where names lead from a directory; every name but the last must lead to a directory. A fault tells
the whole path. -/
def locateFrom (t : FileTree) (whole : String) (here : Path) :
    List String → Except FileFault Place
  | [] => .ok (.directory here)
  | name :: names =>
    let next := here.enter name
    if longestName < name.utf8ByteSize then .error (.nameTooLong whole)
    else match t.fileAt next with
      | some bytes => if names.isEmpty then .ok (.file next bytes) else .error (.notADirectory whole)
      | none =>
        if t.isDirectory next then t.locateFrom whole next names
        else if names.isEmpty then .ok (.vacant next)
        else .error (.notFound whole)

/-- Where a path leads. -/
def locate (t : FileTree) (p : Path) : Except Fault Place :=
  let whole := p.shown
  if whole.toList.contains '\x00' then .error .zeroCharacter
  else if longestPath < whole.utf8ByteSize then .error (.file (.nameTooLong whole))
  else (t.locateFrom whole { p with names := [] } p.names).mapError .file

/-- What stands at a path. A path that leads through a file or a missing directory leads to nothing; so
does one that is none. -/
def find? (t : FileTree) (p : Path) : Except Fault (Option Entry) :=
  match t.locate p with
  | .ok (.file _ bytes) => .ok (some (.file bytes))
  | .ok (.directory _) => .ok (some .directory)
  | .ok (.vacant _) => .ok none
  | .error (.file (.notFound _)) | .error (.file (.notADirectory _)) | .error .zeroCharacter => .ok none
  | .error f => .error f

/-- The bytes of the file at a path. -/
def read (t : FileTree) (p : Path) : Except Fault ByteArray := do
  match ← t.locate p with
  | .file _ bytes => .ok bytes
  | .directory _ => .error (.file (.isDirectory p.shown))
  | .vacant _ => .error (.file (.notFound p.shown))

/-- Files with the bytes of one of them replaced, or with one more file, which is the last. -/
def put (bytes : ByteArray) (p : Path) (files : List (Path × ByteArray)) : List (Path × ByteArray) :=
  files.filter (·.1 != p) ++ [(p, bytes)]

/-- Whether the file at a path was written after the one at another; both come down to themselves. -/
def isAfter (t : FileTree) (p q : Path) : Bool :=
  match t.files.findIdx? (·.1 == p), t.files.findIdx? (·.1 == q) with
  | some i, some j => j < i
  | _, _ => false

/-- The tree with a file whose bytes come of those that it has. -/
def change (t : FileTree) (p : Path) (f : ByteArray → ByteArray) : Except Fault FileTree := do
  let changed (q : Path) (bytes : ByteArray) : FileTree :=
    if q == nullDevice then t else { t with files := put (f bytes) q t.files }
  match ← t.locate p with
  | .file q bytes => .ok (changed q bytes)
  | .directory _ => .error (.file (.isDirectory p.shown))
  | .vacant q => .ok (changed q ⟨#[]⟩)

/-- The tree with a file written. -/
def write (t : FileTree) (p : Path) (bytes : ByteArray) : Except Fault FileTree :=
  t.change p fun _ => bytes

/-- The tree with bytes added to the end of a file. -/
def append (t : FileTree) (p : Path) (bytes : ByteArray) : Except Fault FileTree :=
  t.change p fun old => old ++ bytes

/-- The tree with a directory made in one that is there. -/
def makeLast (t : FileTree) (p : Path) : Except Fault FileTree := do
  match ← t.locate p with
  | .file _ _ => .error (.file (.exists p.shown))
  | .directory _ => .ok t
  | .vacant q => .ok { t with made := q :: t.made }

/-- The tree with a directory made, and up to so many of those that hold it. -/
def makeWithin (t : FileTree) : Nat → Path → Except Fault FileTree
  | 0, p => t.makeLast p
  | depth + 1, p =>
    match t.makeLast p with
    | .error (.file (.notFound _)) => do (← t.makeWithin depth p.parent).makeLast p
    | made => made

/-- The tree with a directory, and those that hold it, made. -/
def makeDirectory (t : FileTree) (p : Path) : Except Fault FileTree := t.makeWithin p.names.length p

end FileTree

end Backtest
