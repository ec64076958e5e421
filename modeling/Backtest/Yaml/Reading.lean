import Backtest.Text.Newline
import Backtest.Yaml.Node
import Backtest.Yaml.Scalar

/-!
# Reading YAML

The value of a YAML text. Collections are looked into level by level, so that of two faults the one
nearer to the root is told, and on one level the first. A map takes in the entries of the maps that it
merges, behind which its own entries count; of two entries with one key the later stands. It is the reader
of the program's own host; what holds of sessions does not depend on it.

* `Graph.entries?`, the entries of a map with those it merges; `Graph.check`, the first fault;
* `Graph.value`, the value of a node; `Yaml.read`, the value of a text.
-/

namespace Backtest.Yaml

/-- A character that a text may hold. -/
def isAllowed (c : Char) : Bool :=
  let n := c.toNat
  n == 9 || n == 10 || n == 13 || (0x20 ≤ n && n ≤ 0x7E) || n == 0x85 || (0xA0 ≤ n && n != 0xFFFE &&
    n != 0xFFFF)

/-- A node without a value. -/
def malformed {β : Type} : Except Fault β := .error (.yaml .malformed)

namespace Graph

/-- A node by its number. -/
def nodeAt (g : Graph) (i : Nat) : Node := g.nodes.getD i ⟨.unknown, .scalar ""⟩

/-- The kind of a node. -/
def kindOf (g : Graph) (i : Nat) : Kind := (g.nodeAt i).kind

/-- The kind of a key: the sign of a plain value is a text there. -/
def keyKind (g : Graph) (i : Nat) : Kind :=
  if g.kindOf i == .plainValue then .text else g.kindOf i

/-- The text of a node: its own, or that of its plain value. -/
def textFrom? (g : Graph) : Nat → Nat → Option String
  | 0, _ => none
  | fuel + 1, i => match (g.nodeAt i).content with
    | .scalar s => some s
    | .list _ => none
    | .map es => (es.find? fun e => g.kindOf e.1 == .plainValue).bind fun e => g.textFrom? fuel e.2

/-- The text of a node. -/
def text? (g : Graph) (i : Nat) : Option String := g.textFrom? (g.nodes.size + 1) i

/-- The entries of a map, behind those of the maps that it merges; inside those of `path` nothing is
merged again. Of a list of maps the first counts most. -/
def entriesFrom? (g : Graph) : Nat → List Nat → Nat → Option (List (Nat × Nat))
  | 0, _, _ => none
  | fuel + 1, path, i => match (g.nodeAt i).content with
    | .map es => do
      let own := es.filter fun e => g.kindOf e.1 != .merge
      if path.contains i then return own
      else
        let inside := g.entriesFrom? fuel (i :: path)
        let merged ← (es.filter fun e => g.kindOf e.1 == .merge).mapM fun e =>
          match (g.nodeAt e.2).content with
          | .map _ => inside e.2
          | .list items => (items.mapM inside).map fun ess => ess.reverse.flatten
          | .scalar _ => none
        return merged.flatten ++ own
    | _ => none

/-- The entries of a map, behind those of the maps that it merges. -/
def entries? (g : Graph) (i : Nat) : Option (List (Nat × Nat)) :=
  g.entriesFrom? (g.nodes.size + 1) [] i

/-- The value of a scalar of a kind. -/
def scalar (g : Graph) (kind : Kind) (i : Nat) : Except Fault Value :=
  (g.text? i).elim malformed (Scalar.value kind)

/-- The entry of a pair: a map of one entry. -/
def pairOf? (g : Graph) (i : Nat) : Option (Nat × Nat) :=
  match (g.nodeAt i).content with
  | .map [e] => some e
  | _ => none

/-- The kinds whose values are lists, sets and maps. -/
def isCollection (k : Kind) : Bool := k == .list || k == .map || k == .set || k == .pairs

/-- The nodes inside a collection with their kinds, in order; those that are keys of a map and cannot
be come without a kind. -/
def inside (g : Graph) (i : Nat) : Option (List (Nat × Option Kind)) :=
  let plain (j : Nat) : Nat × Option Kind := (j, some (g.kindOf j))
  match g.kindOf i, (g.nodeAt i).content with
  | .list, .list items => some (items.map plain)
  | .pairs, .list items => some (items.flatMap fun j => match g.pairOf? j with
      | some (k, v) => [plain k, plain v]
      | none => [(j, none)])
  | .map, _ | .set, _ => (g.entries? i).map fun es => es.flatMap fun (k, v) =>
      [(k, if isCollection (g.keyKind k) then none else some (g.keyKind k)), plain v]
  | _, _ => none

/-- The faults of the scalars inside collections on one level, and the collections on the next that
have not been seen. -/
def checkLevel (g : Graph) : List Nat → List Nat → List (Nat × Option Kind) →
    Except Fault (List Nat × List Nat)
  | seen, next, [] => .ok (seen, next)
  | _, _, (_, none) :: _ => malformed
  | seen, next, (i, some k) :: rest => do
    if isCollection k then
      if seen.contains i then g.checkLevel seen next rest
      else g.checkLevel (i :: seen) (i :: next) rest
    else
      let _ ← g.scalar k i
      g.checkLevel seen next rest

/-- The faults inside of collections one after the other, and the collections on the next level. -/
def checkEach (g : Graph) : List Nat → List Nat → List Nat → Except Fault (List Nat × List Nat)
  | seen, next, [] => .ok (seen, next)
  | seen, next, i :: is => match g.inside i with
    | none => malformed
    | some parts => do
      let (seen, next) ← g.checkLevel seen next parts
      g.checkEach seen next is

/-- The first fault from a level of collections on; `fuel` bounds the levels. -/
def checkFrom (g : Graph) : Nat → List Nat → List Nat → Except Fault Unit
  | _, _, [] => .ok ()
  | 0, _, _ => malformed
  | fuel + 1, seen, level => do
    let (seen, next) ← g.checkEach seen [] level
    g.checkFrom fuel seen next.reverse

/-- The first fault of a document. -/
def check (g : Graph) (root : Nat) : Except Fault Unit := do
  let (seen, next) ← g.checkLevel [] [] [(root, some (g.kindOf root))]
  g.checkFrom (g.nodes.size + 1) seen next

/-- The brackets around the values of a kind. -/
def bracketsOf (k : Kind) : Brackets := if k == .map || k == .set then .curly else .square

/-- The value of a node of a kind inside those of `path`. -/
def valueFrom (g : Graph) : Nat → List Nat → Kind → Nat → Except Fault Value
  | 0, _, _, _ => malformed
  | fuel + 1, path, kind, i =>
    let go (j : Nat) := g.valueFrom fuel (i :: path) (g.kindOf j) j
    let key (j : Nat) := g.valueFrom fuel (i :: path) (g.keyKind j) j
    if !isCollection kind then g.scalar kind i
    else if path.contains i then .ok (.again (bracketsOf kind))
    else match kind, (g.nodeAt i).content with
      | .list, .list items => (items.mapM go).map .list
      | .pairs, .list items => (items.mapM fun j => do
          let (k, v) ← (g.pairOf? j).elim malformed .ok
          return Value.pair (← go k) (← go v)).map .list
      | .map, _ => do
        let es ← (g.entries? i).elim malformed .ok
        let es ← es.mapM fun (k, v) => do return (← key k, ← go v)
        return .map (es.foldl (fun t (k, v) => Entries.put t k v) [])
      | .set, _ => do
        let es ← (g.entries? i).elim malformed .ok
        let ks ← es.mapM fun (k, _) => key k
        return .set ((ks.foldl (fun t k => Entries.put t k .null) []).map (·.1))
      | _, _ => malformed

/-- The value of a node. The entries of a map that is the root are looked at each for itself. -/
def value (g : Graph) (root : Nat) : Except Fault Value := do
  let of (i : Nat) := g.valueFrom (g.nodes.size + 2) [] (g.kindOf i) i
  match g.kindOf root, g.entries? root with
  | .map, some es =>
    let es ← es.mapM fun (k, v) => do return (← g.scalar (g.keyKind k) k, ← of v)
    return .map (es.foldl (fun t (k, v) => Entries.put t k v) [])
  | _, _ => of root

end Graph

/-- The value of a YAML text; without a document it is nothing. -/
def read (s : String) : Except Fault Value := do
  let cs := Text.plainNewlines s.toList
  if !cs.all isAllowed then malformed
  else
    let g ← Graph.ofText cs
    match g.root with
    | none => return .null
    | some root =>
      g.check root
      g.value root

end Backtest.Yaml
