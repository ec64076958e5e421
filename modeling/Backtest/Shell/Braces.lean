import Backtest.Shell.Number
import Backtest.Shell.Syntax

/-!
# Braces

A word with braces stands for several words. Between braces stand words with commas between them, or
the first and the last of a sequence with two points between them, and how far apart its members are.
Braces that hold neither stand for themselves.

* `Braces.sequence?`, the members of a sequence; `Braces.words`, the words for which one stands.
-/

namespace Backtest.Shell.Braces

/-- Whether a part is a sign. -/
def isSign (s : Char) : Part → Bool
  | .plain c => c == s
  | _ => false

/-- Where the bracket closes that was opened before parts, if there is a comma or two points between;
`divided` tells if there was one before. -/
def closing? (depth : Nat) (divided : Bool) : List Part → Option Nat
  | [] => none
  | p :: ps =>
    if isSign '\x7d' p && depth == 0 && divided then some 0
    else if isSign '\x7b' p then (closing? (depth + 1) divided ps).map (· + 1)
    else if isSign '\x7d' p then (closing? (depth - 1) divided ps).map (· + 1)
    else
      let points := isSign '.' p && ps.head?.any (isSign '.') && !(ps.drop 1).head?.any (isSign '\x7d')
      let divides := depth == 0 && (isSign ',' p || points)
      (closing? depth (divided || divides) ps).map (· + 1)

/-- Parts between the commas that do not stand in other braces. -/
def pieces (depth : Nat) : List Part → List Word
  | [] => [[]]
  | p :: ps =>
    if isSign ',' p && depth == 0 then [] :: pieces 0 ps
    else
      let depth := if isSign '\x7b' p then depth + 1 else if isSign '\x7d' p then depth - 1 else depth
      match pieces depth ps with
      | [] => [[p]]
      | w :: ws => (p :: w) :: ws

/-- The number in front of a text, and the rest. -/
def takeNumber? (o : Octets) : Option (Int × Octets) := do
  let r ← Number.read false o
  let (n, tooLarge) := r.signed
  if tooLarge then none else some (n, r.rest)

/-- A number in so many places. -/
def padded (width : Nat) (n : Int) : Octets :=
  let ds := (toString n.natAbs).toList
  let start := if n < 0 then ['-'] else []
  start ++ List.replicate (width - start.length - ds.length) '0' ++ ds

/-- The numbers from one to another, so far apart. -/
def numbers (first last step : Int) : List Int :=
  let size := if step == 0 then 1 else step.natAbs
  let count := (last - first).natAbs / size + 1
  (List.range count).map fun (k : Nat) =>
    if first ≤ last then first + (k * size : Nat) else first - (k * size : Nat)

/-- Whether the text of a number is filled up with zeros. -/
def isPadded (o : Octets) : Bool :=
  match o with
  | '0' :: _ :: _ | '-' :: '0' :: _ :: _ => true
  | _ => false

/-- A text before two points, and what is behind them. -/
def beforePoints (o : Octets) : Octets × Option Octets :=
  match o with
  | '.' :: '.' :: cs => ([], some cs)
  | c :: cs =>
    let (a, b) := beforePoints cs
    (c :: a, b)
  | [] => ([], none)

/-- The step of a sequence behind its last member: one, if there is none. -/
def step? (o : Octets) : Option Int :=
  match o with
  | [] => some 1
  | '.' :: '.' :: cs => (takeNumber? cs).bind fun (n, rest) => if rest.isEmpty then some n else none
  | _ => none

/-- The members of a sequence, as words. -/
def sequence? (o : Octets) : Option (List Word) := do
  let (first, behind) := beforePoints o
  let behind ← behind
  match first, behind with
  | [a], b :: rest =>
    if a.isAlpha && b.isAlpha then
      let step ← step? rest
      return (numbers a.toNat b.toNat step).map fun n => [member (Char.ofNat n.toNat)]
    else numeric first behind
  | _, _ => numeric first behind
where
  /-- A member of a sequence of letters. Between capital and small ones stands a backslash, which hides
  itself. -/
  member (c : Char) : Part := if c == '\\' then .quoted [] else .plain c
  /-- The members of a sequence of numbers. -/
  numeric (first behind : Octets) : Option (List Word) := do
    let a ← Number.whole? first
    let starts := behind.head?.any Char.isDigit ||
      (behind.head?.any (fun c => c == '+' || c == '-') && (behind.drop 1).head?.any Char.isDigit)
    let (b, rest) ← if starts then takeNumber? behind else none
    let step ← step? rest
    let last := behind.take (behind.length - rest.length)
    let width := if isPadded first || isPadded last then max first.length last.length else 0
    return (numbers a b step).map fun n => (padded width n).map .plain

/-- Where braces open that stand for several words. `before` tells whether something stands in front. -/
def opening? (before : Bool) : List Part → Option Nat
  | [] => none
  | p :: ps =>
    let empty := !before && ps.head?.all (isSign '\x7d')
    if isSign '\x7b' p && !empty && (closing? 0 false ps).isSome then some 0
    else (opening? true ps).map (· + 1)

/-- The words for which a word stands. `fuel` bounds its parts. -/
def wordsFrom : Nat → Word → List Word
  | 0, w => [w]
  | fuel + 1, w =>
    match opening? false w with
    | none => [w]
    | some i =>
      let start := w.take i
      let inside := w.drop (i + 1)
      match closing? 0 false inside with
      | none => [w]
      | some j =>
        let rest := inside.drop (j + 1)
        let inner := inside.take j
        let middle : List Word :=
          if inner.any (isSign ',') then (pieces 0 inner).flatMap (wordsFrom fuel)
          else match (Word.plain? inner).bind sequence? with
            | some ws => ws
            | none => [Part.plain '\x7b' :: inner ++ [.plain '\x7d']]
        let ends := if rest.isEmpty then [[]] else wordsFrom fuel rest
        (middle.map (start ++ ·)).flatMap fun a => ends.map (a ++ ·)

/-- The characters at the start of a word that stand for themselves. -/
def plainStart : Word → Octets
  | .plain c :: ps => c :: plainStart ps
  | _ => []

/-- A word in which the name of each parameter is as long as the characters behind it allow: braces may
have put some there. -/
def withLongNames : Word → Word
  | [] => []
  | q :: ps =>
    let ps := withLongNames ps
    let start : Option Octets := match q with
      | .plain '$' => some []
      | .parameter false p => if p.use == .bare && isName p.name then some p.name else none
      | _ => none
    match start with
    | none => q :: ps
    | some start =>
      let name := bareName (start ++ plainStart ps)
      if name.isEmpty then q :: ps
      else
        let p := { raw := '$' :: name, shown := name, name, index := none, use := .bare, words := [] }
        .parameter false p :: ps.drop (name.length - start.length)

/-- The words for which a word stands. -/
def words (w : Word) : List Word := (wordsFrom (w.length + 1) w).map withLongNames

end Backtest.Shell.Braces
