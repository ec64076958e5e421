import Backtest.Shell.Number

/-!
# Menus

Texts with numbers in front, from which one is chosen. They stand in columns as wide as the widest of
them, one below the other, as many columns as fit; but if one row holds all, in one column.

* `Menu.text`, how a menu looks; `Menu.chosen?`, the text that a reply chooses.
-/

namespace Backtest.Shell.Menu

/-- How many digits a number has. -/
def digits (n : Nat) : Nat := (toString n).length

/-- How wide a text is. -/
def width (o : Octets) : Nat := (Octets.chars o).length

/-- What stands between two places of a line: tabulators as far as they reach, then spaces. -/
def gap (start last : Nat) : Octets :=
  if _h : start < last then
    if start / 8 < last / 8 then '\t' :: gap (start + (8 - start % 8)) last
    else ' ' :: gap (start + 1) last
  else []
termination_by last - start

/-- A text with its number, which takes so many places. -/
def entry (places n : Nat) (o : Octets) : Octets :=
  List.replicate (places - digits n) ' ' ++ (toString n).toList ++ [')', ' '] ++ o

/-- How many texts stand below one another, if columns of a width have so much room. -/
def rows (room column count : Nat) : Nat :=
  let most := max 1 (room / column)
  let rows := (count + most - 1) / most
  if rows ≤ 1 then count else rows

/-- A row: texts with their numbers, from a place of the line on. -/
def row (column firstPlaces places : Nat) (start : Nat) : List (Nat × Octets) → Octets
  | [] => ['\n']
  | (n, o) :: more =>
    let places' := if start == 0 then firstPlaces else places
    let shown := entry places' n o
    let space := if more.isEmpty then []
      else gap (start + width o + places' + 2) (start + column)
    shown ++ space ++ row column firstPlaces places (start + column) more

/-- How a menu looks in so much room. -/
def text (room : Nat) (items : List Octets) : Octets :=
  let count := items.length
  let places := digits count
  let column := (items.map width).foldl max 0 + places + 4
  let rows := rows room column count
  let numbered := items.mapIdx fun k o => (k + 1, o)
  (List.range rows).flatMap fun r =>
    row column (digits rows) places 0 (numbered.filter fun (n, _) => (n - 1) % rows == r)

/-- The text that a reply chooses by its number. -/
def chosen? (items : List Octets) (reply : Octets) : Option Octets := do
  let n ← Number.whole? reply
  if n < 1 then none else items[n.toNat - 1]?

end Backtest.Shell.Menu
