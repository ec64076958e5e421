import Backtest.Decimal.Reading
import Backtest.Moment.Instant
import Backtest.Table

/-!
# Values

What a configuration file or a record can hold: nothing, truth values, numbers, texts, bytes, dates
and instants, and lists, pairs, sets and maps of values.

* `Value.display`, a value as part of a message or of a text; a text stands for itself;
* `Value.shown`, a value as it is quoted in a message; a text stands between quotes;
* `Value.isWritable`, whether all whole numbers in a value can be written; `Value.displayed` and
  `Value.quotedForm`, the two forms of a value, unless a number in it is too long;
* `Value.truthy`, whether a value counts as given: zero, the empty and nothing do not;
* `Value.record`, the map of a table; `Value.toTable`, the entries of a map whose keys are texts;
* `Value.sameKey`, whether two keys of a map are one; `Entries.put`, an entry put into a map;
* `Value.same`, whether two values are equal, part by part; `Value.kindWord`, the word for a kind.
-/

namespace Backtest

open Text Decimal

/-- The brackets of a collection. -/
inductive Brackets
  | square
  | round
  | curly
  deriving DecidableEq

/-- A value of a configuration or of a record. -/
inductive Value
  | null
  | bool (b : Bool)
  | whole (n : Int)
  | real (x : Float)
  | text (s : String)
  | bytes (bs : List UInt8)
  | date (d : Date)
  | instant (i : Instant)
  | list (items : List Value)
  | pair (first second : Value)
  | set (items : List Value)
  | map (entries : List (Value × Value))
  /-- A collection inside itself. -/
  | again (brackets : Brackets)
  deriving Inhabited

/-- Items between brackets. -/
def Brackets.around (b : Brackets) (items : String) : String :=
  match b with
  | .square => "[" ++ items ++ "]"
  | .round => "(" ++ items ++ ")"
  | .curly => "\x7b" ++ items ++ "\x7d"

namespace Value

mutual

/-- The quoted form of a value. -/
def shown : Value → String
  | .null => "None"
  | .bool true => "True"
  | .bool false => "False"
  | .whole n => toString n
  | .real x => floatText x
  | .text s => quoted s
  | .bytes bs => quotedBytes bs
  | .date d => d.shown
  | .instant i => i.shown
  | .list items => Brackets.square.around (String.intercalate ", " (shownItems items))
  | .pair a b => Brackets.round.around (a.shown ++ ", " ++ b.shown)
  | .set [] => "set()"
  | .set items => Brackets.curly.around (String.intercalate ", " (shownItems items))
  | .map entries => Brackets.curly.around (String.intercalate ", " (shownEntries entries))
  | .again b => b.around "..."

/-- The quoted forms of the items of a list. -/
def shownItems : List Value → List String
  | [] => []
  | v :: vs => v.shown :: shownItems vs

/-- The quoted forms of the entries of a map. -/
def shownEntries : List (Value × Value) → List String
  | [] => []
  | (k, v) :: es => (k.shown ++ ": " ++ v.shown) :: shownEntries es

end

/-- The plain form of a value. -/
def display : Value → String
  | .text s => s
  | .date d => d.plain
  | .instant i => i.plain
  | v => v.shown

mutual

/-- Whether every whole number in a value has few enough digits to be written. -/
def isWritable : Value → Bool
  | .whole n => !isTooLong n
  | .list items | .set items => itemsWritable items
  | .pair a b => a.isWritable && b.isWritable
  | .map entries => entriesWritable entries
  | _ => true

/-- Whether every whole number in the items of a list can be written. -/
def itemsWritable : List Value → Bool
  | [] => true
  | v :: vs => v.isWritable && itemsWritable vs

/-- Whether every whole number in the entries of a map can be written. -/
def entriesWritable : List (Value × Value) → Bool
  | [] => true
  | (k, v) :: es => k.isWritable && v.isWritable && entriesWritable es

end

/-- What is made of a value as a text, unless a whole number in it is too long. -/
def written (v : Value) (form : Value → String) : Except Fault String :=
  if v.isWritable then .ok (form v) else .error (.range .tooManyDigits)

/-- The plain form of a value, if it can be written. -/
def displayed (v : Value) : Except Fault String := v.written display

/-- The quoted form of a value, if it can be written. -/
def quotedForm (v : Value) : Except Fault String := v.written shown

/-- Whether a value counts as given. -/
def truthy : Value → Bool
  | .null => false
  | .bool b => b
  | .whole n => n != 0
  | .real x => x != 0.0
  | .text s => !s.isEmpty
  | .bytes bs => !bs.isEmpty
  | .date _ | .instant _ | .pair .. | .again _ => true
  | .list items | .set items => !items.isEmpty
  | .map entries => !entries.isEmpty

/-- A value, unless it is nothing. -/
def given? : Value → Option Value
  | .null => none
  | v => some v

/-- The map of a table. -/
def record (t : Table Value) : Value := .map (t.map fun e => (.text e.1, e.2))

/-- The entries of a map whose keys are texts. -/
def toTable : Value → Table Value
  | .map entries => entries.filterMap fun e =>
      match e.1 with
      | .text s => some (s, e.2)
      | _ => none
  | _ => []

/-- The entry of a map. -/
def entry? (key : String) (v : Value) : Option Value := v.toTable.get? key

/-- A truth value as a number. -/
def asNumber : Value → Value
  | .bool b => .whole b.toInt
  | v => v

/-- Whether two keys of a map are one. Truth values count as numbers, and a whole number is the float
of its value. -/
def sameKey (a b : Value) : Bool :=
  match a.asNumber, b.asNumber with
  | .null, .null => true
  | .whole m, .whole n => m == n
  | .real x, .real y => x == y
  | .real x, .whole n => equalsInt x n
  | .whole m, .real y => equalsInt y m
  | .text s, .text t => s == t
  | .bytes s, .bytes t => s == t
  | .date s, .date t => s == t
  | .instant s, .instant t => s.same t
  | _, _ => false

/-- Whether a value can be a key: no collection can. -/
def canBeKey : Value → Bool
  | .list _ | .set _ | .map _ | .again _ => false
  | _ => true

/-- The word for the kind of a value in messages. -/
def kindWord : Value → String
  | .null => "NoneType"
  | .bool _ => "bool"
  | .whole _ => "int"
  | .real _ => "float"
  | .text _ => "str"
  | .bytes _ => "bytes"
  | .date _ => "datetime.date"
  | .instant _ => "datetime.datetime"
  | .list _ | .again .square => "list"
  | .pair .. | .again .round => "tuple"
  | .set _ => "set"
  | .map _ | .again .curly => "dict"

mutual

/-- Whether two values are equal. Lists are equal item by item; sets and maps, whatever the order of
their entries. -/
def same : Value → Value → Bool
  | .list vs, .list ws => sameItems vs ws
  | .pair a b, .pair c d => a.same c && b.same d
  | .set vs, .set ws => vs.length == ws.length && vs.all fun v => ws.any v.sameKey
  | .map es, .map fs => es.length == fs.length && sameEntries es fs
  | v, w => v.sameKey w

/-- Whether two lists are equal. -/
def sameItems : List Value → List Value → Bool
  | [], [] => true
  | v :: vs, w :: ws => v.same w && sameItems vs ws
  | _, _ => false

/-- Whether all entries of a list are among those of another. -/
def sameEntries : List (Value × Value) → List (Value × Value) → Bool
  | [], _ => true
  | (k, v) :: es, fs => (fs.any fun f => k.sameKey f.1 && v.same f.2) && sameEntries es fs

end

end Value

/-- The entries of a map with one put in: a key that is there keeps its place and its form. -/
def Entries.put : List (Value × Value) → Value → Value → List (Value × Value)
  | [], k, v => [(k, v)]
  | (l, w) :: es, k, v => if l.sameKey k then (l, v) :: es else (l, w) :: Entries.put es k v

end Backtest
