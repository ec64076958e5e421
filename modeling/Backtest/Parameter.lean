import Backtest.Fault
import Backtest.Value

/-!
# Parameters

The values that a strategy is set up with, and how they compare. Numbers compare by value, truth values
as zero and one and whole numbers with floats exactly; texts by their characters; lists by their first
items that differ. Any two values are equal or different; an order of other kinds is a fault.

* `Parameters`, the values by name;
* `Comparison`, the six comparisons; `Comparison.holds`, whether two values compare so.
-/

namespace Backtest

open Decimal

/-- The parameters of a pass, by name. -/
abbrev Parameters := Table Value

/-- A comparison of two values. -/
inductive Comparison
  | below
  | atMost
  | above
  | atLeast
  | equal
  | different
  deriving DecidableEq

namespace Comparison

/-- The signs of the comparisons. -/
def signs : Table Comparison :=
  [("<", .below), ("<=", .atMost), (">", .above), (">=", .atLeast), ("==", .equal),
    ("!=", .different)]

/-- The sign of a comparison. -/
def sign : Comparison → String
  | .below => "<"
  | .atMost => "<="
  | .above => ">"
  | .atLeast => ">="
  | .equal => "=="
  | .different => "!="

/-- The comparison of a sign. -/
def ofSign? (sign : String) : Option Comparison := signs.get? sign

/-- Whether a comparison holds of two things of which it is known which is below the other, and
whether they are equal. -/
def ofOrder (c : Comparison) (less greater same : Bool) : Bool :=
  match c with
  | .below => less
  | .atMost => less || same
  | .above => greater
  | .atLeast => greater || same
  | .equal => same
  | .different => !same

mutual

/-- Whether two values stand in the order that a comparison asks for. -/
def ordered (c : Comparison) : Value → Value → Except Fault Bool
  | .list vs, .list ws => orderedItems c vs ws
  | v, w =>
    match v.asNumber, w.asNumber with
    | .whole m, .whole n => .ok (c.ofOrder (m < n) (n < m) (m == n))
    | .real x, .real y => .ok (c.ofOrder (x < y) (y < x) (x == y))
    | .real x, .whole n => .ok (c.ofOrder (lessThanInt x n) (intLessThan n x) (equalsInt x n))
    | .whole m, .real y => .ok (c.ofOrder (intLessThan m y) (lessThanInt y m) (equalsInt y m))
    | .text s, .text t => .ok (c.ofOrder (s < t) (t < s) (s == t))
    | _, _ => .error (.misuse (.incomparable c.sign v.kindWord w.kindWord))

/-- Whether two lists stand in the order that a comparison asks for. -/
def orderedItems (c : Comparison) : List Value → List Value → Except Fault Bool
  | v :: vs, w :: ws => if v.same w then orderedItems c vs ws else ordered c v w
  | vs, ws => .ok (c.ofOrder (vs.length < ws.length) (ws.length < vs.length)
      (vs.length == ws.length))

end

/-- Whether two values compare so. -/
def holds (c : Comparison) (v w : Value) : Except Fault Bool :=
  match c with
  | .equal => .ok (v.same w)
  | .different => .ok (!v.same w)
  | c => c.ordered v w

end Comparison

end Backtest
