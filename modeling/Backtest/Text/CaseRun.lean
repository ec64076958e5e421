/-!
# Runs of letters

Most letters have their other case at a fixed distance, and neighbours share it; so a table of cases
holds runs.

* `CaseRun`, a run; `CaseRun.apply`, a character by the runs of a table.
-/

namespace Backtest.Text

/-- A run of characters: the code points from `first` to `last` in strides of `stride` map to the
code point `shift` further on. -/
structure CaseRun where
  first : Nat
  last : Nat
  stride : Nat
  shift : Int

namespace CaseRun

/-- Whether a run holds a code point. -/
def holds (r : CaseRun) (n : Nat) : Bool :=
  r.first ≤ n && n ≤ r.last && (n - r.first) % r.stride == 0

/-- The character to which the first run that holds a character maps it, or the character. -/
def apply (runs : List CaseRun) (c : Char) : Char :=
  match runs.find? (·.holds c.toNat) with
  | some r => Char.ofNat (Int.toNat (c.toNat + r.shift))
  | none => c

end CaseRun

end Backtest.Text
