/-!
# Ids

Simulations and trades of one run are numbered from one, each in the order in which they are made.
-/

namespace Backtest

/-- The next ids of a run. -/
structure Ids where
  nextSimulation : Nat
  nextTrade : Nat
  deriving DecidableEq

namespace Ids

/-- The ids at the start of a run. -/
def first : Ids := ⟨1, 1⟩

/-- An id for a simulation. -/
def simulation (ids : Ids) : Nat × Ids :=
  (ids.nextSimulation, { ids with nextSimulation := ids.nextSimulation + 1 })

/-- An id for a trade. -/
def trade (ids : Ids) : Nat × Ids := (ids.nextTrade, { ids with nextTrade := ids.nextTrade + 1 })

end Ids

end Backtest
