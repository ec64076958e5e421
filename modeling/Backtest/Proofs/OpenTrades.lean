import Backtest.Pass
import Mathlib.Data.Int.Notation
import Mathlib.Data.List.Basic

/-!
# Open trades of a pass

A trade that is closed stays among the open ones until it is moved. Every tick of a pass begins by
moving the closed trades away, and a decision only adds open ones or closes all. So closing all trades
never meets one that is closed already.

* `Simulation.AllOpen`, an account whose open trades are open; `PassState.trades_advance`, what a tick
  does there; `PassState.allOpen_advance`,
  `PassState.allOpen_carryOut`, `Pass.allOpen_walk`, each part of a pass leaves such an account;
* `Simulation.closeAll_of_allOpen`, what closing all trades does there;
* `Pass.walk_cons`, one tick of a pass; `Pass.run_of_setup`, a pass from its first tick on;
  `Pass.exists_of_result`, a pass with a result was set up.
-/

namespace Backtest

variable {α Memory : Type}

/-- The trade closed at a tick. -/
def Trade.closedAt (r : Trade α) (t : Tick α) : Trade α := { r with closing := some t }

theorem Trade.close_of_isOpen {r : Trade α} (h : r.isOpen = true) (t : Tick α) :
    r.close t = .ok (r.closedAt t) := by
  rw [isOpen, Option.isNone_iff_eq_none] at h
  rw [close, h]
  rfl

namespace Simulation

variable {s : Simulation α}

/-- Every open trade of the account is open. -/
def AllOpen (s : Simulation α) : Prop := ∀ r ∈ s.openTrades, r.isOpen = true

theorem allOpen_new [Price α] (id : ℕ) (sample : Sample) (settings : Settings α)
    (charts : List (Chart α)) : (new id sample settings charts).AllOpen := by
  simp [AllOpen, new]

theorem closeEach_of_isOpen (t : Tick α) {rs : List (Trade α)} (h : ∀ r ∈ rs, r.isOpen = true) :
    closeEach t rs = (rs.map (·.closedAt t), none) := by
  induction rs with
  | nil => rfl
  | cons r rs ih =>
    rw [closeEach, Trade.close_of_isOpen (h r List.mem_cons_self),
      ih fun q hq => h q (List.mem_cons_of_mem r hq)]
    rfl

/-- Closing all trades of an account whose open trades are open moves them all, in order. -/
theorem closeAll_of_allOpen (h : s.AllOpen) (t : Tick α) :
    s.closeAll t = ({ s with
      openTrades := []
      closedTrades := s.closedTrades ++ s.openTrades.map (·.closedAt t) }, .ok ()) := by
  have hclosed : (s.openTrades.map (·.closedAt t)).filter (·.isClosed) =
      s.openTrades.map (·.closedAt t) := by
    simp [List.filter_eq_self, Trade.closedAt, Trade.isClosed]
  have hopen : (s.openTrades.map (·.closedAt t)).filter (·.isOpen) = [] := by
    simp [Trade.closedAt, Trade.isOpen]
  simp only [closeAll, closeEach_of_isOpen t h, migrate, hclosed, hopen]

theorem allOpen_migrate (s : Simulation α) : s.migrate.AllOpen :=
  fun _ hr => (List.mem_filter.mp hr).2

theorem AllOpen.openTrade (h : s.AllOpen) (ids : Ids) (d : Direction) (t : Tick α) :
    (s.openTrade ids d t).2.1.AllOpen := by
  intro r hr
  rcases List.mem_append.mp hr with hr | hr
  · exact h r hr
  · rw [List.mem_singleton.mp hr]
    rfl

end Simulation

/-! ### The parts of a pass -/

namespace PassState

variable {p : PassState α Memory}

/-- A tick leaves no closed trade among the open ones. -/
theorem allOpen_advance [Price α] (p : PassState α Memory) (t : Tick α) :
    (p.advance t).simulation.AllOpen :=
  Simulation.allOpen_migrate _

/-- A tick on an account whose open trades are open is observed by them all, and moves none. -/
theorem trades_advance [Price α] (h : p.simulation.AllOpen) (t : Tick α) :
    (p.advance t).simulation.openTrades = p.simulation.openTrades.map (·.observe t) ∧
      (p.advance t).simulation.closedTrades = p.simulation.closedTrades := by
  have hopen : ∀ r ∈ p.simulation.openTrades.map (·.observe t), r.isOpen = true := by
    intro r hr
    obtain ⟨q, hq, rfl⟩ := List.mem_map.mp hr
    exact h q hq
  have hnone : (p.simulation.openTrades.map (·.observe t)).filter (·.isClosed) = [] := by
    refine List.filter_eq_nil_iff.mpr fun r hr => ?_
    have hr := hopen r hr
    simp_all [Trade.isOpen, Trade.isClosed]
  exact ⟨List.filter_eq_self.mpr hopen,
    (congrArg (p.simulation.closedTrades ++ ·) hnone).trans (List.append_nil _)⟩

/-- A decision on an account whose open trades are open succeeds and leaves such an account. -/
theorem allOpen_carryOut (h : p.simulation.AllOpen) (t : Tick α) (d : Decision) :
    (p.carryOut t d).2 = .ok () ∧ (p.carryOut t d).1.simulation.AllOpen := by
  cases d with
  | noop => exact ⟨rfl, h⟩
  | openLong => exact ⟨rfl, h.openTrade _ _ _⟩
  | openShort => exact ⟨rfl, h.openTrade _ _ _⟩
  | closeAll =>
    rw [carryOut, Simulation.closeAll_of_allOpen h]
    exact ⟨rfl, by simp [Simulation.AllOpen]⟩

end PassState

namespace Pass

variable [Price α] (onTick : MarketView α → Memory → Except Fault Decision × Memory)

/-- One tick of a pass: only the strategy can fail, since a decision does not. -/
theorem walk_cons (t : Tick α) (ts : List (Tick α)) (last : Tick α) (p : PassState α Memory) :
    walk onTick (t :: ts) last p =
      let q := p.advance t
      let asked := q.ask onTick t
      if q.simulation.exceeded then (q, t, .breached)
      else if q.simulation.canTrade then match asked.2 with
        | .error f => (asked.1, t, .failed f)
        | .ok d => walk onTick ts t (asked.1.carryOut t d).1
      else walk onTick ts t q := by
  have hopen : ((p.advance t).ask onTick t).1.simulation.AllOpen := p.allOpen_advance t
  rw [walk]
  simp only
  split
  · rfl
  · split
    · match hasked : (p.advance t).ask onTick t with
      | (q, .error f) => rfl
      | (q, .ok d) =>
        rw [hasked] at hopen
        obtain ⟨hok, -⟩ := PassState.allOpen_carryOut hopen t d
        match hcarried : q.carryOut t d with
        | (q', .error f) => simp [hcarried] at hok
        | (q', .ok ()) => simp only [hcarried]
    · rfl

/-- The ticks of a pass leave an account whose open trades are open. -/
theorem allOpen_walk (ts : List (Tick α)) (last : Tick α) {p : PassState α Memory}
    (h : p.simulation.AllOpen) : (walk onTick ts last p).1.simulation.AllOpen := by
  induction ts generalizing last p with
  | nil => exact h
  | cons t ts ih =>
    have hadvance := p.allOpen_advance t
    have hasked : ((p.advance t).ask onTick t).1.simulation.AllOpen := hadvance
    rw [walk_cons]
    simp only
    split
    · exact hadvance
    · split
      · split
        · exact hasked
        · exact ih t (PassState.allOpen_carryOut hasked t _).2
      · exact ih t hadvance

/-- What is left of a pass whose trades are settled. -/
def outcome (strategy : Strategy α) (settled : PassState α strategy.Memory × Except Fault Bool) :
    PassOutcome α :=
  { simulation := settled.1.simulation
    ids := settled.1.ids
    calls := settled.1.calls.push .teardown
    processed := settled.1.processed
    result := match strategy.teardown settled.1.memory with
      | .error f => .error f
      | .ok _ => match settled.2 with
        | .error f => .error f
        | .ok breached => verdict settled.1.simulation breached }

/-- The state in which a pass comes to its first tick. -/
def begun (strategy : Strategy α) (s : Simulation α) (ids : Ids) (parameters : Parameters)
    (memory : strategy.Memory) : PassState α strategy.Memory :=
  { simulation := s.activateCharts, ids, memory, calls := #[.setup parameters], processed := 0 }

/-- A pass that was set up goes through its ticks, settles its trades and is torn down. -/
theorem run_of_setup {strategy : Strategy α} {parameters : Parameters} {memory : strategy.Memory}
    (h : strategy.setup parameters strategy.fresh = .ok memory) (s : Simulation α) (ids : Ids)
    (first : Tick α) (rest : List (Tick α)) :
    run strategy s ids (first :: rest) parameters =
      let walked := walk strategy.onTick (first :: rest) first
        (begun strategy s ids parameters memory)
      outcome strategy (settle walked.1 walked.2.1 walked.2.2) := by
  simp only [run, h]
  rfl

/-- A pass that has a result had ticks and was set up. -/
theorem exists_of_result {strategy : Strategy α} {s : Simulation α} {ids : Ids}
    {window : List (Tick α)} {parameters : Parameters} {v : Verdict α}
    (h : (run strategy s ids window parameters).result = .ok v) :
    ∃ first rest memory, window = first :: rest ∧
      strategy.setup parameters strategy.fresh = .ok memory := by
  cases window with
  | nil => simp [run] at h
  | cons first rest =>
    cases hsetup : strategy.setup parameters strategy.fresh with
    | error f => simp [run, hsetup] at h
    | ok memory => exact ⟨first, rest, memory, rfl, rfl⟩

end Pass

end Backtest
