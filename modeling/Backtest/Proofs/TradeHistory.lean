import Backtest.Proofs.OpenTrades

/-!
# The trades of a pass

Every decision to open makes one trade, which takes the next free number, and trades are closed all
together. So the trades of a pass, the closed ones first, are numbered without gaps in the order in
which they stand. A trade has observed the ticks from the one it was opened at on, none missing and
none twice: an open trade up to the latest tick, a closed one up to the tick it was closed at.

* `openings`, `setups`, what the calls made on a strategy come to; `idsFrom`, numbers without gaps;
* `Trade.Spans`, a closed trade over a stretch of a window;
* `PassState.Orderly`, the invariant; `Orderly.advance`, `Orderly.answer`, `Orderly.settle`, each part
  of a pass keeps it; `Orderly.walk`, so do all its ticks;
* `PassOutcome.Accounted`, what is left of a pass, and `Pass.run_accounted`.
-/

namespace Backtest

variable {α Memory : Type}

/-! ### Calls and numbers -/

/-- Whether a call was answered with a decision to open a trade. -/
def StrategyCall.opens : StrategyCall α → Bool
  | .onTick _ (.ok .openLong) | .onTick _ (.ok .openShort) => true
  | _ => false

/-- The parameters with which a call sets a strategy up. -/
def StrategyCall.setup? : StrategyCall α → Option Parameters
  | .setup parameters => some parameters
  | _ => none

/-- The number of trades that calls have opened. -/
def openings (calls : List (StrategyCall α)) : ℕ := calls.countP (·.opens)

/-- The parameters with which calls have set strategies up, in order. -/
def setups (calls : List (StrategyCall α)) : List Parameters := calls.filterMap (·.setup?)

theorem openings_append (xs ys : List (StrategyCall α)) :
    openings (xs ++ ys) = openings xs + openings ys := List.countP_append

theorem setups_append (xs ys : List (StrategyCall α)) :
    setups (xs ++ ys) = setups xs ++ setups ys := List.filterMap_append

/-- So many numbers, one after the other from a first one on. -/
def idsFrom (first n : ℕ) : List ℤ := (List.range' first n).map Nat.cast

@[simp] theorem idsFrom_zero (first : ℕ) : idsFrom first 0 = [] := rfl

theorem idsFrom_add (first m n : ℕ) :
    idsFrom first (m + n) = idsFrom first m ++ idsFrom (first + m) n := by
  rw [idsFrom, ← List.range'_append_1, List.map_append]
  rfl

theorem idsFrom_succ (first n : ℕ) :
    idsFrom first (n + 1) = idsFrom first n ++ [((first + n : ℕ) : ℤ)] :=
  idsFrom_add first n 1

/-! ### Trades over a window -/

/-- A closed trade that has observed a stretch of a window. The last tick of the stretch is the one
that it was closed at. -/
structure Trade.Spans (window : List (Tick α)) (r : Trade α) : Prop where
  within : r.ticks <:+: window
  closing : r.closing = r.ticks.getLast?

/-- An open trade that has observed what a pass has seen last. -/
structure Trade.Follows (seen : List (Tick α)) (r : Trade α) : Prop where
  isOpen : r.isOpen = true
  within : r.ticks <:+ seen

namespace Trade

variable {seen : List (Tick α)} {r : Trade α}

@[simp] theorem ticks_ne_nil (r : Trade α) : r.ticks ≠ [] := List.cons_ne_nil _ _

theorem Spans.mono {window : List (Tick α)} (h : r.Spans seen) (hw : seen <:+: window) :
    r.Spans window := ⟨h.within.trans hw, h.closing⟩

theorem Follows.observe (h : r.Follows seen) (t : Tick α) : (r.observe t).Follows (seen ++ [t]) where
  isOpen := h.isOpen
  within := by
    rw [ticks_observe]
    exact List.suffix_append_self_iff.mpr h.within

theorem follows_opened (id : ℤ) (d : Direction) (t : Tick α) :
    (opened id d t).Follows (seen ++ [t]) := ⟨rfl, List.suffix_append _ _⟩

/-- An open trade has observed the latest tick. -/
theorem Follows.getLast?_ticks (h : r.Follows seen) : r.ticks.getLast? = seen.getLast? := by
  obtain ⟨before, hseen⟩ := h.within
  rw [← hseen, List.getLast?_append_of_ne_nil _ r.ticks_ne_nil]

/-- A trade that is closed at the latest tick spans what it has observed. -/
theorem Follows.closedAt {t : Tick α} (h : r.Follows seen) (ht : seen.getLast? = some t) :
    (r.closedAt t).Spans seen where
  within := h.within.isInfix
  closing := (h.getLast?_ticks.trans ht).symm

end Trade

/-! ### The invariant -/

namespace PassState

/-- How a pass stands that came from a state without trades by seeing ticks. -/
structure Orderly (p₀ : PassState α Memory) (seen : List (Tick α)) (p : PassState α Memory) :
    Prop where
  id : p.simulation.id = p₀.simulation.id
  sample : p.simulation.sample = p₀.simulation.sample
  nextSimulation : p.ids.nextSimulation = p₀.ids.nextSimulation
  setups : setups p.calls.toList = setups p₀.calls.toList
  nextTrade : p.ids.nextTrade = p₀.ids.nextTrade + openings p.calls.toList
  numbered : (p.simulation.closedTrades ++ p.simulation.openTrades).map (·.id) =
    idsFrom p₀.ids.nextTrade (openings p.calls.toList)
  closed : ∀ r ∈ p.simulation.closedTrades, r.Spans seen
  following : ∀ r ∈ p.simulation.openTrades, r.Follows seen

variable {p₀ p q : PassState α Memory} {seen : List (Tick α)}

theorem Orderly.allOpen (h : p₀.Orderly seen p) : p.simulation.AllOpen :=
  fun r hr => (h.following r hr).isOpen

/-- A tick is observed by every open trade. -/
theorem Orderly.advance [Price α] (h : p₀.Orderly seen p) (t : Tick α) :
    p₀.Orderly (seen ++ [t]) (p.advance t) := by
  obtain ⟨hopen, hclosed⟩ := trades_advance h.allOpen t
  refine ⟨h.id, h.sample, h.nextSimulation, h.setups, h.nextTrade, ?_, ?_, ?_⟩
  · have hids : (p.simulation.openTrades.map (·.observe t)).map (·.id) =
        p.simulation.openTrades.map (·.id) := by
      rw [List.map_map]
      rfl
    rw [hclosed, hopen, List.map_append, hids, ← List.map_append]
    exact h.numbered
  · rw [hclosed]
    exact fun r hr => (h.closed r hr).mono (List.prefix_append _ _).isInfix
  · rw [hopen]
    intro r hr
    obtain ⟨q, hq, rfl⟩ := List.mem_map.mp hr
    exact (h.following q hq).observe t

/-- A call that opens no trade and sets nothing up. -/
theorem Orderly.call (h : p₀.Orderly seen p) {c : StrategyCall α} (hopens : c.opens = false)
    (hsetup : c.setup? = none) (memory : Memory) :
    p₀.Orderly seen { p with memory, calls := p.calls.push c } := by
  have hcount : openings (p.calls.push c).toList = openings p.calls.toList := by
    simp [openings, hopens]
  refine ⟨h.id, h.sample, h.nextSimulation, ?_, ?_, ?_, h.closed, h.following⟩
  · simpa [Backtest.setups, hsetup] using h.setups
  · rw [hcount]
    exact h.nextTrade
  · rw [hcount]
    exact h.numbered

/-- A call that opens a trade, which takes the next number. -/
theorem Orderly.openTrade {t : Tick α} (h : p₀.Orderly (seen ++ [t]) p) {c : StrategyCall α}
    (hopens : c.opens = true) (hsetup : c.setup? = none) (memory : Memory) (d : Direction) :
    let (_, simulation, ids) := p.simulation.openTrade p.ids d t
    p₀.Orderly (seen ++ [t]) { p with memory, calls := p.calls.push c, simulation, ids } := by
  have hcount : openings (p.calls.push c).toList = openings p.calls.toList + 1 := by
    simp [openings, hopens]
  refine ⟨h.id, h.sample, h.nextSimulation, ?_, ?_, ?_, h.closed, ?_⟩
  · simpa [Backtest.setups, hsetup] using h.setups
  · rw [hcount, ← Nat.add_assoc, ← h.nextTrade]
  · rw [hcount, idsFrom_succ, ← h.nextTrade, ← h.numbered, ← List.append_assoc, List.map_append]
    rfl
  · intro r hr
    rcases List.mem_append.mp hr with hr | hr
    · exact h.following r hr
    · obtain rfl := List.mem_singleton.mp hr
      exact Trade.follows_opened _ _ _

/-- All open trades are closed at the latest tick. -/
theorem Orderly.closeAll {t : Tick α} (h : p₀.Orderly seen p) (ht : seen.getLast? = some t) :
    p₀.Orderly seen { p with simulation := (p.simulation.closeAll t).1 } ∧
      (p.simulation.closeAll t).1.openTrades = [] := by
  rw [Simulation.closeAll_of_allOpen h.allOpen]
  refine ⟨⟨h.id, h.sample, h.nextSimulation, h.setups, h.nextTrade, ?_, ?_, by simp⟩, rfl⟩
  · simpa [Function.comp_def, Trade.closedAt] using h.numbered
  · intro r hr
    rcases List.mem_append.mp hr with hr | hr
    · exact h.closed r hr
    · obtain ⟨q, hq, rfl⟩ := List.mem_map.mp hr
      exact (h.following q hq).closedAt ht

/-- The strategy is asked at the latest tick and its decision carried out. -/
theorem Orderly.answer [Price α] {t : Tick α} (h : p₀.Orderly (seen ++ [t]) p)
    (onTick : MarketView α → Memory → Except Fault Decision × Memory) :
    let asked := p.ask onTick t
    match asked.2 with
    | .error _ => p₀.Orderly (seen ++ [t]) asked.1
    | .ok d => p₀.Orderly (seen ++ [t]) (asked.1.carryOut t d).1 := by
  simp only [ask]
  rcases hanswer : onTick (p.simulation.view t) p.memory with ⟨f | d, memory⟩
  · exact h.call rfl rfl memory
  · cases d with
    | noop => exact h.call rfl rfl memory
    | openLong => exact h.openTrade rfl rfl memory .long
    | openShort => exact h.openTrade rfl rfl memory .short
    | closeAll =>
      exact ((h.call (c := .onTick (p.simulation.view t) (.ok .closeAll)) rfl rfl memory).closeAll
        List.getLast?_concat).1

/-- Ticks one after the other, the first of them and some more, up to the last that is processed. -/
theorem Orderly.walk [Price α] {p : PassState α Memory} {seen : List (Tick α)}
    (onTick : MarketView α → Memory → Except Fault Decision × Memory) (t : Tick α)
    (ts : List (Tick α)) (last : Tick α) (h : p₀.Orderly seen p) :
    let walked := Pass.walk onTick (t :: ts) last p
    ∃ passed, passed <+: t :: ts ∧ p₀.Orderly (seen ++ passed) walked.1 ∧
      passed.getLast? = some walked.2.1 := by
  have hadvance := h.advance t
  have hanswer := hadvance.answer onTick
  have hstop (q : PassState α Memory) (hq : p₀.Orderly (seen ++ [t]) q) :
      ∃ passed, passed <+: t :: ts ∧ p₀.Orderly (seen ++ passed) q ∧
        passed.getLast? = some t := ⟨[t], by simp, hq, rfl⟩
  -- behind the first tick the others go on from a state that has seen it
  have hgo (q : PassState α Memory) (hq : p₀.Orderly (seen ++ [t]) q) :
      ∃ passed, passed <+: t :: ts ∧ p₀.Orderly (seen ++ passed) (Pass.walk onTick ts t q).1 ∧
        passed.getLast? = some (Pass.walk onTick ts t q).2.1 := by
    cases ts with
    | nil => exact hstop q hq
    | cons u us =>
      obtain ⟨passed, hprefix, horderly, hlast⟩ := hq.walk onTick u us t
      refine ⟨t :: passed, List.cons_prefix_cons.mpr ⟨rfl, hprefix⟩, by simpa using horderly, ?_⟩
      rw [List.getLast?_cons, hlast]
      rfl
  rw [Pass.walk_cons]
  simp only at hanswer ⊢
  split
  · exact hstop _ hadvance
  · split
    · split <;> rename_i heq <;> rw [heq] at hanswer
      · exact hstop _ hanswer
      · exact hgo _ hanswer
    · exact hgo _ hadvance
termination_by ts.length

end PassState

/-! ### What is left of a pass -/

/-- What is left of a pass on an account without trades, made with ids over a window. Every pass has
taken the numbers of the trades that it opened, and sets its strategy up once if there are ticks. A
pass that has a result has closed its trades, over stretches of the window. -/
structure PassOutcome.Accounted (s : Simulation α) (ids : Ids) (window : List (Tick α))
    (parameters : Parameters) (p : PassOutcome α) : Prop where
  id : p.simulation.id = s.id
  sample : p.simulation.sample = s.sample
  nextSimulation : p.ids.nextSimulation = ids.nextSimulation
  nextTrade : p.ids.nextTrade = ids.nextTrade + openings p.calls.toList
  setups : window ≠ [] → setups p.calls.toList = [parameters]
  numbered : ∀ v, p.result = .ok v →
    p.simulation.closedTrades.map (·.id) = idsFrom ids.nextTrade (openings p.calls.toList)
  closed : ∀ v, p.result = .ok v → ∀ r ∈ p.simulation.closedTrades, r.Spans window

namespace Pass

/-- Settling closes the open trades at the last tick, unless the ticks failed. -/
theorem settle_orderly {p₀ p : PassState α Memory} {seen : List (Tick α)} {last : Tick α}
    (h : p₀.Orderly seen p) (hlast : seen.getLast? = some last) (stop : WalkEnd) :
    let settled := settle p last stop
    p₀.Orderly seen settled.1 ∧
      ∀ breached, settled.2 = .ok breached → settled.1.simulation.openTrades = [] := by
  obtain ⟨hclose, hnone⟩ := h.closeAll hlast
  cases stop with
  | failed f => exact ⟨h, by simp [settle]⟩
  | breached => exact ⟨hclose, fun _ _ => hnone⟩
  | finished => exact ⟨hclose, fun _ _ => hnone⟩

variable [Price α]

omit [Price α] in
/-- A pass begins in order on an account without trades. -/
theorem orderly_begun (strategy : Strategy α) {s : Simulation α} (hopen : s.openTrades = [])
    (hclosed : s.closedTrades = []) (ids : Ids) (parameters : Parameters) (memory : strategy.Memory) :
    let p₀ := begun strategy s ids parameters memory
    p₀.Orderly [] p₀ := by
  refine ⟨rfl, rfl, rfl, rfl, rfl, ?_, ?_, ?_⟩ <;>
    simp [begun, Simulation.activateCharts, hopen, hclosed, openings, StrategyCall.opens]

/-- Every pass on an account without trades is accounted for. -/
theorem run_accounted (strategy : Strategy α) {s : Simulation α} (hopen : s.openTrades = [])
    (hclosed : s.closedTrades = []) (ids : Ids) (ticks : List (Tick α)) (parameters : Parameters) :
    (run strategy s ids ticks parameters).Accounted s ids ticks parameters := by
  cases ticks with
  | nil => exact ⟨rfl, rfl, rfl, rfl, by simp, by simp [run], by simp [run]⟩
  | cons first rest =>
    cases hsetup : strategy.setup parameters strategy.fresh with
    | error f =>
      simp only [run, hsetup]
      exact ⟨rfl, rfl, rfl, rfl, fun _ => rfl, by simp, by simp⟩
    | ok memory =>
      have hbegun := orderly_begun strategy hopen hclosed ids parameters memory
      obtain ⟨passed, hpassed, hwalk, hlast⟩ := hbegun.walk strategy.onTick first rest first
      rw [List.nil_append] at hwalk
      rw [run_of_setup hsetup]
      obtain ⟨h, hnone⟩ := settle_orderly hwalk hlast
        (walk strategy.onTick (first :: rest) first (begun strategy s ids parameters memory)).2.2
      simp only
      generalize settle _ _ _ = settled at h hnone
      -- a result is given only if the trades are settled
      have hsettled (v : Verdict α) (hv : (outcome strategy settled).result = .ok v) :
          settled.1.simulation.openTrades = [] := by
        simp only [outcome] at hv
        split at hv
        · simp at hv
        · split at hv
          · simp at hv
          · rename_i breached hbreached
            exact hnone breached hbreached
      have hcount : openings (settled.1.calls.push .teardown).toList =
          openings settled.1.calls.toList := by
        simp [openings, StrategyCall.opens]
      refine ⟨h.id, h.sample, h.nextSimulation, ?_, fun _ => ?_, fun v hv => ?_, fun v hv r hr => ?_⟩
      · exact h.nextTrade.trans (by rw [outcome, hcount]; rfl)
      · simpa [outcome, setups, StrategyCall.setup?, begun] using h.setups
      · have hnumbered := h.numbered
        rw [hsettled v hv, List.append_nil] at hnumbered
        exact hnumbered.trans (by rw [outcome, hcount]; rfl)
      · exact (h.closed r hr).mono hpassed.isInfix

end Pass

end Backtest
