import Backtest.Proofs.OpenTrades
import Backtest.Search

/-!
# Passes and the books they are entered in

What a pass does and is worth does not depend on the books: on the ids that are free, on the log, and
on the sample for which it is made. With other ids the same trades are made, each with its id moved by
one and the same number. So a search finds the same with any books, and leaves its generator the same.

* `Context`, what a pass takes from outside its market; `Simulation.inContext`, the account with it;
* `PassState.Matches`, two states that differ by a context; `PassState.Matches.advance`,
  `PassState.Matches.ask`, `PassState.Matches.carryOut`, each part of a pass keeps them so;
* `Pass.run_inContext`, `Books.execute_inContext`, two passes that differ by a context;
* `Trial.Impartial`, a trial that does not depend on the books; `Search.run_impartial`.
-/

namespace Backtest

variable {α Memory : Type}

/-- The id of a simulation, the sample for which it is made, and the number by which the ids of its
trades are moved. -/
structure Context where
  id : ℕ
  sample : Sample
  shift : ℤ

/-- The trade with its id moved. -/
def Trade.renumber (d : ℤ) (r : Trade α) : Trade α := { r with id := r.id + d }

/-- The account in another context. -/
def Simulation.inContext (c : Context) (s : Simulation α) : Simulation α :=
  { s with
    id := c.id
    sample := c.sample
    openTrades := s.openTrades.map (·.renumber c.shift)
    closedTrades := s.closedTrades.map (·.renumber c.shift) }

namespace Simulation

variable {s : Simulation α} (c : Context)

theorem AllOpen.inContext (h : s.AllOpen) : (s.inContext c).AllOpen := by
  intro r hr
  obtain ⟨q, hq, rfl⟩ := List.mem_map.mp hr
  exact h q hq

theorem observe_inContext (t : Tick α) :
    (s.inContext c).observe t = (s.observe t).inContext c := by
  simp only [observe, inContext, List.map_map]
  rfl

theorem migrate_inContext : (s.inContext c).migrate = s.migrate.inContext c := by
  simp only [migrate, inContext, List.filter_map, List.map_append]
  rfl

theorem closeAll_inContext (h : s.AllOpen) (t : Tick α) :
    (s.inContext c).closeAll t = ((s.closeAll t).1.inContext c, (s.closeAll t).2) := by
  rw [closeAll_of_allOpen h, closeAll_of_allOpen (h.inContext c)]
  simp only [inContext, List.map_append, List.map_map]
  rfl

theorem openTrade_inContext {ids ids' : Ids} (h : (ids'.nextTrade : ℤ) = ids.nextTrade + c.shift)
    (d : Direction) (t : Tick α) :
    ((s.inContext c).openTrade ids' d t).2.1 = (s.openTrade ids d t).2.1.inContext c := by
  simp only [openTrade, inContext, Ids.trade, List.map_append, Trade.opened, h]
  rfl

variable [Price α]

theorem totalProfit_renumber (d : ℤ) (rs : List (Trade α)) :
    totalProfit (rs.map (·.renumber d)) = totalProfit rs := by
  rw [totalProfit, totalProfit, List.map_map]
  rfl

theorem updateCharts_inContext (t : Tick α) :
    (s.inContext c).updateCharts t = (s.updateCharts t).inContext c := rfl

theorem balance_inContext : (s.inContext c).balance = s.balance := by
  simp only [balance, inContext, totalProfit_renumber]
  rfl

theorem equity_inContext : (s.inContext c).equity = s.equity := by
  simp only [equity, balance_inContext]
  simp only [inContext, totalProfit_renumber]
  rfl

theorem updateDrawdown_inContext :
    (s.inContext c).updateDrawdown = s.updateDrawdown.inContext c := by
  rw [updateDrawdown, equity_inContext]
  rfl

theorem expectancy_inContext : (s.inContext c).expectancy = s.expectancy := by
  simp only [expectancy, profit, balance_inContext]
  simp [inContext]

theorem view_inContext (t : Tick α) : (s.inContext c).view t = s.view t := by
  simp only [view, balance_inContext, equity_inContext]
  simp [inContext]

end Simulation

/-! ### Passes in two contexts -/

/-- Two states of passes that differ by a context. -/
structure PassState.Matches (c : Context) (p q : PassState α Memory) : Prop where
  simulation : q.simulation = p.simulation.inContext c
  ids : (q.ids.nextTrade : ℤ) = p.ids.nextTrade + c.shift
  memory : q.memory = p.memory
  calls : q.calls = p.calls
  processed : q.processed = p.processed

namespace PassState

variable {c : Context} {p q : PassState α Memory}

/-- A decision is carried out alike. -/
theorem Matches.carryOut (h : Matches c p q) (hopen : p.simulation.AllOpen) (t : Tick α)
    (d : Decision) : Matches c (p.carryOut t d).1 (q.carryOut t d).1 := by
  have htrade (d : Direction) : ((q.simulation.openTrade q.ids d t).2.2.nextTrade : ℤ) =
      (p.simulation.openTrade p.ids d t).2.2.nextTrade + c.shift := by
    have := h.ids
    simp only [Simulation.openTrade, Ids.trade]
    omega
  cases d with
  | noop => exact h
  | openLong =>
    refine ⟨?_, htrade .long, h.memory, h.calls, h.processed⟩
    simp only [PassState.carryOut, h.simulation]
    exact Simulation.openTrade_inContext c h.ids .long t
  | openShort =>
    refine ⟨?_, htrade .short, h.memory, h.calls, h.processed⟩
    simp only [PassState.carryOut, h.simulation]
    exact Simulation.openTrade_inContext c h.ids .short t
  | closeAll =>
    refine ⟨?_, h.ids, h.memory, h.calls, h.processed⟩
    simp only [PassState.carryOut, h.simulation, Simulation.closeAll_inContext c hopen]

variable [Price α]

/-- A tick is taken in alike. -/
theorem Matches.advance (h : Matches c p q) (t : Tick α) :
    Matches c (p.advance t) (q.advance t) where
  simulation := by
    simp only [PassState.advance, h.simulation, Simulation.observe_inContext,
      Simulation.updateCharts_inContext, Simulation.migrate_inContext,
      Simulation.updateDrawdown_inContext]
  ids := h.ids
  memory := h.memory
  calls := h.calls
  processed := congrArg (· + 1) h.processed

/-- The strategy is shown the same and answers the same. -/
theorem Matches.ask (h : Matches c p q)
    (onTick : MarketView α → Memory → Except Fault Decision × Memory) (t : Tick α) :
    Matches c (p.ask onTick t).1 (q.ask onTick t).1 ∧ (q.ask onTick t).2 = (p.ask onTick t).2 := by
  have hview : q.simulation.view t = p.simulation.view t := by
    rw [h.simulation, Simulation.view_inContext]
  simp only [PassState.ask, hview, h.memory, h.calls, and_true]
  exact ⟨h.simulation, h.ids, rfl, rfl, h.processed⟩

end PassState

namespace Pass

variable [Price α] {c : Context} {p q : PassState α Memory}

/-- The ticks of a pass are gone through alike, and end alike. -/
theorem walk_matches (h : p.Matches c q)
    (onTick : MarketView α → Memory → Except Fault Decision × Memory) (ts : List (Tick α))
    (last : Tick α) :
    (walk onTick ts last p).1.Matches c (walk onTick ts last q).1 ∧
      (walk onTick ts last q).2 = (walk onTick ts last p).2 := by
  induction ts generalizing last p q with
  | nil => exact ⟨h, rfl⟩
  | cons t ts ih =>
    have hadvance := h.advance t
    have hexceeded : (q.advance t).simulation.exceeded = (p.advance t).simulation.exceeded := by
      rw [hadvance.simulation]
      rfl
    have hcan : (q.advance t).simulation.canTrade = (p.advance t).simulation.canTrade := by
      rw [hadvance.simulation]
      rfl
    rw [walk_cons, walk_cons]
    simp only [hexceeded, hcan]
    split
    · exact ⟨hadvance, rfl⟩
    · split
      · obtain ⟨hasked, hanswer⟩ := hadvance.ask onTick t
        have hopen : ((p.advance t).ask onTick t).1.simulation.AllOpen := p.allOpen_advance t
        rw [hanswer]
        split
        · exact ⟨hasked, rfl⟩
        · exact ih (hasked.carryOut hopen t _) t
      · exact ih hadvance t

omit [Price α] in
theorem settle_matches (h : p.Matches c q) (hopen : p.simulation.AllOpen) (last : Tick α)
    (stop : WalkEnd) :
    (settle p last stop).1.Matches c (settle q last stop).1 ∧
      (settle q last stop).2 = (settle p last stop).2 := by
  cases stop with
  | failed f => exact ⟨h, rfl⟩
  | finished =>
    simp only [settle, h.simulation, Simulation.closeAll_inContext c hopen, and_true]
    exact ⟨rfl, h.ids, h.memory, h.calls, h.processed⟩
  | breached =>
    simp only [settle, h.simulation, Simulation.closeAll_inContext c hopen, and_true]
    exact ⟨rfl, h.ids, h.memory, h.calls, h.processed⟩

theorem verdict_inContext (c : Context) (s : Simulation α) (breached : Bool) :
    verdict (s.inContext c) breached = verdict s breached := by
  rw [verdict, verdict, Simulation.expectancy_inContext]

/-- Two passes over ticks that differ by a context make the same calls, go through as many ticks and
have the same result; the account of one is that of the other in the context. -/
theorem run_inContext (strategy : Strategy α) {s : Simulation α} (hopen : s.AllOpen) {ids ids' : Ids}
    (hids : (ids'.nextTrade : ℤ) = ids.nextTrade + c.shift) {ticks : List (Tick α)}
    (hticks : ticks ≠ []) (parameters : Parameters) :
    let a := run strategy s ids ticks parameters
    let b := run strategy (s.inContext c) ids' ticks parameters
    b.result = a.result ∧ b.calls = a.calls ∧ b.processed = a.processed ∧
      b.simulation = a.simulation.inContext c ∧
      (b.ids.nextTrade : ℤ) = a.ids.nextTrade + c.shift := by
  obtain ⟨first, rest, rfl⟩ := List.exists_cons_of_ne_nil hticks
  cases hsetup : strategy.setup parameters strategy.fresh with
  | error f =>
    simp only [run, hsetup]
    exact ⟨trivial, trivial, trivial, trivial, hids⟩
  | ok memory =>
    have hbegun : (begun strategy s ids parameters memory).Matches c
        (begun strategy (s.inContext c) ids' parameters memory) := ⟨rfl, hids, rfl, rfl, rfl⟩
    obtain ⟨hwalk, hend⟩ := walk_matches hbegun strategy.onTick (first :: rest) first
    have hwalked := allOpen_walk strategy.onTick (first :: rest) first
      (p := begun strategy s ids parameters memory) hopen
    rw [run_of_setup hsetup, run_of_setup hsetup]
    simp only [hend]
    obtain ⟨hsettle, hsettled⟩ := settle_matches hwalk hwalked _ _
    refine ⟨?_, ?_, hsettle.processed, hsettle.simulation, hsettle.ids⟩
    · simp only [outcome, hsettle.memory, hsettled, hsettle.simulation, verdict_inContext]
    · simp only [outcome, hsettle.calls]

end Pass

/-! ### Searches and the books -/

/-- A trial whose score does not depend on the books. -/
def Trial.Impartial (trial : Trial) : Prop :=
  ∀ number candidate books books',
    (trial number candidate books').1 = (trial number candidate books).1

/-- The context of a pass in which it is made for a sample with other books. -/
def Books.context (books books' : Books) (sample : Sample) : Context where
  id := books'.ids.nextSimulation
  sample
  shift := (books'.ids.nextTrade : ℤ) - books.ids.nextTrade

/-- Two passes over ticks with the same strategy, settings, charts and parameters differ by the context of
their books and samples alone. -/
theorem Books.execute_inContext (books books' : Books) (strategy : Strategy Float)
    (settings : Settings Float) (charts : List (Chart Float)) (sample sample' : Sample)
    {ticks : List (Tick Float)} (hticks : ticks ≠ []) (parameters : Parameters) :
    let a := (books.execute strategy settings charts sample ticks parameters).1
    let b := (books'.execute strategy settings charts sample' ticks parameters).1
    b.result = a.result ∧ b.calls = a.calls ∧ b.processed = a.processed ∧
      b.simulation = a.simulation.inContext (books.context books' sample') := by
  have hids : (books'.ids.simulation.2.nextTrade : ℤ) =
      books.ids.simulation.2.nextTrade + (books.context books' sample').shift := by
    simp only [Ids.simulation, context]
    omega
  obtain ⟨hresult, hcalls, hprocessed, hsimulation, -⟩ := Pass.run_inContext strategy
    (Simulation.allOpen_new books.ids.nextSimulation sample settings charts) hids hticks parameters
  exact ⟨hresult, hcalls, hprocessed, hsimulation⟩

theorem Trial.pass_impartial (strategy : Except Fault (Strategy Float)) (settings : Settings Float)
    (charts : List (Chart Float)) {ticks : List (Tick Float)} (hticks : ticks ≠ []) :
    (Trial.pass strategy settings charts ticks).Impartial := by
  intro number candidate books books'
  cases strategy with
  | error f => rfl
  | ok strategy =>
    obtain ⟨hresult, -⟩ := Books.execute_inContext books books' strategy settings charts .inSample
      .inSample hticks candidate.parameters
    simp only [Trial.pass, hresult]

namespace Search

/-- Two places of a search that differ in their books only. -/
structure SameBut (s s' : SearchState) : Prop where
  generator : s'.generator = s.generator
  best : s'.best = s.best

variable (space : SearchSpace) {trial : Trial} {s s' : SearchState}

theorem step_impartial (ht : trial.Impartial) (h : SameBut s s') (number : ℕ) :
    SameBut (step space trial number s).1 (step space trial number s').1 ∧
      (step space trial number s').2 = (step space trial number s).2 := by
  have hscore := ht number (candidate space s.generator).1 (s.books.tell (.trial (number + 1)))
    (s'.books.tell (.trial (number + 1)))
  simp only [step, h.generator, h.best, hscore]
  split
  · exact ⟨⟨rfl, rfl⟩, rfl⟩
  · exact ⟨⟨rfl, rfl⟩, rfl⟩

theorem trials_impartial (ht : trial.Impartial) (h : SameBut s s') (left number : ℕ) :
    SameBut (trials space trial left number s).1 (trials space trial left number s').1 ∧
      (trials space trial left number s').2 = (trials space trial left number s).2 := by
  induction left generalizing number s s' with
  | zero => exact ⟨h, rfl⟩
  | succ left ih =>
    obtain ⟨hstep, hend⟩ := step_impartial space ht h number
    rw [trials, trials]
    generalize step space trial number s = a at hstep hend
    generalize step space trial number s' = b at hstep hend
    obtain ⟨t, done⟩ := a
    obtain ⟨t', done'⟩ := b
    obtain rfl : done' = done := hend
    cases done' with
    | error f => exact ⟨hstep, rfl⟩
    | ok _ => exact ih hstep (number + 1)

/-- A search of impartial trials finds the same with any books and leaves its generator the same. -/
theorem run_impartial (ht : trial.Impartial) (iterations : ℤ) (g : Twister) (books books' : Books) :
    (run space iterations trial g books').1.generator =
        (run space iterations trial g books).1.generator ∧
      (run space iterations trial g books').2 = (run space iterations trial g books).2 := by
  let start (b : Books) : SearchState :=
    { generator := g, books := b, best := .start, candidates := #[] }
  have hstart : SameBut (start books) (start books') := ⟨rfl, rfl⟩
  obtain ⟨htrials, hend⟩ := trials_impartial space ht hstart iterations.toNat 0
  rw [run, run]
  simp only
  generalize trials space trial iterations.toNat 0 (start books) = a at htrials hend
  generalize trials space trial iterations.toNat 0 (start books') = b at htrials hend
  obtain ⟨t, done⟩ := a
  obtain ⟨t', done'⟩ := b
  obtain rfl : done' = done := hend
  cases done' with
  | error f => exact ⟨htrials.generator, rfl⟩
  | ok _ =>
    have hbest : t'.best = t.best := htrials.best
    simp only [hbest]
    cases t.best.result? iterations <;> exact ⟨htrials.generator, rfl⟩

end Search

end Backtest
