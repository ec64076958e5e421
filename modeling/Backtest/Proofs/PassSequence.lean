import Backtest.Books
import Backtest.Proofs.TradeHistory

/-!
# Passes one after the other

Passes that share their books take simulation ids in order and number their trades one pass behind the
other. The rows of a trade log are those of the passes that had a result, in order.

* `Assignment`, what a pass is made with; `Books.perform`, `Books.outcomes`, `Books.afterAll`, what
  passes leave that are made one after the other;
* `Books.entries`, the books without their notices, which no pass reads;
* `Books.perform_accounted`, `Books.afterAll_nextSimulation`, `Books.afterAll_calls`,
  `Books.afterAll_tradeLog`, what the books hold then;
* `Books.tradeIds_outcomes`, the numbers of the trades in the log; `Books.exists_of_mem_tradeRows`,
  the pass that wrote a row.
-/

namespace Backtest

/-- What a pass is made with. -/
structure Assignment where
  strategy : Strategy Float
  settings : Settings Float
  charts : List (Chart Float)
  sample : Sample
  ticks : List (Tick Float)
  parameters : Parameters

/-- Whether a pass came to a result: a score or a breach. -/
def PassOutcome.Completed (p : PassOutcome Float) : Prop := ∃ v, p.result = .ok v

/-- The rows that a pass writes into the table of trades; none if it failed. -/
def PassOutcome.tradeRows (p : PassOutcome Float) : List (TradeRow Float) :=
  match p.result with
  | .ok _ => TradeLog.tradeRows p.simulation
  | .error _ => []

/-- The rows that a pass writes into the table of ticks; none if it failed. -/
def PassOutcome.tickRows (p : PassOutcome Float) : List (TickRow Float) :=
  match p.result with
  | .ok _ => TradeLog.tickRows p.simulation
  | .error _ => []

/-- The rows of the ticks that a trade observed. -/
def TradeRow.block (row : TradeRow Float) : List (TickRow Float) :=
  row.trade.ticks.map fun t => ⟨row.simulation, row.trade.id, t⟩

namespace PassOutcome

variable {p : PassOutcome Float} {s : Simulation Float} {ids : Ids} {window : List (Tick Float)}
  {parameters : Parameters} {row : TradeRow Float}

theorem tickRows_eq (p : PassOutcome Float) : p.tickRows = p.tradeRows.flatMap (·.block) := by
  unfold tickRows tradeRows
  cases p.result with
  | error f => rfl
  | ok v => simp [TradeLog.tickRows, TradeLog.tradeRows, TradeRow.block, List.flatMap_map]

/-- A row tells of the pass that wrote it, and of a trade over a stretch of its window. -/
theorem Accounted.of_mem_tradeRows (h : p.Accounted s ids window parameters)
    (hrow : row ∈ p.tradeRows) :
    row.simulation = s.id ∧ row.sample = s.sample ∧ row.trade.Spans window := by
  unfold tradeRows at hrow
  split at hrow
  · rename_i v hv
    obtain ⟨r, hr, rfl⟩ := List.mem_map.mp hrow
    exact ⟨h.id, h.sample, h.closed v hv r hr⟩
  · simp at hrow

/-- The trades in the rows of a pass are numbered in order; without gaps if it had a result. -/
theorem Accounted.tradeIds (h : p.Accounted s ids window parameters) :
    (p.tradeRows.map (·.trade.id)).Sublist (idsFrom ids.nextTrade (openings p.calls.toList)) ∧
      (p.Completed →
        p.tradeRows.map (·.trade.id) = idsFrom ids.nextTrade (openings p.calls.toList)) := by
  unfold tradeRows
  split
  · rename_i v hv
    have heq : (TradeLog.tradeRows p.simulation).map (·.trade.id) =
        idsFrom ids.nextTrade (openings p.calls.toList) := by
      rw [← h.numbered v hv, TradeLog.tradeRows, List.map_map]
      rfl
    rw [heq]
    exact ⟨List.Sublist.refl _, fun _ => rfl⟩
  · rename_i f hf
    refine ⟨List.nil_sublist _, fun ⟨v, hv⟩ => ?_⟩
    simp [hf] at hv

end PassOutcome

/-- The log with the rows of passes. -/
def TradeLog.logAll (l : TradeLog Float) (ps : List (PassOutcome Float)) : TradeLog Float where
  trades := l.trades ++ ps.flatMap (·.tradeRows)
  ticks := l.ticks ++ ps.flatMap (·.tickRows)

/-- The calls that passes made, in order. -/
def callsOf (ps : List (PassOutcome Float)) : List (StrategyCall Float) :=
  ps.flatMap (·.calls.toList)

namespace Books

/-- Make a pass with the books. -/
def perform (b : Books) (a : Assignment) : PassOutcome Float × Books :=
  b.execute a.strategy a.settings a.charts a.sample a.ticks a.parameters

/-- What is left of passes that are made one after the other. -/
def outcomes (b : Books) : List Assignment → List (PassOutcome Float)
  | [] => []
  | a :: as => (b.perform a).1 :: outcomes (b.perform a).2 as

/-- The books after passes that are made one after the other. -/
def afterAll (b : Books) (as : List Assignment) : Books := as.foldl (fun b a => (b.perform a).2) b

variable {b b' : Books} (a : Assignment) (as bs : List Assignment)

@[simp] theorem afterAll_nil (b : Books) : b.afterAll [] = b := rfl

@[simp] theorem afterAll_cons (b : Books) : b.afterAll (a :: as) = (b.perform a).2.afterAll as := rfl

theorem afterAll_append (b : Books) : b.afterAll (as ++ bs) = (b.afterAll as).afterAll bs :=
  List.foldl_append

@[simp] theorem outcomes_nil (b : Books) : b.outcomes [] = [] := rfl

@[simp] theorem outcomes_cons (b : Books) :
    b.outcomes (a :: as) = (b.perform a).1 :: (b.perform a).2.outcomes as := rfl

/-! ### What a pass leaves in the books -/

theorem perform_ids (b : Books) : (b.perform a).2.ids = (b.perform a).1.ids := by
  simp only [perform, execute, enter]
  split <;> rfl

theorem perform_calls (b : Books) :
    (b.perform a).2.calls.toList = b.calls.toList ++ (b.perform a).1.calls.toList := by
  simp only [perform, execute, enter]
  split <;> simp

theorem perform_tradeLog (b : Books) :
    (b.perform a).2.tradeLog = b.tradeLog.map (·.logAll [(b.perform a).1]) := by
  simp only [perform, execute, enter]
  split <;> rename_i hresult <;> 
    simp [TradeLog.logAll, PassOutcome.tradeRows, PassOutcome.tickRows, hresult, TradeLog.record,
      TradeLog.logTrades, TradeLog.logTicks]

/-- Every pass made with books is accounted for. -/
theorem perform_accounted (b : Books) :
    (b.perform a).1.Accounted
      (Simulation.new b.ids.nextSimulation a.sample a.settings a.charts)
      { b.ids with nextSimulation := b.ids.nextSimulation + 1 } a.ticks a.parameters :=
  Pass.run_accounted a.strategy rfl rfl _ _ _

/-! ### Notices aside -/

/-- The books without their notices. -/
def entries (b : Books) : Ids × Option (TradeLog Float) × Array (StrategyCall Float) :=
  (b.ids, b.tradeLog, b.calls)

@[simp] theorem entries_tell (b : Books) (n : Notice) : (b.tell n).entries = b.entries := rfl

/-- A pass does not depend on the notices. -/
theorem perform_congr (h : b'.entries = b.entries) :
    (b'.perform a).1 = (b.perform a).1 ∧ (b'.perform a).2.entries = (b.perform a).2.entries := by
  simp only [entries, Prod.mk.injEq] at h
  obtain ⟨hids, hlog, hcalls⟩ := h
  have hfst : (b'.perform a).1 = (b.perform a).1 := by simp only [perform, execute, hids]
  refine ⟨hfst, ?_⟩
  simp only [entries, Prod.mk.injEq]
  refine ⟨?_, ?_, ?_⟩
  · rw [perform_ids, perform_ids, hfst]
  · rw [perform_tradeLog, perform_tradeLog, hlog, hfst]
  · rw [← Array.toList_inj, perform_calls, perform_calls, hcalls, hfst]

theorem afterAll_congr (h : b'.entries = b.entries) :
    b'.outcomes as = b.outcomes as ∧ (b'.afterAll as).entries = (b.afterAll as).entries := by
  induction as generalizing b b' with
  | nil => exact ⟨rfl, h⟩
  | cons a as ih =>
    obtain ⟨hfst, hsnd⟩ := perform_congr a h
    obtain ⟨houtcomes, hentries⟩ := ih hsnd
    exact ⟨by rw [outcomes_cons, outcomes_cons, hfst, houtcomes], hentries⟩

/-! ### What passes leave in the books -/

theorem afterAll_nextSimulation (b : Books) :
    (b.afterAll as).ids.nextSimulation = b.ids.nextSimulation + as.length := by
  induction as generalizing b with
  | nil => rfl
  | cons a as ih =>
    rw [afterAll_cons, ih, perform_ids, (b.perform_accounted a).nextSimulation, List.length_cons,
      Nat.add_assoc, Nat.add_comm 1]

theorem afterAll_calls (b : Books) :
    (b.afterAll as).calls.toList = b.calls.toList ++ callsOf (b.outcomes as) := by
  induction as generalizing b with
  | nil => simp [callsOf]
  | cons a as ih => simp [ih, perform_calls, callsOf]

theorem afterAll_tradeLog (b : Books) :
    (b.afterAll as).tradeLog = b.tradeLog.map (·.logAll (b.outcomes as)) := by
  induction as generalizing b with
  | nil => simp [TradeLog.logAll]
  | cons a as ih =>
    rw [afterAll_cons, ih, perform_tradeLog, Option.map_map]
    congr 1
    funext l
    simp [TradeLog.logAll]

/-- The passes of a list with ticks set their strategies up once each, in order. -/
theorem setups_callsOf (b : Books) (h : ∀ a ∈ as, a.ticks ≠ []) :
    setups (callsOf (b.outcomes as)) = as.map (·.parameters) := by
  induction as generalizing b with
  | nil => rfl
  | cons a as ih =>
    rw [outcomes_cons, callsOf, List.flatMap_cons, setups_append, List.map_cons,
      (b.perform_accounted a).setups (h a List.mem_cons_self)]
    exact congrArg _ (ih _ fun c hc => h c (List.mem_cons_of_mem a hc))

/-- A pass of a list is made with the books behind the passes before it. -/
theorem getElem?_outcomes (b : Books) {k : ℕ} {p : PassOutcome Float}
    (h : (b.outcomes as)[k]? = some p) :
    ∃ a, as[k]? = some a ∧ p = ((b.afterAll (as.take k)).perform a).1 := by
  induction as generalizing b k with
  | nil => simp at h
  | cons a as ih =>
    cases k with
    | zero => exact ⟨a, rfl, (Option.some.inj h).symm⟩
    | succ k => exact ih _ h

/-- A pass of a list has the simulation id of its place and tells of the trades in its window. -/
theorem of_getElem?_outcomes (b : Books) {k : ℕ} {p : PassOutcome Float}
    (h : (b.outcomes as)[k]? = some p) :
    ∃ a, as[k]? = some a ∧ p.simulation.id = b.ids.nextSimulation + k ∧
      p.simulation.sample = a.sample ∧
      ∀ row ∈ p.tradeRows, row.simulation = b.ids.nextSimulation + k ∧ row.sample = a.sample ∧
        row.trade.Spans a.ticks := by
  obtain ⟨a, ha, rfl⟩ := getElem?_outcomes as b h
  have hk : k < as.length := (List.getElem?_eq_some_iff.mp ha).1
  have hp := (b.afterAll (as.take k)).perform_accounted a
  have hid : (b.afterAll (as.take k)).ids.nextSimulation = b.ids.nextSimulation + k := by
    rw [afterAll_nextSimulation, List.length_take_of_le (Nat.le_of_lt hk)]
  rw [hid] at hp
  exact ⟨a, ha, hp.id, hp.sample, fun row hrow => hp.of_mem_tradeRows hrow⟩

/-! ### The rows of a log -/

/-- The trades in the rows of passes are numbered in order; without gaps if every pass had a result. -/
theorem tradeIds_outcomes (b : Books) :
    let ids := ((b.outcomes as).flatMap (·.tradeRows)).map (·.trade.id)
    let all := idsFrom b.ids.nextTrade (openings (callsOf (b.outcomes as)))
    ids.Sublist all ∧ ((∀ p ∈ b.outcomes as, p.Completed) → ids = all) := by
  induction as generalizing b with
  | nil => exact ⟨List.Sublist.refl _, fun _ => rfl⟩
  | cons a as ih =>
    have hp := b.perform_accounted a
    obtain ⟨hsub, heq⟩ := hp.tradeIds
    obtain ⟨hsubs, heqs⟩ := ih (b.perform a).2
    rw [perform_ids, hp.nextTrade] at hsubs heqs
    simp only [outcomes_cons, callsOf, List.flatMap_cons, List.map_append, openings_append,
      idsFrom_add]
    refine ⟨hsub.append hsubs, fun hall => ?_⟩
    rw [heq (hall _ List.mem_cons_self), heqs fun p hp => hall p (List.mem_cons_of_mem _ hp)]
    rfl

/-- A row of passes was written by one of them. -/
theorem exists_of_mem_tradeRows (b : Books) {row : TradeRow Float}
    (h : row ∈ (b.outcomes as).flatMap (·.tradeRows)) :
    ∃ k a, as[k]? = some a ∧ row.simulation = b.ids.nextSimulation + k ∧ row.sample = a.sample ∧
      row.trade.Spans a.ticks := by
  obtain ⟨p, hp, hrow⟩ := List.mem_flatMap.mp h
  obtain ⟨k, hk⟩ := List.getElem?_of_mem hp
  obtain ⟨a, ha, -, -, hrows⟩ := of_getElem?_outcomes as b hk
  exact ⟨k, a, ha, hrows row hrow⟩

end Books

end Backtest
