import Backtest.Proofs.Course
import Backtest.Proofs.PassSequence
import Mathlib.Data.List.Nodup

/-!
# The two tables of a trade log

The rows of the ticks that a trade observed stand together, in the order of the trades. They begin at
the time and the price at which the trade was opened, end at those at which it was closed, and are all
the ticks of the window in between.

* `TradeRow.column?`, `TickRow.column?`, a column of a row by the name in the header;
* `TradeLog.ticksOf`, the rows of ticks with the number of a trade;
* `TradeLog.Tells`, rows of ticks that agree with the row of their trade;
* `Books.logs_agree`, the tables that passes write one after the other agree.
-/

namespace Backtest

/-- A column of a row of the table of trades, as it is written. -/
def TradeRow.column? (row : TradeRow Float) (name : String) : Option String :=
  (TradeLog.tradeHeader.zip (TradeLog.tradeFields row)).lookup name

/-- A column of a row of the table of ticks, as it is written. -/
def TickRow.column? (row : TickRow Float) (name : String) : Option String :=
  (TradeLog.tickHeader.zip (TradeLog.tickFields row)).lookup name

/-- The column of the price at which a trade is entered at a tick. -/
def TradeRow.entryColumn (row : TradeRow Float) : String := if row.trade.isLong then "ask" else "bid"

/-- The column of the price at which a trade is left at a tick. -/
def TradeRow.exitColumn (row : TradeRow Float) : String := if row.trade.isLong then "bid" else "ask"

namespace TradeLog

/-- The rows of ticks with the number of a trade. -/
def ticksOf (l : TradeLog Float) (id : ℤ) : List (TickRow Float) := l.ticks.filter (·.trade == id)

/-- The rows of ticks with the number of a trade agree with the row of the trade: they stand together,
come from the same pass and hold a stretch of its window. The first has the time and the price at which
the trade was opened, the last those at which it was closed. -/
structure Tells (l : TradeLog Float) (row : TradeRow Float) (window : List (Tick Float)) : Prop where
  contiguous : l.ticksOf row.trade.id <:+: l.ticks
  simulation : ∀ q ∈ l.ticksOf row.trade.id, q.simulation = row.simulation
  opening : ∃ q, (l.ticksOf row.trade.id).head? = some q ∧
    (∃ text ∈ q.column? "time", text ∈ row.column? "opened_at") ∧
    ∃ text ∈ q.column? row.entryColumn, text ∈ row.column? "open_price"
  closing : ∃ q, (l.ticksOf row.trade.id).getLast? = some q ∧
    (∃ text ∈ q.column? "time", text ∈ row.column? "closed_at") ∧
    ∃ text ∈ q.column? row.exitColumn, text ∈ row.column? "close_price"
  window : (l.ticksOf row.trade.id).map (·.tick) <:+: window

end TradeLog

/-! ### The columns of a trade and of its ticks -/

namespace TradeRow

variable {row : TradeRow Float} {window : List (Tick Float)}

/-- The first row of a block has the time and the price of the opening. -/
theorem opening_block (row : TradeRow Float) :
    ∃ q, row.block.head? = some q ∧
      (∃ text ∈ q.column? "time", text ∈ row.column? "opened_at") ∧
      ∃ text ∈ q.column? row.entryColumn, text ∈ row.column? "open_price" := by
  refine ⟨⟨row.simulation, row.trade.id, row.trade.opening⟩, rfl, ⟨_, rfl, rfl⟩, ?_⟩
  refine ⟨Decimal.floatText row.trade.openPrice, ?_, rfl⟩
  cases hd : row.trade.direction with
  | long => simp [entryColumn, Trade.isLong, Trade.openPrice, hd]; rfl
  | short => simp [entryColumn, Trade.isLong, Trade.openPrice, hd]; rfl

/-- The last row of a block has the time and the price of the closing. -/
theorem closing_block (h : row.trade.Spans window) :
    ∃ q, row.block.getLast? = some q ∧
      (∃ text ∈ q.column? "time", text ∈ row.column? "closed_at") ∧
      ∃ text ∈ q.column? row.exitColumn, text ∈ row.column? "close_price" := by
  have hlast : row.trade.ticks.getLast? = some (row.trade.ticks.getLast row.trade.ticks_ne_nil) :=
    List.getLast?_eq_some_getLast _
  generalize row.trade.ticks.getLast row.trade.ticks_ne_nil = t at hlast
  have hclosing := h.closing.trans hlast
  refine ⟨⟨row.simulation, row.trade.id, t⟩, ?_, ⟨t.time.iso, rfl, ?_⟩,
    Decimal.floatText row.trade.closePrice, ?_, rfl⟩
  · rw [block, List.getLast?_map, hlast]
    rfl
  · show some _ = some _
    rw [hclosing]
    rfl
  · cases hd : row.trade.direction with
    | long => simp [exitColumn, Trade.isLong, Trade.closePrice, hclosing, hd]; rfl
    | short => simp [exitColumn, Trade.isLong, Trade.closePrice, hclosing, hd]; rfl

end TradeRow

/-! ### Blocks -/

namespace TradeLog

variable {l : TradeLog Float} {row : TradeRow Float}

theorem trade_of_mem_block {q : TickRow Float} (h : q ∈ row.block) : q.trade = row.trade.id := by
  obtain ⟨t, -, rfl⟩ := List.mem_map.mp h
  rfl

/-- The rows of ticks with the number of a trade are its block, if no other trade has its number. -/
theorem ticksOf_eq (hticks : l.ticks = l.trades.flatMap (·.block))
    (hids : (l.trades.map (·.trade.id)).Nodup) (hrow : row ∈ l.trades) :
    l.ticksOf row.trade.id = row.block ∧ row.block <:+: l.ticks := by
  obtain ⟨before, after, htrades⟩ := List.append_of_mem hrow
  rw [htrades, List.map_append, List.map_cons] at hids
  have hbefore (q : TickRow Float) (hq : q ∈ before.flatMap (·.block)) : q.trade ≠ row.trade.id := by
    obtain ⟨other, hother, hq⟩ := List.mem_flatMap.mp hq
    rw [trade_of_mem_block hq]
    exact (List.nodup_append.mp hids).2.2 _ (List.mem_map_of_mem hother) _ List.mem_cons_self
  have hafter (q : TickRow Float) (hq : q ∈ after.flatMap (·.block)) : q.trade ≠ row.trade.id := by
    obtain ⟨other, hother, hq⟩ := List.mem_flatMap.mp hq
    rw [trade_of_mem_block hq]
    intro heq
    have hnot := (List.nodup_cons.mp (List.nodup_append.mp hids).2.1).1
    exact hnot (heq ▸ List.mem_map_of_mem hother)
  have hsplit : l.ticks = before.flatMap (·.block) ++ row.block ++ after.flatMap (·.block) := by
    rw [hticks, htrades]
    simp
  refine ⟨?_, hsplit ▸ List.infix_append _ _ _⟩
  rw [ticksOf, hsplit, List.filter_append, List.filter_append, List.filter_eq_nil_iff.mpr,
    List.filter_eq_self.mpr, List.filter_eq_nil_iff.mpr, List.nil_append, List.append_nil]
  · simpa using hafter
  · intro q hq
    simpa using trade_of_mem_block hq
  · simpa using hbefore

end TradeLog

theorem nodup_idsFrom (first n : ℕ) : (idsFrom first n).Nodup :=
  List.Nodup.map (fun _ _ => Int.ofNat.inj) (List.nodup_range' 1)

/-- The two tables that passes write one after the other agree, whatever ids are free before them. The
trades have different numbers, the rows of ticks are those of the trades, trade by trade, and the rows
of each trade agree with its own row and with the window of the pass that made it. -/
theorem Books.logs_agree (ids : Ids) (as : List Assignment) :
    ∃ log, ({ Books.new with ids }.afterAll as).tradeLog = some log ∧
      (log.trades.map (·.trade.id)).Nodup ∧
      log.ticks = log.trades.flatMap (fun row => log.ticksOf row.trade.id) ∧
      ∀ row ∈ log.trades, ∃ k a, as[k]? = some a ∧ row.simulation = ids.nextSimulation + k ∧
        row.sample = a.sample ∧ log.Tells row a.ticks := by
  let books : Books := { Books.new with ids }
  let log : TradeLog Float := TradeLog.empty.logAll (books.outcomes as)
  have htrades : log.trades = (books.outcomes as).flatMap (·.tradeRows) := List.nil_append _
  have hticks : log.ticks = log.trades.flatMap (·.block) := by
    rw [htrades, List.flatMap_assoc]
    exact List.flatMap_congr fun p _ => p.tickRows_eq
  have hids : (log.trades.map (·.trade.id)).Nodup := by
    rw [htrades]
    exact (Books.tradeIds_outcomes as books).1.nodup (nodup_idsFrom _ _)
  refine ⟨log, books.afterAll_tradeLog as, hids, ?_, fun row hrow => ?_⟩
  · refine hticks.trans (List.flatMap_congr fun row hrow => ?_)
    exact (TradeLog.ticksOf_eq hticks hids hrow).1.symm
  · obtain ⟨k, a, ha, hsimulation, hsample, hspans⟩ :=
      Books.exists_of_mem_tradeRows as books (htrades ▸ hrow)
    obtain ⟨hblock, hinfix⟩ := TradeLog.ticksOf_eq hticks hids hrow
    refine ⟨k, a, ha, hsimulation, hsample, ?_⟩
    constructor <;> rw [hblock]
    · exact hinfix
    · intro q hq
      obtain ⟨t, -, rfl⟩ := List.mem_map.mp hq
      rfl
    · exact row.opening_block
    · exact row.closing_block hspans
    · rw [TradeRow.block, List.map_map]
      simpa [Function.comp_def] using hspans.within

/-- Two passes that buy once each: the second trade is told of by rows of its own. -/
theorem Books.logs_agree_daily :
    let a : Assignment :=
      { strategy := .buyer
        settings := { deposit := 10000, drawdownLimit := -10, jpyQuote := false }
        charts := [.new "candlestick" .m1 2]
        sample := .inSample
        ticks := dailyTicks newYear 5
        parameters := [] }
    ∃ log row, ({ Books.new with ids := ⟨70, 40⟩ }.afterAll [a, a]).tradeLog = some log ∧
      log.trades[1]? = some row ∧ row.trade.id = 41 ∧ row.simulation = 71 ∧
      (log.ticksOf row.trade.id).length = 3 ∧ log.Tells row (dailyTicks newYear 5) := by
  intro a
  obtain ⟨log, hlog, -, -, hrows⟩ := logs_agree ⟨70, 40⟩ [a, a]
  have h : (({ Books.new with ids := ⟨70, 40⟩ }.afterAll [a, a]).tradeLog.bind fun log =>
      log.trades[1]?.map fun row : TradeRow Float =>
        (row.trade.id, row.simulation, (log.ticksOf row.trade.id).length)) = some (41, 71, 3) := by
    decide +kernel
  rw [hlog, Option.bind_some] at h
  obtain ⟨row, hrow, heq⟩ := Option.map_eq_some_iff.mp h
  simp only [Prod.mk.injEq] at heq
  obtain ⟨hid, hsimulation, hlength⟩ := heq
  obtain ⟨k, b, hb, -, -, htells⟩ := hrows row (List.mem_of_getElem? hrow)
  obtain rfl : b = a := by simpa using List.mem_of_getElem? hb
  exact ⟨log, row, hlog, hrow, hid, hsimulation, hlength, htells⟩

end Backtest
