import Backtest.Books
import Backtest.Proofs.Course
import Backtest.Proofs.Ledger

/-!
# Settlement

A pass that has a result leaves no trade open. Its closed trades are one for each decision to open, in
the order of these and numbered one after the other. Each goes from the tick at which it was decided on
through the tick of the next decision to close, or through the last tick of the pass.

* `Ledger.openings`, where trades are opened; `Ledger.closing`, where a trade opened there is closed;
* `Ledger.getElem?_trades`, the trades one by one;
* `Trade.Runs`, a trade over a stretch of a window and what it earns;
* `PassOutcome.TookTurns`, the turns of a pass that came to a verdict; `PassOutcome.Settled`, the account
  it leaves;
* `Pass.run_settled`, every pass with a result is of that kind.
-/

namespace Backtest

variable {α Memory : Type}

namespace Ledger

/-- The places at which trades are opened, and their directions. -/
def openings (ms : List (Move α)) : List (ℕ × Direction) :=
  ms.zipIdx.filterMap fun (m, place) => m.2.direction?.map (place, ·)

/-- The place at which a trade is closed that was opened at a place: the first after it at which trades
are closed, or the last there is. -/
def closing (ms : List (Move α)) (place : ℕ) : ℕ :=
  min (place + 1 + (ms.drop (place + 1)).findIdx Move.closes) (ms.length - 1)

theorem openings_cons (m : Move α) (ms : List (Move α)) :
    openings (m :: ms) = (m.2.direction?.map fun d => (0, d)).toList ++
      (openings ms).map fun o => (o.1 + 1, o.2) := by
  have hshift : ms.zipIdx 1 = ms.zipIdx.map fun x => (x.1, x.2 + 1) := List.zipIdx_succ ..
  rw [openings, List.zipIdx_cons, hshift, openings, List.map_filterMap, List.filterMap_cons,
    List.filterMap_map]
  cases hd : m.2.direction? <;> simp [Function.comp_def, hd]

theorem length_trades (first : ℕ) (ms : List (Move α)) :
    (trades first ms).length = (openings ms).length := by
  induction ms generalizing first with
  | nil => rfl
  | cons m ms ih =>
    rw [trades, openings_cons]
    cases m.2.direction? <;> simp [ih, Nat.add_comm]

/-- The trades one by one: each is that of the place at which it was opened. -/
theorem getElem?_trades (first : ℕ) {ms : List (Move α)} {n place : ℕ} {d : Direction}
    (h : (openings ms)[n]? = some (place, d)) :
    ∃ m, ms[place]? = some m ∧
      (trades first ms)[n]? = some (trade (first + n) d m.1 (ms.drop (place + 1))) := by
  induction ms generalizing first n place with
  | nil => simp [openings] at h
  | cons m ms ih =>
    rw [openings_cons] at h
    rw [trades]
    -- an opening behind the first move is one of the moves behind it
    have hlater {first n : ℕ} (h : ((openings ms).map fun o => (o.1 + 1, o.2))[n]? = some (place, d)) :
        ∃ m', (m :: ms)[place]? = some m' ∧ (trades first ms)[n]? =
          some (trade (first + n) d m'.1 ((m :: ms).drop (place + 1))) := by
      rw [List.getElem?_map] at h
      obtain ⟨⟨before, d⟩, hbefore, heq⟩ := Option.map_eq_some_iff.mp h
      obtain ⟨rfl, rfl⟩ := Prod.mk.inj heq
      exact ih first hbefore
    cases hd : m.2.direction? with
    | none =>
      rw [hd] at h
      exact hlater h
    | some d' =>
      rw [hd] at h
      cases n with
      | zero =>
        obtain ⟨rfl, rfl⟩ := Prod.mk.inj (Option.some.inj h)
        exact ⟨m, rfl, rfl⟩
      | succ n =>
        obtain ⟨m', hm', htrade⟩ := @hlater (first + 1) n h
        refine ⟨m', hm', ?_⟩
        rw [List.getElem?_cons_succ, htrade, Nat.add_right_comm, Nat.add_assoc]

section

variable {ms : List (Move α)} {m : Move α} {place : ℕ}

theorem closing_lt (hm : ms[place]? = some m) : closing ms place < ms.length := by
  have hlt := (List.getElem?_eq_some_iff.mp hm).1
  rw [closing]
  omega

/-- A trade has observed the ticks from the place at which it was opened through that at which it is
closed. -/
theorem ticks_trade (hm : ms[place]? = some m) (id : ℕ) (d : Direction) :
    (trade id d m.1 (ms.drop (place + 1))).ticks =
      ((ms.map (·.1)).take (closing ms place + 1)).drop place := by
  obtain ⟨hlt, hget⟩ := List.getElem?_eq_some_iff.mp hm
  have hdrop : (ms.map (·.1)).drop place = m.1 :: (ms.drop (place + 1)).map (·.1) := by
    rw [← List.map_drop, List.drop_eq_getElem_cons hlt, hget, List.map_cons]
  have hlength : closing ms place + 1 - place =
      min ((ms.drop (place + 1)).findIdx Move.closes + 1) (ms.drop (place + 1)).length + 1 := by
    rw [closing, List.length_drop]
    omega
  rw [List.drop_take, hdrop, hlength, List.take_succ_cons, Trade.ticks, trade, List.reverse_reverse,
    ← List.map_take, ← List.take_eq_take_min]

/-- The tick at which a trade is closed, if need be at the last of all, is that at the place at which it
is closed. -/
theorem closing_trade (hm : ms[place]? = some m) {last : Tick α}
    (hlast : (ms.map (·.1)).getLast? = some last) (id : ℕ) (d : Direction) :
    (ms.map (·.1))[closing ms place]? =
      some ((trade id d m.1 (ms.drop (place + 1))).closing.getD last) := by
  have hlt := (List.getElem?_eq_some_iff.mp hm).1
  rw [trade]
  cases hfind : (ms.drop (place + 1)).find? Move.closes with
  | none =>
    have hidx : (ms.drop (place + 1)).findIdx Move.closes = (ms.drop (place + 1)).length :=
      List.findIdx_eq_length.mpr fun x hx => by simpa using List.find?_eq_none.mp hfind x hx
    have hclosing : closing ms place = (ms.map (·.1)).length - 1 := by
      rw [closing, hidx, List.length_drop, List.length_map]
      omega
    rw [hclosing, ← List.getLast?_eq_getElem?, hlast]
    rfl
  | some c =>
    rw [List.find?_eq_getElem?_findIdx, List.getElem?_drop] at hfind
    have hclosing : closing ms place =
        place + 1 + (ms.drop (place + 1)).findIdx Move.closes := by
      have hlt := (List.getElem?_eq_some_iff.mp hfind).1
      rw [closing]
      omega
    rw [hclosing, List.getElem?_map, hfind]
    rfl

end

end Ledger

/-! ### Trades that are settled -/

/-- The trade closed at the last tick, unless it was closed before. -/
def Trade.settledAt (r : Trade α) (last : Tick α) : Trade α :=
  { r with closing := some (r.closing.getD last) }

theorem Trade.settledAt_of_isOpen {r : Trade α} (h : r.isOpen = true) (last : Tick α) :
    r.settledAt last = r.closedAt last := by
  rw [isOpen, Option.isNone_iff_eq_none] at h
  rw [settledAt, h]
  rfl

theorem Trade.settledAt_of_not_isOpen {r : Trade α} (h : r.isOpen = false) (last : Tick α) :
    r.settledAt last = r := by
  obtain ⟨t, ht⟩ : ∃ t, r.closing = some t := by
    simpa [isOpen, Option.isSome_iff_exists] using h
  rw [settledAt, ht, Option.getD_some, ← ht]

section

variable [Price α]

/-- A trade over the stretch of a window from one place through another: it is opened at the first tick
and closed at the last, bought at the ask and sold at the bid, and earns the difference in pips. -/
structure Trade.Runs (window : List (Tick α)) (place closing : ℕ) (r : Trade α) : Prop where
  ticks : r.ticks = (window.take (closing + 1)).drop place
  ends : ∃ x y, window[place]? = some x ∧ window[closing]? = some y ∧
    r.opening.time = x.time ∧ r.closing.map (·.time) = some y.time ∧
    match r.direction with
    | .long => r.openPrice = x.ask ∧ r.closePrice = y.bid ∧
      r.profit = y.bid * Price.ofNat 10000 - x.ask * Price.ofNat 10000
    | .short => r.openPrice = x.bid ∧ r.closePrice = y.ask ∧
      r.profit = x.bid * Price.ofNat 10000 - y.ask * Price.ofNat 10000

theorem Ledger.runs_trade {ms : List (Move α)} {m : Move α} {place id : ℕ} {d : Direction}
    {last : Tick α} {window : List (Tick α)} (hm : ms[place]? = some m)
    (hlast : (ms.map (·.1)).getLast? = some last) (hwindow : ms.map (·.1) <+: window) :
    ((trade id d m.1 (ms.drop (place + 1))).settledAt last).Runs window place (closing ms place) := by
  obtain ⟨rest, rfl⟩ := hwindow
  have hplace := (List.getElem?_eq_some_iff.mp hm).1
  have hclosing := closing_lt hm
  refine ⟨?_, m.1, _, ?_, ?_, rfl, rfl, ?_⟩
  · rw [List.take_append_of_le_length (by simpa using Nat.succ_le_of_lt hclosing)]
    exact ticks_trade hm id d
  · rw [List.getElem?_append_left (by simpa using hplace), List.getElem?_map, hm]
    rfl
  · rw [List.getElem?_append_left (by simpa using hclosing)]
    exact closing_trade hm hlast id d
  · cases d <;> exact ⟨rfl, rfl, rfl⟩

/-- The trades that moves make, one by one, once they are settled at the tick of the last move. -/
theorem Ledger.getElem?_settled {first n place : ℕ} {d : Direction} {ms : List (Move α)}
    {last : Tick α} {window : List (Tick α)} (h : (openings ms)[n]? = some (place, d))
    (hlast : (ms.map (·.1)).getLast? = some last) (hwindow : ms.map (·.1) <+: window) :
    ∃ r, ((trades first ms).map (·.settledAt last))[n]? = some r ∧
      r.id = ((first + n : ℕ) : ℤ) ∧ r.direction = d ∧
      r.Runs window place (closing ms place) := by
  obtain ⟨m, hm, htrade⟩ := getElem?_trades first h
  refine ⟨_, ?_, rfl, rfl, runs_trade hm hlast hwindow⟩
  rw [List.getElem?_map, htrade]
  rfl

/-- What closing all trades leaves of a pass that stands as its ledger says. -/
theorem PassState.Booked.closeAll_eq {settings : Settings α} {first : ℕ} {ms : List (Move α)}
    {p : PassState α Memory} (h : p.Booked settings first ms) (last : Tick α) :
    (p.simulation.closeAll last).2 = .ok () ∧ (p.simulation.closeAll last).1.openTrades = [] ∧
      (p.simulation.closeAll last).1.settings = settings ∧
      (p.simulation.closeAll last).1.closedTrades =
        (Ledger.trades first ms).map (·.settledAt last) := by
  have hclosed : p.simulation.closedTrades.map (·.settledAt last) = p.simulation.closedTrades :=
    (List.map_congr_left fun r hr => r.settledAt_of_not_isOpen (h.closed r hr) last).trans
      (List.map_id _)
  have hopen : p.simulation.openTrades.map (·.settledAt last) =
      p.simulation.openTrades.map (·.closedAt last) :=
    List.map_congr_left fun r hr => r.settledAt_of_isOpen (h.allOpen r hr) last
  rw [Simulation.closeAll_of_allOpen h.allOpen, ← h.trades, List.map_append, hclosed, hopen]
  exact ⟨rfl, rfl, h.settings, rfl⟩

end

/-! ### Passes that have a result -/

/-- What is left of a pass over a window that took some turns and came to a verdict. The turns are those
at the first ticks of the window, up to the first at which the account has fallen too far. The strategy
was asked in a turn if the account has not fallen too far in it and the charts are full. -/
structure PassOutcome.TookTurns (settings : Settings Float) (charts : List (Chart Float)) (ids : Ids)
    (window : List (Tick Float)) (parameters : Parameters) (turns : List (Turn Float))
    (v : Verdict Float) (o : PassOutcome Float) : Prop where
  processed : o.processed = turns.length
  ticks : turns.map (·.tick) = window.take turns.length
  calls : o.calls.toList = .setup parameters :: turns.flatMap Turn.calls ++ [.teardown]
  answered : ∀ u ∈ turns, ∀ f, u.answer ≠ some (.error f)
  asked : ∀ k u, turns[k]? = some u → (u.answer.isSome = true ↔
    ¬ Ledger.Breaches settings ids.nextTrade ((turns.take (k + 1)).map Turn.move) ∧
      Charts.full (Charts.processAll (Charts.activate charts) (window.take (k + 1))) = true)
  unbreached : ∀ k, k + 1 < turns.length →
    ¬ Ledger.Breaches settings ids.nextTrade ((turns.take (k + 1)).map Turn.move)
  breached : v = .breached ↔ Ledger.Breaches settings ids.nextTrade (turns.map Turn.move)
  finished : v ≠ .breached → turns.length = window.length

/-- What is left of the account when a pass over a window made some moves and came to a verdict: no open
trade, one closed trade for each opening, and what a pass is worth that was not given up. -/
structure PassOutcome.Settled (settings : Settings Float) (ids : Ids) (window : List (Tick Float))
    (ms : List (Move Float)) (v : Verdict Float) (o : PassOutcome Float) : Prop where
  openTrades : o.simulation.openTrades = []
  length : o.simulation.closedTrades.length = (Ledger.openings ms).length
  trades : ∀ n place d, (Ledger.openings ms)[n]? = some (place, d) →
    ∃ r, o.simulation.closedTrades[n]? = some r ∧ r.id = ((ids.nextTrade + n : ℕ) : ℤ) ∧
      r.direction = d ∧ r.Runs window place (Ledger.closing ms place)
  worth : v ≠ .breached → Books.worth v = some (
    if o.simulation.closedTrades.isEmpty then -(1.0 / 0.0)
    else (settings.deposit +
      Ledger.adjust settings (Price.sum (o.simulation.closedTrades.map (·.profit))) -
        settings.deposit) / Float.ofNat o.simulation.closedTrades.length)

section

variable [Price α] {settings : Settings α} {first : ℕ} {turns : List (Turn α)}
  {p : PassState α Memory}

/-- A pass stands as the ledger of its turns says, and so did the account in each of them. -/
structure PassState.Followed (settings : Settings α) (first : ℕ) (turns : List (Turn α))
    (p : PassState α Memory) : Prop where
  booked : p.Booked settings first (turns.map Turn.move)
  drawdown : ∀ k u, turns[k]? = some u →
    u.account.drawdown = Ledger.drawdown settings first ((turns.take (k + 1)).map Turn.move)

theorem PassState.Followed.turn (h : p.Followed settings first turns)
    (onTick : MarketView α → Memory → Except Fault Decision × Memory) (t : Tick α) :
    (p.turn onTick t).2.Followed settings first (turns ++ [(p.turn onTick t).1]) := by
  have hbooked : (p.turn onTick t).2.Booked settings first
      ((turns ++ [(p.turn onTick t).1]).map Turn.move) := by
    rw [List.map_append]
    exact h.booked.turn onTick t
  refine ⟨hbooked, fun k u hu => ?_⟩
  rcases getElem?_concat_eq_some.mp hu with hu | ⟨rfl, rfl⟩
  · rw [List.take_append_of_le_length (List.getElem?_eq_some_iff.mp hu).1]
    exact h.drawdown k u hu
  · rw [List.take_of_length_le (by simp), ← hbooked.drawdown]
    exact (turn_kept onTick p t).2.2.2.2.symm

theorem PassState.followed_begun {strategy : Strategy α} (id : ℕ) (sample : Sample)
    (settings : Settings α) (charts : List (Chart α)) (ids : Ids) (parameters : Parameters)
    (memory : strategy.Memory) :
    (Pass.begun strategy (.new id sample settings charts) ids parameters memory).Followed settings
      ids.nextTrade [] :=
  ⟨⟨rfl, by simp [Pass.begun, Simulation.activateCharts, Simulation.new],
    by simp [Pass.begun, Simulation.activateCharts, Simulation.new, Simulation.AllOpen], rfl, rfl, rfl⟩,
    by simp⟩

/-- The account has fallen too far in a turn if it has by the ledger. -/
theorem PassState.Followed.exceeded_iff (h : p.Followed settings first turns) {k : ℕ} {u : Turn α}
    (hu : turns[k]? = some u) (hsettings : u.account.settings = settings) :
    u.account.exceeded = true ↔
      Ledger.Breaches settings first ((turns.take (k + 1)).map Turn.move) := by
  rw [Simulation.exceeded, decide_eq_true_iff, h.drawdown k u hu, hsettings, Ledger.Breaches]

end

/-- What an account is worth whose score can be told. -/
theorem Simulation.worth_eq {s : Simulation Float} {x : Score Float} (h : s.expectancy = .ok x) :
    Books.worth (.scored x) = some (
      if s.closedTrades.isEmpty then -(1.0 / 0.0)
      else (s.settings.deposit +
        Ledger.adjust s.settings (Price.sum (s.closedTrades.map (·.profit))) -
          s.settings.deposit) / Float.ofNat s.closedTrades.length) := by
  rw [expectancy] at h
  split at h
  · simp at h
  · split at h <;> obtain rfl := Except.ok.inj h
    · rename_i hempty
      rw [if_pos hempty]
      rfl
    · rename_i hsome
      rw [if_neg hsome]
      rfl

namespace Pass

/-- A result is given once all trades are closed: a breach, or the score of the account. -/
theorem result_eq_ok {strategy : Strategy α} [Price α] {p : PassState α strategy.Memory}
    {last : Tick α} {stop : WalkEnd} {v : Verdict α}
    (hclose : (p.simulation.closeAll last).2 = .ok ())
    (h : (outcome strategy (settle p last stop)).result = .ok v) :
    (outcome strategy (settle p last stop)).simulation = (p.simulation.closeAll last).1 ∧
      (stop = .breached ∧ v = .breached ∨ stop = .finished ∧
        ∃ x, (p.simulation.closeAll last).1.expectancy = .ok x ∧ v = .scored x) := by
  have hsettled : (settle p last stop).2 = match stop with
      | .failed f => .error f
      | .breached => .ok true
      | .finished => .ok false := by
    cases stop <;> simp [settle, hclose, Except.mapError, Except.map]
  rw [outcome, hsettled] at h
  simp only at h
  split at h
  · simp at h
  · cases stop with
    | failed f => simp at h
    | breached => exact ⟨rfl, .inl ⟨rfl, (Except.ok.inj h).symm⟩⟩
    | finished =>
      have hverdict : ((p.simulation.closeAll last).1.expectancy.mapError Fault.trade).map
          Verdict.scored = .ok v := h
      cases hx : (p.simulation.closeAll last).1.expectancy with
      | error f => simp [hx, Except.mapError, Except.map] at hverdict
      | ok x =>
        rw [hx] at hverdict
        exact ⟨rfl, .inr ⟨rfl, x, rfl, (Except.ok.inj hverdict).symm⟩⟩

/-- A pass that has a result came to an end without a failure, and was given up if its ticks ended so. -/
theorem stop_of_result {strategy : Strategy α} [Price α] {p : PassState α strategy.Memory}
    {last : Tick α} {stop : WalkEnd} {v : Verdict α} (hopen : p.simulation.AllOpen)
    (h : (outcome strategy (settle p last stop)).result = .ok v) :
    (stop = .breached ∨ stop = .finished) ∧ (v = .breached ↔ stop = .breached) := by
  have hclose : (p.simulation.closeAll last).2 = .ok () := by
    rw [Simulation.closeAll_of_allOpen hopen]
  rcases (result_eq_ok hclose h).2 with ⟨rfl, rfl⟩ | ⟨rfl, x, -, rfl⟩ <;> simp

section

variable {strategy : Strategy Float} {settings : Settings Float} {charts : List (Chart Float)}
  {ids : Ids} {parameters : Parameters} {t last : Tick Float} {ts : List (Tick Float)}
  {turns : List (Turn Float)} {p : PassState Float strategy.Memory} {stop : WalkEnd}
  {v : Verdict Float}

/-- A pass whose turns came to an end without a failure took them as far as its window and the account
let it. -/
theorem tookTurns {id : ℕ} {sample : Sample} {memory : strategy.Memory}
    (hfollowed : p.Followed settings ids.nextTrade turns)
    (hrecorded : Recorded
      (begun strategy (.new id sample settings charts) ids parameters memory) turns p)
    (hended : Ended (t :: ts) turns stop) (hstop : stop = .breached ∨ stop = .finished)
    (hverdict : v = .breached ↔ stop = .breached) (last : Tick Float) :
    (outcome strategy (settle p last stop)).TookTurns settings charts ids (t :: ts) parameters turns
      v := by
  have hbreaches (k : ℕ) (u : Turn Float) (hu : turns[k]? = some u) :=
    hfollowed.exceeded_iff hu (hrecorded.shown k u hu).1
  obtain ⟨hfaultless, hexceeded, hfinished⟩ := hended.of_settled hstop hrecorded.unasked
  have hticks := hended.ticks_eq_take.1
  refine ⟨?_, hticks, ?_, ?_, ?_, ?_, ?_, ?_⟩
  · rw [outcome, (settle_kept p last stop).2, hrecorded.processed]
    exact Nat.zero_add _
  · simp [outcome, (settle_kept p last stop).1, hrecorded.calls, begun]
  · intro u hu f hf
    have hnone := hfaultless u hu
    simp [Turn.fault?, hf] at hnone
  · intro k u hu
    obtain ⟨-, hcharts, hasked⟩ := hrecorded.shown k u hu
    have hseen : (t :: ts).take (k + 1) = (turns.take (k + 1)).map (·.tick) := by
      rw [List.map_take, hticks, List.take_take,
        Nat.min_eq_left (List.getElem?_eq_some_iff.mp hu).1]
    rw [hasked, ← hbreaches k u hu, Simulation.canTrade, hcharts, hseen, Bool.not_eq_true]
    rfl
  · intro k hk
    have hu := List.getElem?_eq_getElem (Nat.lt_of_succ_lt hk)
    rw [← hbreaches k _ hu, hexceeded k _ hu]
    omega
  · -- the account has fallen too far with all moves if it has in the last turn
    obtain ⟨older, u, rfl⟩ := (List.eq_nil_or_concat' turns).resolve_left hended.ne_nil
    have hu : (older ++ [u])[older.length]? = some u := List.getElem?_concat_length
    have hlast := hbreaches older.length u hu
    rw [List.take_of_length_le (by simp), hexceeded older.length u hu] at hlast
    simpa [hverdict] using hlast
  · intro hv
    rw [← List.length_map (·.tick), hfinished (hstop.resolve_left (mt hverdict.mpr hv))]

/-- Closing all trades at the last tick settles an account that stands as its ledger says. -/
theorem settled (hbooked : p.Booked settings ids.nextTrade (turns.map Turn.move))
    (hticks : turns.map (·.tick) <+: t :: ts) (hlast : (turns.map (·.tick)).getLast? = some last)
    (h : (outcome strategy (settle p last stop)).result = .ok v) :
    (outcome strategy (settle p last stop)).Settled settings ids (t :: ts) (turns.map Turn.move)
      v := by
  obtain ⟨hclose, hopen, hsettings, hclosed⟩ := hbooked.closeAll_eq last
  obtain ⟨hsimulation, hverdict⟩ := result_eq_ok hclose h
  have hmoves : (turns.map Turn.move).map (·.1) = turns.map (·.tick) := List.map_map
  refine ⟨?_, ?_, ?_, ?_⟩
  · rw [hsimulation, hopen]
  · rw [hsimulation, hclosed, List.length_map, Ledger.length_trades]
  · intro n place d hd
    rw [hsimulation, hclosed]
    exact Ledger.getElem?_settled hd (hmoves ▸ hlast) (hmoves ▸ hticks)
  · intro hv
    rcases hverdict with ⟨-, hbreached⟩ | ⟨-, x, hx, rfl⟩
    · exact absurd hbreached hv
    · rw [Simulation.worth_eq hx, hsettings, hsimulation]

end

/-- Every pass that has a result took turns and is settled as their moves say. -/
theorem run_settled {strategy : Strategy Float} {id : ℕ} {sample : Sample} {settings : Settings Float}
    {charts : List (Chart Float)} {ids : Ids} {window : List (Tick Float)} {parameters : Parameters}
    {v : Verdict Float}
    (h : (run strategy (.new id sample settings charts) ids window parameters).result = .ok v) :
    ∃ turns, (run strategy (.new id sample settings charts) ids window parameters).TookTurns settings
        charts ids window parameters turns v ∧
      (run strategy (.new id sample settings charts) ids window parameters).Settled settings ids
        window (turns.map Turn.move) v := by
  cases window with
  | nil => simp [run] at h
  | cons t ts =>
    cases hsetup : strategy.setup parameters strategy.fresh with
    | error f => simp [run, hsetup] at h
    | ok memory =>
      obtain ⟨turns, p, last, stop, hfollowed, hrecorded, hended, hlast, hrun⟩ :=
        run_turns hsetup (.new id sample settings charts) ids t ts
          (fun turns p t hp => hp.turn strategy.onTick t)
          (PassState.followed_begun id sample settings charts ids parameters memory)
      rw [hrun] at h ⊢
      have hverdict := stop_of_result hfollowed.booked.allOpen h
      exact ⟨turns, tookTurns hfollowed hrecorded hended hverdict.1 hverdict.2 last,
        settled hfollowed.booked hended.ticks hlast h⟩

/-- Over the ticks of five days a strategy that buys once opens one trade, at the second tick, and it is
closed at the last. -/
theorem run_settled_daily :
    let o := run .buyer (.new 1 .inSample { deposit := 10000, drawdownLimit := -10, jpyQuote := false }
      [.new "candlestick" .m1 2]) Ids.first (dailyTicks newYear 5) []
    ∃ v turns, o.result = .ok v ∧ o.simulation.closedTrades.map (·.ticks.length) = [3] ∧
      o.TookTurns { deposit := 10000, drawdownLimit := -10, jpyQuote := false }
        [.new "candlestick" .m1 2] Ids.first (dailyTicks newYear 5) [] turns v ∧
      o.Settled { deposit := 10000, drawdownLimit := -10, jpyQuote := false } Ids.first
        (dailyTicks newYear 5) (turns.map Turn.move) v := by
  intro o
  have h : (o.result.toOption.map fun _ => o.simulation.closedTrades.map (·.ticks.length)) =
      some [3] := by
    decide +kernel
  obtain ⟨v, hv, htrades⟩ := Option.map_eq_some_iff.mp h
  have hresult := toOption_eq_some.mp hv
  obtain ⟨turns, hturns, hsettled⟩ := run_settled hresult
  exact ⟨v, turns, hresult, htrades, hturns, hsettled⟩

end Pass

end Backtest
