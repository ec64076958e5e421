import Backtest.Proofs.Turns

/-!
# The ledger of a pass

What a pass does with trades is told by its ticks and the decisions taken at them alone. Every decision
to open makes one trade. The trade lasts through the first later decision to close, or as long as there
are moves, and observes every tick on its way.

* `Move`, a tick and what was decided at it; `Ledger.trades`, the trades that moves make;
* `Ledger.trades_concat`, the trades after one more move;
* `Ledger.equities`, the worth of the account at each move; `Ledger.Breaches`, whether it has fallen
  too far;
* `PassState.Booked`, a pass that stands as its ledger says; `Booked.turn`, every turn keeps it so.
-/

namespace Backtest

variable {α Memory : Type}

/-- The direction of the trade that a decision opens. -/
def Decision.direction? : Decision → Option Direction
  | .openLong => some .long
  | .openShort => some .short
  | _ => none

/-- A tick and what was decided at it. -/
abbrev Move (α : Type) := Tick α × Decision

/-- Whether all trades are closed in a move. -/
def Move.closes (m : Move α) : Bool := m.2 == .closeAll

/-- Whether a trade is opened in a move. -/
def Move.opens (m : Move α) : Bool := m.2.direction?.isSome

/-- What a turn of a pass comes to. -/
def Turn.move (u : Turn α) : Move α := (u.tick, u.decision)

/-- An open trade after one more move. -/
def Trade.meet (r : Trade α) (m : Move α) : Trade α :=
  if m.closes then (r.observe m.1).closedAt m.1 else r.observe m.1

namespace Ledger

/-! ### Trades -/

/-- The trade that is opened at a tick and meets the moves after it, through the first in which trades
are closed. -/
def trade (id : ℕ) (d : Direction) (t : Tick α) (after : List (Move α)) : Trade α where
  id := id
  direction := d
  opening := t
  later := ((after.take (after.findIdx Move.closes + 1)).map (·.1)).reverse
  closing := (after.find? Move.closes).map (·.1)

/-- The trades that moves make, numbered from a first number on. -/
def trades (first : ℕ) : List (Move α) → List (Trade α)
  | [] => []
  | m :: after => match m.2.direction? with
    | some d => trade first d m.1 after :: trades (first + 1) after
    | none => trades first after

/-- The trade that one move opens. -/
def opened (id : ℕ) (m : Move α) : List (Trade α) :=
  (m.2.direction?.map fun d => Trade.opened id d m.1).toList

theorem trade_concat (id : ℕ) (d : Direction) (t : Tick α) (after : List (Move α)) (m : Move α) :
    trade id d t (after ++ [m]) =
      if (trade id d t after).isOpen then (trade id d t after).meet m else trade id d t after := by
  cases hfind : after.find? Move.closes with
  | none =>
    have hidx : after.findIdx Move.closes = after.length :=
      List.findIdx_eq_length.mpr fun x hx => by simpa using List.find?_eq_none.mp hfind x hx
    have hopen : (trade id d t after).isOpen = true := by simp [trade, Trade.isOpen, hfind]
    have hbefore : after.take (after.findIdx Move.closes + 1) = after :=
      List.take_of_length_le (by omega)
    have hall : (after ++ [m]).take ((after ++ [m]).findIdx Move.closes + 1) = after ++ [m] := by
      refine List.take_of_length_le ?_
      rw [List.findIdx_append, if_neg (by omega), List.length_append, List.length_singleton]
      omega
    rw [if_pos hopen, trade, trade, hbefore, hall, List.find?_append, hfind]
    cases hm : m.closes <;> simp [Trade.meet, Trade.observe, Trade.closedAt, hm]
  | some c =>
    have hidx : after.findIdx Move.closes < after.length :=
      List.findIdx_lt_length.mpr ⟨c, List.mem_of_find?_eq_some hfind, List.find?_some hfind⟩
    have hclosed : ¬ (trade id d t after).isOpen = true := by simp [trade, Trade.isOpen, hfind]
    rw [if_neg hclosed, trade, trade, List.find?_append, hfind, List.findIdx_append, if_pos hidx,
      List.take_append_of_le_length hidx]
    rfl

theorem trades_concat (first : ℕ) (ms : List (Move α)) (m : Move α) :
    trades first (ms ++ [m]) =
      (trades first ms).map (fun r => if r.isOpen then r.meet m else r) ++
        opened (first + ms.countP Move.opens) m := by
  induction ms generalizing first with
  | nil =>
    rw [List.nil_append, trades, trades]
    cases h : m.2.direction? <;> simp [opened, h, trade, Trade.opened, trades]
  | cons m' ms ih =>
    rw [List.cons_append, trades, trades]
    cases h : m'.2.direction? with
    | none => simp [ih, Move.opens, h]
    | some d => simp [ih, Move.opens, h, trade_concat, Nat.add_assoc, Nat.add_comm 1]

/-- A decision to open adds a trade to those there are when nothing is decided. -/
theorem trades_decide_of_not_closes (first : ℕ) (ms : List (Move α)) (t : Tick α) {d : Decision}
    (h : Move.closes (t, d) = false) :
    trades first (ms ++ [(t, d)]) =
      trades first (ms ++ [(t, .noop)]) ++ opened (first + ms.countP Move.opens) (t, d) := by
  have hmeet (r : Trade α) : r.meet (t, d) = r.meet (t, .noop) := by
    rw [Trade.meet, Trade.meet, h]
    rfl
  have hnone : opened (first + ms.countP Move.opens) ((t, .noop) : Move α) = [] := rfl
  simp only [trades_concat, hmeet, hnone, List.append_nil]

/-- A decision to close closes the trades that are open when nothing is decided. -/
theorem trades_decide_closeAll (first : ℕ) (ms : List (Move α)) (t : Tick α) :
    trades first (ms ++ [(t, .closeAll)]) =
      (trades first (ms ++ [(t, .noop)])).map fun r => if r.isOpen then r.closedAt t else r := by
  have hnone (d : Decision) (hd : d.direction? = none) :
      opened (first + ms.countP Move.opens) ((t, d) : Move α) = [] := by simp [opened, hd]
  rw [trades_concat, trades_concat, hnone .closeAll rfl, hnone .noop rfl, List.append_nil,
    List.append_nil, List.map_map]
  refine List.map_congr_left fun r _ => ?_
  cases h : r.isOpen
  · simp [h]
  · have hobserve : (r.observe t).isOpen = true := h
    simp [h, hobserve, Trade.meet, Move.closes]

/-! ### Worth -/

variable [Price α]

/-- Pips in the currency of the account. -/
def adjust (settings : Settings α) (pips : α) : α :=
  if settings.jpyQuote then pips / Price.ofNat 100 else pips

/-- What an account with such trades is worth: the deposit, the profit of the trades that are closed, and
the profit of those that are open. -/
def equity (settings : Settings α) (rs : List (Trade α)) : α :=
  settings.deposit + adjust settings (Price.sum ((rs.filter (·.isClosed)).map (·.profit))) +
    adjust settings (Price.sum ((rs.filter (·.isOpen)).map (·.profit)))

/-- What the account is worth at each move, before anything is decided in it. -/
def equities (settings : Settings α) (first : ℕ) (ms : List (Move α)) : List α :=
  ms.mapIdx fun k m => equity settings (trades first (ms.take k ++ [(m.1, .noop)]))

/-- How far the account has fallen with the moves. -/
def drawdown (settings : Settings α) (first : ℕ) (ms : List (Move α)) : Drawdown α :=
  (equities settings first ms).foldl Drawdown.observe (Drawdown.start settings.deposit)

/-- Whether the account has fallen too far with the moves. -/
def Breaches (settings : Settings α) (first : ℕ) (ms : List (Move α)) : Prop :=
  (drawdown settings first ms).deepest < settings.drawdownLimit

theorem drawdown_concat (settings : Settings α) (first : ℕ) (ms : List (Move α)) (m : Move α) :
    drawdown settings first (ms ++ [m]) = (drawdown settings first ms).observe
      (equity settings (trades first (ms ++ [(m.1, .noop)]))) := by
  have hequities : equities settings first (ms ++ [m]) =
      equities settings first ms ++ [equity settings (trades first (ms ++ [(m.1, .noop)]))] := by
    rw [equities, List.mapIdx_concat, List.take_left]
    congr 1
    rw [equities, List.mapIdx_eq_mapIdx_iff]
    intro k hk
    rw [List.take_append_of_le_length (Nat.le_of_lt hk)]
  rw [drawdown, hequities, List.foldl_append]
  rfl

end Ledger

/-! ### Passes that stand as their ledger says -/

variable [Price α]

/-- A pass stands as the ledger of its moves says. -/
structure PassState.Booked (settings : Settings α) (first : ℕ) (ms : List (Move α))
    (p : PassState α Memory) : Prop where
  trades : p.simulation.closedTrades ++ p.simulation.openTrades = Ledger.trades first ms
  closed : ∀ r ∈ p.simulation.closedTrades, r.isOpen = false
  allOpen : p.simulation.AllOpen
  nextTrade : p.ids.nextTrade = first + ms.countP Move.opens
  drawdown : p.simulation.drawdown = Ledger.drawdown settings first ms
  settings : p.simulation.settings = settings

omit [Price α] in
theorem Trade.isClosed_eq_not_isOpen (r : Trade α) : r.isClosed = !r.isOpen := by
  cases h : r.closing <;> simp [isClosed, isOpen, h]

omit [Price α] in
/-- What happens to open trades alone happens to those behind the closed ones. -/
theorem Trade.map_open {closed openTrades : List (Trade α)} (hclosed : ∀ r ∈ closed, r.isOpen = false)
    (hopen : ∀ r ∈ openTrades, r.isOpen = true) (f : Trade α → Trade α) :
    (closed ++ openTrades).map (fun r => if r.isOpen then f r else r) =
      closed ++ openTrades.map f := by
  rw [List.map_append, List.map_congr_left fun r hr => if_neg (by simp [hclosed r hr]), List.map_id',
    List.map_congr_left fun r hr => if_pos (hopen r hr)]

/-- An account whose trades are those of a list, the closed ones first, is worth what these are. -/
theorem Simulation.equity_eq {s : Simulation α} {rs : List (Trade α)}
    (htrades : s.closedTrades ++ s.openTrades = rs) (hclosed : ∀ r ∈ s.closedTrades, r.isOpen = false)
    (hopen : s.AllOpen) : s.equity = Ledger.equity s.settings rs := by
  have hnone : ∀ r ∈ s.openTrades, ¬ r.isClosed = true := fun r hr => by
    simp [r.isClosed_eq_not_isOpen, hopen r hr]
  have hfilter : rs.filter (·.isClosed) = s.closedTrades := by
    rw [← htrades, List.filter_append, List.filter_eq_nil_iff.mpr hnone, List.append_nil,
      List.filter_eq_self]
    exact fun r hr => by simp [r.isClosed_eq_not_isOpen, hclosed r hr]
  have hfilter' : rs.filter (·.isOpen) = s.openTrades := by
    rw [← htrades, List.filter_append, List.filter_eq_self.mpr hopen, List.filter_eq_nil_iff.mpr,
      List.nil_append]
    exact fun r hr => by simp [hclosed r hr]
  rw [Ledger.equity, hfilter, hfilter']
  rfl

namespace PassState

variable {settings : Settings α} {first : ℕ} {ms : List (Move α)} {p : PassState α Memory}

/-- A tick is a move in which nothing is decided yet. -/
theorem Booked.advance (h : p.Booked settings first ms) (t : Tick α) :
    (p.advance t).Booked settings first (ms ++ [(t, .noop)]) := by
  obtain ⟨hopen, hclosed⟩ := trades_advance h.allOpen t
  have hkept : ∀ r ∈ (p.advance t).simulation.closedTrades, r.isOpen = false := hclosed ▸ h.closed
  have htrades : (p.advance t).simulation.closedTrades ++ (p.advance t).simulation.openTrades =
      Ledger.trades first (ms ++ [(t, .noop)]) := by
    have hnone : Ledger.opened (first + ms.countP Move.opens) ((t, .noop) : Move α) = [] := rfl
    rw [Ledger.trades_concat, ← h.trades, Trade.map_open h.closed h.allOpen, hopen, hclosed, hnone,
      List.append_nil]
    rfl
  refine ⟨htrades, hkept, p.allOpen_advance t, ?_, ?_, h.settings⟩
  · rw [List.countP_append]
    exact h.nextTrade
  · have hequity := Simulation.equity_eq htrades hkept (p.allOpen_advance t)
    rw [Ledger.drawdown_concat, ← h.drawdown, ← h.settings]
    exact congrArg p.simulation.drawdown.observe hequity

theorem Booked.nextTrade_concat {t : Tick α} (h : p.Booked settings first (ms ++ [(t, .noop)])) :
    p.ids.nextTrade = first + ms.countP Move.opens := by
  rw [h.nextTrade, List.countP_append]
  rfl

/-- What is decided in a move does not bear on the drawdown that the move shows. -/
theorem Booked.drawdown_concat {t : Tick α} (h : p.Booked settings first (ms ++ [(t, .noop)]))
    (d : Decision) : p.simulation.drawdown = Ledger.drawdown settings first (ms ++ [(t, d)]) := by
  rw [h.drawdown, Ledger.drawdown_concat, Ledger.drawdown_concat]

/-- A trade is opened as the ledger says. -/
theorem Booked.openTrade {t : Tick α} (h : p.Booked settings first (ms ++ [(t, .noop)]))
    {decision : Decision} {d : Direction} (hd : decision.direction? = some d) :
    let (_, simulation, ids) := p.simulation.openTrade p.ids d t
    ({ p with simulation, ids } : PassState α Memory).Booked settings first
      (ms ++ [(t, decision)]) := by
  have hcloses : Move.closes (t, decision) = false := by
    cases decision <;> first | rfl | simp [Decision.direction?] at hd
  have hopened : Ledger.opened (first + ms.countP Move.opens) (t, decision) =
      [Trade.opened p.ids.nextTrade d t] := by
    rw [Ledger.opened, hd, h.nextTrade_concat]
    rfl
  refine ⟨?_, h.closed, h.allOpen.openTrade p.ids d t, ?_, h.drawdown_concat decision, h.settings⟩
  · rw [Ledger.trades_decide_of_not_closes first ms t hcloses, hopened, ← h.trades, List.append_assoc]
  · have hopens : Move.opens (t, decision) = true := by rw [Move.opens, hd]; rfl
    rw [List.countP_append, List.countP_singleton, hopens, ← Nat.add_assoc, ← h.nextTrade_concat]
    rfl

/-- All trades are closed as the ledger says. -/
theorem Booked.closeAll {t : Tick α} (h : p.Booked settings first (ms ++ [(t, .noop)])) :
    ({ p with simulation := (p.simulation.closeAll t).1 } : PassState α Memory).Booked settings first
      (ms ++ [(t, .closeAll)]) := by
  rw [Simulation.closeAll_of_allOpen h.allOpen]
  refine ⟨?_, ?_, by simp [Simulation.AllOpen], ?_, h.drawdown_concat .closeAll, h.settings⟩
  · rw [Ledger.trades_decide_closeAll, ← h.trades, Trade.map_open h.closed h.allOpen]
    exact List.append_nil _
  · intro r hr
    rcases List.mem_append.mp hr with hr | hr
    · exact h.closed r hr
    · obtain ⟨q, -, rfl⟩ := List.mem_map.mp hr
      rfl
  · rw [List.countP_append]
    exact h.nextTrade_concat

/-- A decision is carried out as the ledger says. -/
theorem Booked.carryOut {t : Tick α} (h : p.Booked settings first (ms ++ [(t, .noop)]))
    (d : Decision) : (p.carryOut t d).1.Booked settings first (ms ++ [(t, d)]) := by
  cases d with
  | noop => exact h
  | openLong => exact h.openTrade rfl
  | openShort => exact h.openTrade rfl
  | closeAll => exact h.closeAll

/-- A turn leads from one move of the ledger to the next. -/
theorem Booked.turn (h : p.Booked settings first ms)
    (onTick : MarketView α → Memory → Except Fault Decision × Memory) (t : Tick α) :
    (p.turn onTick t).2.Booked settings first (ms ++ [(p.turn onTick t).1.move]) := by
  have hadvance := h.advance t
  have hasked : ((p.advance t).ask onTick t).1.Booked settings first (ms ++ [(t, .noop)]) :=
    ⟨hadvance.trades, hadvance.closed, hadvance.allOpen, hadvance.nextTrade, hadvance.drawdown,
      hadvance.settings⟩
  rw [PassState.turn]
  split
  · exact hadvance
  · split
    · split
      · rename_i f hf
        rw [hf]
        exact hasked
      · rename_i d hd
        rw [hd]
        exact hasked.carryOut d
    · exact hadvance

end PassState

end Backtest
