import Backtest.Proofs.LogAgreement
import Mathlib.Data.List.Forall2
import Mathlib.Data.List.Induction

/-!
# The keeping of trades

The trades of an account are opened, observed, closed one by one or all together, and moved to the closed
ones, in any order. A step may fail: then it leaves what it has changed so far, and others follow. No
trade is lost on the way and none is there twice.

* `Desk`, an account with the ids that its trades take; `TradeStep`, what is done there;
  `Desk.step`, `Desk.after`;
* `Trade.Later`, a trade at a later time; `Simulation.trades_closeTrade`, `trades_closeEach`, what a step
  makes of the open trades;
* `Desk.Keeps`, the trades of a desk are those that were opened there; `Simulation.Precedes`, an account
  at a later time; `Desk.Keeps.step`, every step maintains both;
* `Desk.trades_kept`, the main statement.
-/

namespace Backtest

variable {α : Type}

/-! ### A trade at a later time -/

namespace Trade

/-- A trade as it was when it was opened. -/
def asOpened (r : Trade α) : Trade α := opened r.id r.direction r.opening

/-- A trade at a later time: it is the trade that was opened then, and once it is closed it stays closed
at the same tick. -/
structure Later (r r' : Trade α) : Prop where
  asOpened : r'.asOpened = r.asOpened
  closing : r.isClosed = true → r'.closing = r.closing

variable {r r' : Trade α} {t : Tick α}

theorem Later.refl (r : Trade α) : r.Later r := ⟨rfl, fun _ => rfl⟩

theorem Later.id (h : r.Later r') : r'.id = r.id := by
  have hid : r'.asOpened.id = r.asOpened.id := by rw [h.asOpened]
  exact hid

theorem Later.isClosed (h : r.Later r') (hr : r.isClosed = true) : r'.isClosed = true := by
  unfold Trade.isClosed
  rw [h.closing hr]
  exact hr

theorem Later.trans {r'' : Trade α} (h : r.Later r') (h' : r'.Later r'') : r.Later r'' where
  asOpened := h'.asOpened.trans h.asOpened
  closing := by
    intro hr
    rw [h'.closing (h.isClosed hr), h.closing hr]

theorem later_observe (r : Trade α) (t : Tick α) : r.Later (r.observe t) := ⟨rfl, fun _ => rfl⟩

/-- A trade is closed unless it was closed before. -/
theorem close_eq_ok : r.close t = .ok r' ↔ r.isClosed = false ∧ r' = r.closedAt t := by
  unfold close isClosed
  cases r.closing with
  | none => simp [closedAt, eq_comm]
  | some c => simp

theorem close_eq_error {f : TradeFault} :
    r.close t = .error f ↔ r.isClosed = true ∧ f = .alreadyClosed r.id := by
  unfold close isClosed
  cases r.closing with
  | none => simp
  | some c => simp [eq_comm]

theorem later_of_close (h : r.close t = .ok r') : r.Later r' := by
  obtain ⟨hr, rfl⟩ := close_eq_ok.mp h
  refine ⟨rfl, ?_⟩
  intro hclosed
  simp [hr] at hclosed

/-- What a closed trade earned, and the price at which it was closed, stay as they are. -/
theorem Later.settled [Price α] (h : r.Later r') (hr : r.isClosed = true) :
    r'.closePrice = r.closePrice ∧ r'.profit = r.profit := by
  have hdirection : r'.asOpened.direction = r.asOpened.direction := by rw [h.asOpened]
  have hopening : r'.asOpened.opening = r.asOpened.opening := by rw [h.asOpened]
  change r'.direction = r.direction at hdirection
  change r'.opening = r.opening at hopening
  obtain ⟨c, hc⟩ := Option.isSome_iff_exists.mp hr
  have hc' : r'.closing = some c := (h.closing hr).trans hc
  constructor
  · rw [closePrice, closePrice, hc, hc', hdirection]
  · rw [profit, profit, hc, hc', Option.getD_some, Option.getD_some, profitAt, profitAt, openPrice,
      openPrice, hdirection, hopening]

end Trade

/-- Trades at a later time, one by one. -/
abbrev TradesLater (rs rs' : List (Trade α)) : Prop := List.Forall₂ Trade.Later rs rs'

theorem TradesLater.refl (rs : List (Trade α)) : TradesLater rs rs :=
  List.forall₂_same.mpr fun r _ => .refl r

theorem TradesLater.map_asOpened {rs rs' : List (Trade α)} (h : TradesLater rs rs') :
    rs'.map (·.asOpened) = rs.map (·.asOpened) := by
  induction h with
  | nil => rfl
  | cons hr _ ih => rw [List.map_cons, List.map_cons, hr.asOpened, ih]

theorem TradesLater.map_id {rs rs' : List (Trade α)} (h : TradesLater rs rs') :
    rs'.map (·.id) = rs.map (·.id) := by
  induction h with
  | nil => rfl
  | cons hr _ ih => rw [List.map_cons, List.map_cons, hr.id, ih]

theorem TradesLater.exists_of_mem {rs rs' : List (Trade α)} (h : TradesLater rs rs') {r : Trade α}
    (hr : r ∈ rs) : ∃ r' ∈ rs', r.Later r' := by
  induction h with
  | nil => simp at hr
  | @cons q q' qs qs' hq _ ih =>
    rcases List.mem_cons.mp hr with rfl | hr
    · exact ⟨q', List.mem_cons_self, hq⟩
    · obtain ⟨r', hr', hlater⟩ := ih hr
      exact ⟨r', List.mem_cons_of_mem q' hr', hlater⟩

theorem tradesLater_set {rs : List (Trade α)} {i : ℕ} {r r' : Trade α} (hr : rs[i]? = some r)
    (h : r.Later r') : TradesLater rs (rs.set i r') := by
  induction rs generalizing i with
  | nil => simp at hr
  | cons q qs ih =>
    cases i with
    | zero =>
      obtain rfl := Option.some.inj hr
      exact .cons h (TradesLater.refl qs)
    | succ i => exact .cons (.refl q) (ih hr)

/-! ### What is done with trades -/

/-- What is done with the trades of an account. -/
inductive TradeStep (α : Type)
  | openTrade (d : Direction) (t : Tick α)
  /-- The trade with an id is closed, whether it was moved or not. -/
  | closeTrade (id : ℤ) (t : Tick α)
  | observe (t : Tick α)
  | migrate
  | closeAll (t : Tick α)

/-- The trades that steps open, as they are opened, numbered from a first number on. -/
def TradeStep.opened (first : ℕ) : List (TradeStep α) → List (Trade α)
  | [] => []
  | .openTrade d t :: steps => Trade.opened first d t :: opened (first + 1) steps
  | _ :: steps => opened first steps

/-- Close the closed trade at an index, which fails unless it is open. -/
def Simulation.closeMovedAt (s : Simulation α) (i : ℕ) (t : Tick α) : Except Fault (Simulation α) :=
  match s.closedTrades[i]? with
  | none => .error .indexOutOfRange
  | some r => match r.close t with
    | .error f => .error (.trade f)
    | .ok r => .ok { s with closedTrades := s.closedTrades.set i r }

/-- Close the trade with an id, without moving it. An id that no trade has names nothing to close. -/
def Simulation.closeTrade (s : Simulation α) (id : ℤ) (t : Tick α) : Except Fault (Simulation α) :=
  match s.openTrades.findIdx? (·.id == id), s.closedTrades.findIdx? (·.id == id) with
  | some i, _ => s.closeAt i t
  | none, some i => s.closeMovedAt i t
  | none, none => .ok s

/-- An account with the ids that its trades take. -/
structure Desk (α : Type) where
  account : Simulation α
  ids : Ids

namespace Desk

/-- The desk after a step, and whether the step failed. -/
def step (k : Desk α) : TradeStep α → Desk α × Except Fault Unit
  | .openTrade d t =>
    let (_, account, ids) := k.account.openTrade k.ids d t
    ({ account, ids }, .ok ())
  | .closeTrade id t => match k.account.closeTrade id t with
    | .error f => (k, .error f)
    | .ok account => ({ k with account }, .ok ())
  | .observe t => ({ k with account := k.account.observe t }, .ok ())
  | .migrate => ({ k with account := k.account.migrate }, .ok ())
  | .closeAll t =>
    let (account, result) := k.account.closeAll t
    ({ k with account }, result.mapError .trade)

/-- The desk after several steps, whether or not some failed. -/
def after (k : Desk α) (steps : List (TradeStep α)) : Desk α := steps.foldl (fun k x => (k.step x).1) k

theorem after_append (k : Desk α) (xs ys : List (TradeStep α)) :
    k.after (xs ++ ys) = (k.after xs).after ys := List.foldl_append

/-- A desk without trades. -/
def start [Price α] (id : ℕ) (sample : Sample) (settings : Settings α) (charts : List (Chart α))
    (ids : Ids) : Desk α := { account := .new id sample settings charts, ids }

end Desk

namespace Simulation

variable {s : Simulation α} {t : Tick α}

theorem migrate_closedTrades (s : Simulation α) :
    s.migrate.closedTrades = s.closedTrades ++ s.openTrades.filter (·.isClosed) := rfl

theorem migrate_openTrades (s : Simulation α) :
    s.migrate.openTrades = s.openTrades.filter (·.isOpen) := rfl

/-! ### What a step makes of the open trades -/

theorem tradesLater_closeEach (t : Tick α) (rs : List (Trade α)) :
    TradesLater rs (closeEach t rs).1 := by
  induction rs with
  | nil => exact .nil
  | cons r rs ih =>
    unfold closeEach
    split
    · exact TradesLater.refl (r :: rs)
    · rename_i r' hr'
      exact .cons (Trade.later_of_close hr') ih

/-- Trades cannot all be closed exactly if one of them is closed already. -/
theorem closeEach_fault (t : Tick α) (rs : List (Trade α)) :
    (closeEach t rs).2 = none ↔ ∀ r ∈ rs, r.isClosed = false := by
  induction rs with
  | nil => simp [closeEach]
  | cons r rs ih =>
    unfold closeEach
    split
    · rename_i f hf
      simp [(Trade.close_eq_error.mp hf).1]
    · rename_i r' hr'
      simp [(Trade.close_eq_ok.mp hr').1, ih]

/-- Closing one trade changes no other, and none that was closed. -/
theorem trades_closeTrade (hclosed : ∀ r ∈ s.closedTrades, r.isClosed = true) {id : ℤ}
    {s' : Simulation α} (h : s.closeTrade id t = .ok s') :
    ∃ rs, TradesLater s.openTrades rs ∧ s' = { s with openTrades := rs } := by
  unfold closeTrade at h
  split at h
  · rename_i i _ _ _
    unfold closeAt at h
    split at h
    · simp at h
    · rename_i r hr
      split at h
      · simp at h
      · rename_i r' hr'
        obtain rfl := Except.ok.inj h
        exact ⟨_, tradesLater_set hr (Trade.later_of_close hr'), rfl⟩
  · rename_i i _ _
    unfold closeMovedAt at h
    split at h
    · simp at h
    · rename_i r hr
      split at h
      · simp at h
      · rename_i r' hr'
        have hopen := (Trade.close_eq_ok.mp hr').1
        simp [hclosed r (List.mem_of_getElem? hr)] at hopen
  · obtain rfl := Except.ok.inj h
    exact ⟨s.openTrades, TradesLater.refl _, rfl⟩

/-- Closing all trades fails exactly if one of the open ones is closed and not yet moved. -/
theorem closeAll_eq_ok : (s.closeAll t).2 = .ok () ↔ ∀ r ∈ s.openTrades, r.isClosed = false := by
  rw [← closeEach_fault t, closeAll]
  rcases hclose : closeEach t s.openTrades with ⟨rs, _ | f⟩ <;> simp

theorem allOpen_of_not_closed (h : ∀ r ∈ s.openTrades, r.isClosed = false) : s.AllOpen := by
  intro r hr
  have hclosed := h r hr
  rw [Trade.isClosed, Option.isSome_eq_false_iff] at hclosed
  exact hclosed

/-- Closing all trades closes open ones, and then moves them unless it failed. -/
theorem trades_closeAll (s : Simulation α) (t : Tick α) :
    ∃ rs, TradesLater s.openTrades rs ∧
      ((s.closeAll t).1 = { s with openTrades := rs } ∨
        (s.closeAll t).1 = ({ s with openTrades := rs } : Simulation α).migrate) := by
  refine ⟨_, tradesLater_closeEach t s.openTrades, ?_⟩
  rw [closeAll]
  rcases closeEach t s.openTrades with ⟨rs, _ | f⟩
  · exact .inr rfl
  · exact .inl rfl

/-! ### An account at a later time -/

/-- All trades of an account, the closed ones first. -/
def allTrades (s : Simulation α) : List (Trade α) := s.closedTrades ++ s.openTrades

/-- An account at a later time: its closed trades are those there were and perhaps more, and every trade
is still there. -/
structure Precedes (s s' : Simulation α) : Prop where
  closedTrades : s.closedTrades <+: s'.closedTrades
  allTrades : ∀ r ∈ s.allTrades, ∃ r' ∈ s'.allTrades, r.Later r'

theorem Precedes.refl (s : Simulation α) : s.Precedes s :=
  ⟨List.prefix_rfl, fun r hr => ⟨r, hr, .refl r⟩⟩

theorem Precedes.trans {s' s'' : Simulation α} (h : s.Precedes s') (h' : s'.Precedes s'') :
    s.Precedes s'' where
  closedTrades := h.closedTrades.trans h'.closedTrades
  allTrades := by
    intro r hr
    obtain ⟨r', hr', hlater⟩ := h.allTrades r hr
    obtain ⟨r'', hr'', hlater'⟩ := h'.allTrades r' hr'
    exact ⟨r'', hr'', hlater.trans hlater'⟩

theorem precedes_of_tradesLater {rs : List (Trade α)} (h : TradesLater s.openTrades rs) :
    s.Precedes { s with openTrades := rs } where
  closedTrades := List.prefix_rfl
  allTrades := by
    intro r hr
    rcases List.mem_append.mp hr with hr | hr
    · exact ⟨r, List.mem_append_left _ hr, .refl r⟩
    · obtain ⟨r', hr', hlater⟩ := h.exists_of_mem hr
      exact ⟨r', List.mem_append_right _ hr', hlater⟩

/-- Moving trades changes the order of all trades only. -/
theorem allTrades_migrate (s : Simulation α) : s.migrate.allTrades.Perm s.allTrades := by
  have hopen : (fun r : Trade α => r.isOpen) = fun r => !r.isClosed := by
    funext r
    cases h : r.closing <;> simp [Trade.isOpen, Trade.isClosed, h]
  unfold allTrades
  rw [migrate_closedTrades, migrate_openTrades, hopen, List.append_assoc]
  exact (List.filter_append_perm (·.isClosed) s.openTrades).append_left s.closedTrades

theorem precedes_migrate (s : Simulation α) : s.Precedes s.migrate where
  closedTrades := List.prefix_append _ _
  allTrades := by
    intro r hr
    exact ⟨r, s.allTrades_migrate.mem_iff.mpr hr, .refl r⟩

theorem precedes_openTrade (s : Simulation α) (ids : Ids) (d : Direction) (t : Tick α) :
    s.Precedes (s.openTrade ids d t).2.1 where
  closedTrades := List.prefix_rfl
  allTrades := by
    intro r hr
    refine ⟨r, ?_, .refl r⟩
    have happend : (s.openTrade ids d t).2.1.allTrades =
        s.allTrades ++ [Trade.opened ids.nextTrade d t] := (List.append_assoc _ _ _).symm
    rw [happend]
    exact List.mem_append_left _ hr

end Simulation

/-! ### The trades of a desk -/

namespace Desk

/-- The trades of a desk are those that were opened there, each once, with numbers from a first one on
without gaps. Those among the closed ones are closed, and the others are in the order of their
numbers. -/
structure Keeps (first : ℕ) (opened : List (Trade α)) (k : Desk α) : Prop where
  trades : (k.account.allTrades.map (·.asOpened)).Perm opened
  numbered : opened.map (·.id) = idsFrom first opened.length
  nextTrade : k.ids.nextTrade = first + opened.length
  closed : ∀ r ∈ k.account.closedTrades, r.isClosed = true
  ordered : k.account.openTrades.Pairwise (·.id < ·.id)

variable {first : ℕ} {opened : List (Trade α)} {k : Desk α}

theorem keeps_start [Price α] (id : ℕ) (sample : Sample) (settings : Settings α)
    (charts : List (Chart α)) (ids : Ids) :
    (start id sample settings charts ids).Keeps ids.nextTrade [] :=
  ⟨.nil, rfl, rfl, by simp [start, Simulation.new], .nil⟩

/-- The numbers of the trades are below the next. -/
theorem Keeps.id_lt (h : k.Keeps first opened) {r : Trade α} (hr : r ∈ k.account.allTrades) :
    r.id < k.ids.nextTrade := by
  have hmem : r.asOpened ∈ opened := h.trades.mem_iff.mp (List.mem_map_of_mem hr)
  have hid : r.id ∈ idsFrom first opened.length := by
    rw [← h.numbered]
    exact List.mem_map.mpr ⟨r.asOpened, hmem, rfl⟩
  obtain ⟨n, hn, heq⟩ := List.mem_map.mp hid
  have hlt := (List.mem_range'_1.mp hn).2
  rw [h.nextTrade]
  omega

theorem Keeps.tradesLater (h : k.Keeps first opened) {rs : List (Trade α)}
    (hrs : TradesLater k.account.openTrades rs) :
    Keeps first opened { k with account := { k.account with openTrades := rs } } where
  trades := by
    have hmap : (k.account.closedTrades ++ rs).map (·.asOpened) =
        k.account.allTrades.map (·.asOpened) := by
      rw [Simulation.allTrades, List.map_append, List.map_append, hrs.map_asOpened]
    unfold Simulation.allTrades
    rw [hmap]
    exact h.trades
  numbered := h.numbered
  nextTrade := h.nextTrade
  closed := h.closed
  ordered := by
    have hids := List.pairwise_map.mpr h.ordered
    rw [← hrs.map_id] at hids
    exact List.pairwise_map.mp hids

theorem Keeps.migrate (h : k.Keeps first opened) :
    Keeps first opened { k with account := k.account.migrate } where
  trades := (k.account.allTrades_migrate.map _).trans h.trades
  numbered := h.numbered
  nextTrade := h.nextTrade
  closed := by
    intro r hr
    rcases List.mem_append.mp hr with hr | hr
    · exact h.closed r hr
    · exact (List.mem_filter.mp hr).2
  ordered := h.ordered.filter _

/-- A trade that is opened takes the next number and stands behind the others. -/
theorem Keeps.openTrade (h : k.Keeps first opened) (d : Direction) (t : Tick α) :
    (k.step (.openTrade d t)).1.Keeps first
      (opened ++ [Trade.opened (first + opened.length : ℕ) d t]) where
  trades := by
    have happend : (k.step (.openTrade d t)).1.account.allTrades =
        k.account.allTrades ++ [Trade.opened k.ids.nextTrade d t] := (List.append_assoc _ _ _).symm
    rw [happend, List.map_append, h.nextTrade]
    exact h.trades.append_right _
  numbered := by
    rw [List.length_append, List.length_singleton, idsFrom_succ, ← h.numbered, List.map_append]
    rfl
  nextTrade := by
    rw [List.length_append, List.length_singleton, ← Nat.add_assoc, ← h.nextTrade]
    rfl
  closed := h.closed
  ordered := by
    have hlast : ∀ r ∈ k.account.openTrades, r.id < k.ids.nextTrade :=
      fun r hr => h.id_lt (List.mem_append_right _ hr)
    refine List.pairwise_append.mpr ⟨h.ordered, List.pairwise_singleton _ _, ?_⟩
    intro r hr q hq
    obtain rfl := List.mem_singleton.mp hq
    exact hlast r hr

theorem step_closeAll_eq_ok {t : Tick α} :
    (k.step (.closeAll t)).2 = .ok () ↔ ∀ r ∈ k.account.openTrades, r.isClosed = false := by
  have hstep : (k.step (.closeAll t)).2 = (k.account.closeAll t).2.mapError .trade := rfl
  rw [hstep, ← Simulation.closeAll_eq_ok (t := t)]
  cases (k.account.closeAll t).2 <;> simp [Except.mapError]

/-- Closing all trades fails exactly if one of the open ones is closed and not yet moved. -/
theorem step_closeAll_eq_error {t : Tick α} :
    (∃ f, (k.step (.closeAll t)).2 = .error f) ↔ ∃ r ∈ k.account.openTrades, r.isClosed = true := by
  have hnot : (∃ f, (k.step (.closeAll t)).2 = .error f) ↔ ¬ (k.step (.closeAll t)).2 = .ok () := by
    cases (k.step (.closeAll t)).2 <;> simp
  rw [hnot, step_closeAll_eq_ok]
  simp

/-- What a step opens, if it comes with the next number. -/
theorem opened_concat (first : ℕ) (steps : List (TradeStep α)) (x : TradeStep α) :
    TradeStep.opened first (steps ++ [x]) = TradeStep.opened first steps ++
      TradeStep.opened (first + (TradeStep.opened first steps).length) [x] := by
  induction steps generalizing first with
  | nil => rfl
  | cons y steps ih =>
    cases y with
    | openTrade d t =>
      have hnext : first + 1 + (TradeStep.opened (first + 1) steps).length =
          first + ((TradeStep.opened (first + 1) steps).length + 1) := by omega
      rw [List.cons_append, TradeStep.opened, TradeStep.opened, ih, List.length_cons, hnext]
      rfl
    | _ => exact ih first

/-- Every step keeps the trades, and changes none that is closed. -/
theorem Keeps.step (h : k.Keeps first opened) (x : TradeStep α) :
    (k.step x).1.Keeps first (opened ++ TradeStep.opened (first + opened.length) [x]) ∧
      k.account.Precedes (k.step x).1.account := by
  cases x with
  | openTrade d t => exact ⟨h.openTrade d t, k.account.precedes_openTrade k.ids d t⟩
  | closeTrade id t =>
    simp only [TradeStep.opened, List.append_nil]
    rw [Desk.step]
    split
    · exact ⟨h, .refl _⟩
    · rename_i account haccount
      obtain ⟨rs, hrs, rfl⟩ := Simulation.trades_closeTrade h.closed haccount
      exact ⟨h.tradesLater hrs, Simulation.precedes_of_tradesLater hrs⟩
  | observe t =>
    have hrs : TradesLater k.account.openTrades (k.account.openTrades.map (·.observe t)) :=
      List.forall₂_map_right_iff.mpr (List.forall₂_same.mpr fun r _ => r.later_observe t)
    simp only [TradeStep.opened, List.append_nil]
    exact ⟨h.tradesLater hrs, Simulation.precedes_of_tradesLater hrs⟩
  | migrate =>
    simp only [TradeStep.opened, List.append_nil]
    exact ⟨h.migrate, k.account.precedes_migrate⟩
  | closeAll t =>
    simp only [TradeStep.opened, List.append_nil]
    have hstep : (k.step (.closeAll t)).1 = { k with account := (k.account.closeAll t).1 } := rfl
    obtain ⟨rs, hrs, heq | heq⟩ := k.account.trades_closeAll t
    · rw [hstep, heq]
      exact ⟨h.tradesLater hrs, Simulation.precedes_of_tradesLater hrs⟩
    · rw [hstep, heq]
      exact ⟨(h.tradesLater hrs).migrate,
        (Simulation.precedes_of_tradesLater hrs).trans (Simulation.precedes_migrate _)⟩

theorem keeps_after [Price α] (id : ℕ) (sample : Sample) (settings : Settings α)
    (charts : List (Chart α)) (ids : Ids) (steps : List (TradeStep α)) :
    ((start id sample settings charts ids).after steps).Keeps ids.nextTrade
      (TradeStep.opened ids.nextTrade steps) := by
  induction steps using List.reverseRecOn with
  | nil => exact keeps_start id sample settings charts ids
  | append_singleton steps x ih =>
    rw [after_append, opened_concat]
    exact (ih.step x).1

/-- Whatever follows, the account is one at a later time. -/
theorem Keeps.precedes_after (h : k.Keeps first opened) (steps : List (TradeStep α)) :
    k.account.Precedes (k.after steps).account := by
  induction steps generalizing k opened with
  | nil => exact .refl _
  | cons x steps ih =>
    obtain ⟨hkeeps, hprecedes⟩ := h.step x
    exact hprecedes.trans (ih hkeeps)

/-- Whatever was done at a desk, and whether or not some of it failed, every trade that was opened is there
once. Those among the closed ones are closed and stay there in order, and the others are in the order of
their numbers. Moving leaves only trades there that are open, and so does closing all unless it fails,
which it does exactly if some trade was closed and not yet moved. A trade once closed stays closed at the
same tick and price, with the same profit. -/
theorem trades_kept [Price α] (id : ℕ) (sample : Sample) (settings : Settings α)
    (charts : List (Chart α)) (ids : Ids) (steps more : List (TradeStep α)) :
    let opened := TradeStep.opened ids.nextTrade steps
    let k := (start id sample settings charts ids).after steps
    let k' := (start id sample settings charts ids).after (steps ++ more)
    ((k.account.closedTrades ++ k.account.openTrades).map (·.asOpened)).Perm opened ∧
    (opened.map (·.id)).Nodup ∧
    (∀ r ∈ k.account.closedTrades, r.isClosed = true) ∧
    k.account.closedTrades <+: k'.account.closedTrades ∧
    k.account.openTrades.Pairwise (·.id < ·.id) ∧
    (∀ r ∈ (k.step .migrate).1.account.openTrades, r.isOpen = true) ∧
    (∀ t, (k.step (.closeAll t)).2 = .ok () → (k.step (.closeAll t)).1.account.openTrades = []) ∧
    (∀ r ∈ k.account.closedTrades ++ k.account.openTrades, r.isClosed = true →
      ∃ r' ∈ k'.account.closedTrades ++ k'.account.openTrades, r'.asOpened = r.asOpened ∧
        r'.closing = r.closing ∧ r'.closePrice = r.closePrice ∧ r'.profit = r.profit) ∧
    ∀ t, (∃ f, (k.step (.closeAll t)).2 = .error f) ↔
      ∃ r ∈ k.account.openTrades, r.isClosed = true := by
  intro opened k k'
  have hkeeps : k.Keeps ids.nextTrade opened := keeps_after id sample settings charts ids steps
  have hprecedes : k.account.Precedes k'.account := by
    have hk' : k' = k.after more := after_append _ steps more
    rw [hk']
    exact hkeeps.precedes_after more
  refine ⟨hkeeps.trades, ?_, hkeeps.closed, hprecedes.closedTrades, hkeeps.ordered,
    k.account.allOpen_migrate, ?_, ?_, ?_⟩
  · rw [hkeeps.numbered]
    exact nodup_idsFrom _ _
  · intro t hok
    have hopen : k.account.AllOpen :=
      Simulation.allOpen_of_not_closed (step_closeAll_eq_ok.mp hok)
    have hstep : (k.step (.closeAll t)).1.account = (k.account.closeAll t).1 := rfl
    rw [hstep, Simulation.closeAll_of_allOpen hopen]
  · intro r hr hclosed
    obtain ⟨r', hr', hlater⟩ := hprecedes.allTrades r hr
    exact ⟨r', hr', hlater.asOpened, hlater.closing hclosed, hlater.settled hclosed⟩
  · intro t
    exact step_closeAll_eq_error

/-- One of three trades is closed. Closing all closes the first and stops there; moving and closing all
again settles the third. -/
example [Price α] (settings : Settings α) (t : Tick α) :
    let k := (start 1 .inSample settings [] .first).after
      [.openTrade .long t, .openTrade .short t, .openTrade .long t, .closeTrade 2 t, .closeAll t]
    (k.account.openTrades.map fun r => (r.id, r.isOpen)) = [(1, false), (2, false), (3, true)] ∧
      (k.after [.migrate, .closeAll t]).account.closedTrades.map (·.id) = [1, 2, 3] :=
  ⟨rfl, rfl⟩

end Desk

end Backtest
