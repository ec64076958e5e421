import Backtest.Proofs.Breach
import Backtest.Proofs.HighWater
import Backtest.Proofs.TradeHistory

/-!
# Money is neither made nor lost by closing

A trade that is closed at the latest tick that it has seen is worth what it was worth while it was open.
A pass closes its trades at no other tick. So closing them all moves what was floating into the balance,
and the equity stays. What a trade costs is the spread, and it costs that when it is opened.

* `Trade.profit_closedAt`, one trade; `Simulation.ClosesEvenly`, all trades of an account;
* `Pass.Closes`, every way in which a pass comes to close its trades; `Pass.Closes.evenly`, it does so
  evenly over any prices;
* `Simulation.adjust_add`, `Simulation.adjust_sum`, amounts in exact arithmetic;
  `Simulation.ClosesEvenly.conserves`, `Simulation.equity_openTrade`, the account there;
* `Pass.money_conserved`, the main statement.
-/

namespace Backtest

/-! ### Trades at the latest tick -/

section

variable {α : Type}

/-- The latest tick of a trade is the last of all its ticks. -/
theorem Trade.getLast?_ticks (r : Trade α) : r.ticks.getLast? = some r.latest := by
  simp [ticks, latest, List.getLast?_cons, List.headD_eq_head?_getD]

/-- A trade is worth the same before and after it is closed at the latest tick that it has seen. -/
theorem Trade.profit_closedAt [Price α] {r : Trade α} {t : Tick α} (hopen : r.isOpen = true)
    (hlatest : r.latest = t) : (r.closedAt t).profit = r.profit := by
  rw [isOpen, Option.isNone_iff_eq_none] at hopen
  rw [profit, profit, hopen, Option.getD_none, hlatest]
  rfl

/-- An account becomes another by closing all its trades at a tick. Each of them has seen the tick as its
latest and is worth the same before and after, and they are moved behind the closed ones. -/
structure Simulation.ClosesEvenly [Price α] (s : Simulation α) (t : Tick α) (s' : Simulation α) :
    Prop where
  isOpen : ∀ r ∈ s.openTrades, r.isOpen = true
  latest : ∀ r ∈ s.openTrades, r.latest = t
  profit : ∀ r ∈ s.openTrades, (r.closedAt t).profit = r.profit
  closeAll : s.closeAll t = (s', .ok ())
  after : s' = { s with
    openTrades := []
    closedTrades := s.closedTrades ++ s.openTrades.map (·.closedAt t) }

theorem Simulation.closesEvenly_of_latest [Price α] {s : Simulation α} {t : Tick α} (hopen : s.AllOpen)
    (hlatest : ∀ r ∈ s.openTrades, r.latest = t) : s.ClosesEvenly t (s.closeAll t).1 where
  isOpen := hopen
  latest := hlatest
  profit r hr := Trade.profit_closedAt (hopen r hr) (hlatest r hr)
  closeAll := by rw [closeAll_of_allOpen hopen]
  after := by rw [closeAll_of_allOpen hopen]

end

/-! ### Where a pass closes its trades -/

namespace Pass

section

variable {α : Type} [Price α] {strategy : Strategy α} {s account after : Simulation α} {ids : Ids}
  {window : List (Tick α)} {parameters : Parameters} {t : Tick α}

/-- A pass closes all open trades of an account at a tick, which leaves another account: the one it goes on
with if the strategy decided so when it was asked at the tick; the one that is left of the whole pass if
the account has fallen too far at the tick, or if the tick is the last and did not end the pass. -/
inductive Closes (strategy : Strategy α) (s : Simulation α) (ids : Ids) (window : List (Tick α))
    (parameters : Parameters) : Simulation α → Tick α → Simulation α → Prop
  | decided {k : ℕ} {p : PassState α strategy.Memory} {t : Tick α}
      (hreaches : Reaches strategy s ids window parameters k p t)
      (hgo : (p.advance t).simulation.exceeded = false)
      (hfull : (p.advance t).simulation.canTrade = true)
      (hanswer : ((p.advance t).ask strategy.onTick t).2 = .ok .closeAll) :
      Closes strategy s ids window parameters (p.advance t).simulation t
        (((p.advance t).ask strategy.onTick t).1.carryOut t .closeAll).1.simulation
  | breached {k : ℕ} {p : PassState α strategy.Memory} {t : Tick α}
      (hreaches : Reaches strategy s ids window parameters k p t)
      (hexceeded : (p.advance t).simulation.exceeded = true) :
      Closes strategy s ids window parameters (p.advance t).simulation t
        (run strategy s ids window parameters).simulation
  | finished {memory : strategy.Memory} {first last : Tick α} {p : PassState α strategy.Memory}
      (hsetup : strategy.setup parameters strategy.fresh = .ok memory)
      (hfirst : window.head? = some first)
      (hwalk : walk strategy.onTick window first (begun strategy s ids parameters memory) =
        (p, last, .finished)) :
      Closes strategy s ids window parameters p.simulation last
        (run strategy s ids window parameters).simulation

/-- At a tick that a pass comes to, the open trades have just seen it. -/
theorem Reaches.evenly {k : ℕ} {p : PassState α strategy.Memory}
    (h : Reaches strategy s ids window parameters k p t) (hopen : s.AllOpen) :
    (p.advance t).simulation.ClosesEvenly t ((p.advance t).simulation.closeAll t).1 := by
  refine Simulation.closesEvenly_of_latest (p.allOpen_advance t) fun r hr => ?_
  rw [(PassState.trades_advance (h.stands hopen).1 t).1] at hr
  obtain ⟨q, -, rfl⟩ := List.mem_map.mp hr
  exact q.latest_observe t

/-- The open trades of a pass have seen the tick at which it comes to close them. -/
theorem Closes.evenly (h : Closes strategy s ids window parameters account t after)
    (hopen : s.openTrades = []) (hclosed : s.closedTrades = []) : account.ClosesEvenly t after := by
  have hallOpen : s.AllOpen := by simp [Simulation.AllOpen, hopen]
  cases h with
  | decided hreaches => exact hreaches.evenly hallOpen
  | breached hreaches hexceeded =>
    rw [hreaches.run_eq hexceeded]
    exact hreaches.evenly hallOpen
  | @finished memory first last p hsetup hfirst hwalk =>
    -- behind the last tick every open trade has seen a stretch that ends with it
    obtain ⟨rest, rfl⟩ := List.head?_eq_some_iff.mp hfirst
    have hbegun := orderly_begun strategy hopen hclosed ids parameters memory
    obtain ⟨passed, -, horderly, hlast⟩ := hbegun.walk strategy.onTick first rest first
    rw [hwalk, List.nil_append] at horderly
    rw [hwalk] at hlast
    rw [run_of_setup hsetup]
    simp only [hwalk]
    refine Simulation.closesEvenly_of_latest horderly.allOpen fun r hr => ?_
    have hseen := (horderly.following r hr).getLast?_ticks
    rw [r.getLast?_ticks, hlast] at hseen
    exact Option.some.inj hseen

end

end Pass

/-! ### Exact arithmetic -/

theorem Price.sum_exact (xs : List ℚ) : Price.sum xs = xs.sum := by
  rw [List.sum_eq_foldl]
  simp [Price.sum, Price.zero, Price.ofNat]

/-- A trade is bought at the ask and sold at the bid, so it opens with the spread lost. -/
theorem Trade.profit_opened (id : ℤ) (d : Direction) (t : Tick ℚ) :
    (opened id d t).profit = -(t.spread * 10000) := by
  have hpips : (opened id d t).profit = t.bid * 10000 - t.ask * 10000 := by cases d <;> rfl
  rw [hpips, Tick.spread]
  ring

namespace Simulation

theorem totalProfit_append (rs qs : List (Trade ℚ)) :
    totalProfit (rs ++ qs) = totalProfit rs + totalProfit qs := by
  simp [totalProfit, Price.sum_exact]

variable (s : Simulation ℚ)

theorem adjust_exact (x : ℚ) : s.adjust x = if s.settings.jpyQuote then x / 100 else x := rfl

theorem adjust_add (x y : ℚ) : s.adjust (x + y) = s.adjust x + s.adjust y := by
  rw [adjust_exact, adjust_exact, adjust_exact]
  split
  · ring
  · rfl

theorem adjust_zero : s.adjust 0 = 0 := by
  rw [adjust_exact]
  split <;> simp

theorem adjust_sum (xs : List ℚ) : s.adjust xs.sum = (xs.map s.adjust).sum := by
  induction xs with
  | nil => exact s.adjust_zero
  | cons x xs ih => rw [List.sum_cons, adjust_add, ih, List.map_cons, List.sum_cons]

/-- Closing the trades moves what was floating into the balance. -/
theorem ClosesEvenly.conserves {s s' : Simulation ℚ} {t : Tick ℚ} (h : s.ClosesEvenly t s') :
    s'.balance = s.equity ∧ s'.equity = s.equity := by
  have hprofits : totalProfit (s.openTrades.map (·.closedAt t)) = totalProfit s.openTrades := by
    rw [totalProfit, totalProfit, List.map_map]
    exact congrArg Price.sum (List.map_congr_left h.profit)
  have hbalance : s'.balance = s.equity := by
    rw [h.after]
    calc s.settings.deposit + s.adjust (totalProfit (s.closedTrades ++ s.openTrades.map (·.closedAt t)))
        = s.settings.deposit + s.adjust (totalProfit s.closedTrades + totalProfit s.openTrades) := by
          rw [totalProfit_append, hprofits]
      _ = s.equity := by rw [adjust_add, equity, balance, add_assoc]
  have hnone : s'.openTrades = [] := by rw [h.after]
  refine ⟨hbalance, ?_⟩
  calc s'.equity
      = s'.balance + s'.adjust 0 := by rw [equity, hnone]; rfl
    _ = s.equity := by rw [adjust_zero, add_zero, hbalance]

/-- Opening a trade costs the spread. -/
theorem equity_openTrade (ids : Ids) (d : Direction) (t : Tick ℚ) :
    (s.openTrade ids d t).2.1.equity = s.equity - s.adjust (t.spread * 10000) := by
  have hcost : totalProfit [Trade.opened (ids.trade.1 : ℤ) d t] = -(t.spread * 10000) := by
    rw [totalProfit, List.map_singleton, Price.sum_exact, List.sum_singleton, Trade.profit_opened]
  calc (s.openTrade ids d t).2.1.equity
      = s.balance + s.adjust (totalProfit (s.openTrades ++ [Trade.opened (ids.trade.1 : ℤ) d t])) := rfl
    _ = s.equity + s.adjust (-(t.spread * 10000)) := by
        rw [totalProfit_append, hcost, adjust_add, equity, add_assoc]
    _ = s.equity - s.adjust (t.spread * 10000) := by
        have hzero := s.adjust_add (t.spread * 10000) (-(t.spread * 10000))
        rw [add_neg_cancel, adjust_zero] at hzero
        linarith

/-- The score of an account, times the number of its trades, is what they made together. -/
theorem expectancy_exact {s : Simulation ℚ} {score : Score ℚ} (h : s.expectancy = .ok score) :
    s.openTrades = [] ∧ (s.closedTrades ≠ [] → ∃ x, score = .expectancy x ∧
      s.closedTrades.length * x = (s.closedTrades.map fun r => s.adjust r.profit).sum) := by
  have hopen : s.openTrades = [] := by
    by_contra hne
    simp [expectancy, hne] at h
  refine ⟨hopen, fun hclosed => ?_⟩
  have hscore : score = .expectancy (s.profit / s.closedTrades.length) := by
    simp only [expectancy, hopen, List.isEmpty_nil, Bool.not_true, Bool.false_eq_true, if_false,
      List.isEmpty_iff, hclosed] at h
    exact (Except.ok.inj h).symm
  have hlength : (s.closedTrades.length : ℚ) ≠ 0 := by simp [hclosed]
  refine ⟨_, hscore, ?_⟩
  calc s.closedTrades.length * (s.profit / s.closedTrades.length)
      = s.adjust (totalProfit s.closedTrades) := by
        rw [mul_div_cancel₀ _ hlength, profit, balance, add_sub_cancel_left]
    _ = (s.closedTrades.map fun r => s.adjust r.profit).sum := by
        rw [totalProfit, Price.sum_exact, adjust_sum, List.map_map]
        rfl

end Simulation

/-! ### Whole passes -/

namespace Pass

/-- A pass with a score went through all its ticks, and the score is that of the account that it leaves. -/
theorem finished_of_scored {α : Type} [Price α] {strategy : Strategy α} {s : Simulation α} {ids : Ids}
    {parameters : Parameters} {memory : strategy.Memory} {first : Tick α} {rest : List (Tick α)}
    {score : Score α} (hsetup : strategy.setup parameters strategy.fresh = .ok memory) (hopen : s.AllOpen)
    (h : (run strategy s ids (first :: rest) parameters).result = .ok (.scored score)) :
    (run strategy s ids (first :: rest) parameters).simulation.expectancy = .ok score ∧
      ∃ p last, walk strategy.onTick (first :: rest) first (begun strategy s ids parameters memory) =
        (p, last, .finished) := by
  have hwalked := allOpen_walk strategy.onTick (first :: rest) first
    (p := begun strategy s ids parameters memory) hopen
  rw [run_of_setup hsetup] at h ⊢
  rcases hwalk : walk strategy.onTick (first :: rest) first
    (begun strategy s ids parameters memory) with ⟨p, last, stop⟩
  rw [hwalk] at h hwalked
  have hclose : (p.simulation.closeAll last).2 = .ok () := by
    rw [Simulation.closeAll_of_allOpen hwalked]
  obtain ⟨hleft, hverdict⟩ := result_eq_ok hclose h
  rcases hverdict with ⟨-, hv⟩ | ⟨rfl, x, hx, hv⟩
  · cases hv
  · obtain rfl := Verdict.scored.inj hv
    exact ⟨(congrArg Simulation.expectancy hleft).trans hx, p, last, rfl⟩

/-- Wherever a pass comes to close its trades, over whatever prices, each of them is worth exactly the
same before and after. In exact arithmetic closing them leaves the equity as it was, and the balance
becomes equal to it; opening a trade costs the spread in pips; and the score of a pass with trades, times
their number, is what these made together. -/
theorem money_conserved :
    (∀ {α : Type} [Price α] (strategy : Strategy α) (s : Simulation α) (ids : Ids)
      (window : List (Tick α)) (parameters : Parameters) (account after : Simulation α) (t : Tick α),
      s.openTrades = [] → s.closedTrades = [] →
      Closes strategy s ids window parameters account t after → account.ClosesEvenly t after) ∧
    (∀ (strategy : Strategy ℚ) (s : Simulation ℚ) (ids : Ids) (window : List (Tick ℚ))
      (parameters : Parameters), s.openTrades = [] → s.closedTrades = [] →
      (∀ account t after, Closes strategy s ids window parameters account t after →
        after.balance = account.equity ∧ after.equity = account.equity) ∧
      let o := run strategy s ids window parameters
      ∀ score, o.result = .ok (.scored score) →
        o.simulation.openTrades = [] ∧
        o.simulation.closedTrades.length = openings o.calls.toList ∧
        (o.simulation.closedTrades ≠ [] → ∃ x, score = .expectancy x ∧
          o.simulation.closedTrades.length * x =
            (o.simulation.closedTrades.map fun r => o.simulation.adjust r.profit).sum)) ∧
    ∀ (account : Simulation ℚ) (ids : Ids) (d : Direction) (t : Tick ℚ),
      (account.openTrade ids d t).2.1.equity =
        account.equity - if account.settings.jpyQuote then t.spread * 10000 / 100 else t.spread * 10000 := by
  refine ⟨fun strategy s ids window parameters account after t hopen hclosed h =>
    h.evenly hopen hclosed, fun strategy s ids window parameters hopen hclosed =>
    ⟨fun account t after h => ?_, ?_⟩, ?_⟩
  · exact (h.evenly hopen hclosed).conserves
  · intro o score hscore
    have hallOpen : s.AllOpen := by simp [Simulation.AllOpen, hopen]
    obtain ⟨first, rest, memory, rfl, hsetup⟩ := exists_of_result hscore
    obtain ⟨hnone, hsum⟩ := Simulation.expectancy_exact (finished_of_scored hsetup hallOpen hscore).1
    have haccounted := run_accounted strategy hopen hclosed ids (first :: rest) parameters
    have hlength := congrArg List.length (haccounted.numbered _ hscore)
    exact ⟨hnone, by simpa [idsFrom] using hlength, hsum⟩
  · intro account ids d t
    rw [account.equity_openTrade, account.adjust_exact]

/-- A pass that buys, closes its trade at the third tick and sells at the fourth, behind which there is
one more, makes two trades. -/
theorem money_conserved_twoTrades :
    let quote (bid ask : ℚ) : Tick ℚ := { time := .ofMoment .epoch, bid, ask }
    let window := [quote 1 (10001 / 10000), quote 1 (10002 / 10000), quote (10010 / 10000) (10011 / 10000),
      quote 1 (10001 / 10000), quote (9999 / 10000) 1]
    let strategy := Strategy.ofAnswers ℚ [.text "long", .null, .text "close", .text "short"]
    let account : Simulation ℚ :=
      .new 1 .inSample { deposit := 10000, drawdownLimit := -10, jpyQuote := false } []
    let o := run strategy account .first window []
    (∃ x, o.result = .ok (.scored (.expectancy x)) ∧
      2 * x = (o.simulation.closedTrades.map fun r => o.simulation.adjust r.profit).sum) ∧
    ∃ left t, Closes strategy account .first window [] left t o.simulation ∧ left.openTrades ≠ [] ∧
      left.ClosesEvenly t o.simulation ∧
      o.simulation.balance = left.equity ∧ o.simulation.equity = left.equity := by
  intro quote window strategy account o
  obtain ⟨hevenly, hexact, -⟩ := money_conserved
  obtain ⟨hcloses, hscored⟩ := hexact strategy account .first window [] rfl rfl
  have hrun : (o.result.toOption.map fun v => Verdict.casesOn (motive := fun _ => Bool) v false
        fun _ => true) = some true ∧
      o.simulation.closedTrades.length = 2 := by
    decide +kernel
  have hleft : (walk strategy.onTick window (quote 1 (10001 / 10000))
      (begun strategy account .first [] strategy.fresh)).1.simulation.openTrades.length = 1 := by
    decide +kernel
  obtain ⟨hresult, htwo⟩ := hrun
  obtain ⟨v, hv, hscore⟩ := Option.map_eq_some_iff.mp hresult
  have hv := toOption_eq_some.mp hv
  cases v with
  | breached => cases hscore
  | scored score =>
    constructor
    · obtain ⟨-, -, hsum⟩ := hscored score hv
      obtain ⟨x, rfl, hx⟩ := hsum (List.ne_nil_of_length_pos (by rw [htwo]; decide))
      rw [htwo] at hx
      exact ⟨x, hv, hx⟩
    · have hsetup : strategy.setup [] strategy.fresh = .ok strategy.fresh := rfl
      obtain ⟨-, p, last, hwalk⟩ :=
        finished_of_scored hsetup (Simulation.allOpen_new _ _ _ _) hv
      have hhere : Closes strategy account .first window [] p.simulation last o.simulation :=
        .finished rfl rfl hwalk
      rw [hwalk] at hleft
      exact ⟨p.simulation, last, hhere, List.ne_nil_of_length_pos (by rw [hleft]; decide),
        hevenly strategy account .first window [] _ _ last rfl rfl hhere, hcloses _ _ _ hhere⟩

end Pass

end Backtest
