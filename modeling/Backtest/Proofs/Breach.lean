import Backtest.Proofs.Settlement

/-!
# Where a pass is given up

A pass is given up at the first tick at which its account has fallen too far. What comes behind that
tick is not read: with any ticks there the pass is the same and leaves the same in the books.

* `Pass.Reaches`, a pass comes to a tick of its window; `Pass.exists_reaches_iff`, the ticks that it
  comes to are those that it processes; `Pass.Reaches.of_take`, coming to a tick depends on the ticks
  up to it;
* `Pass.walk_of_exceeded`, the ticks of a pass that comes to a tick at which it is given up;
  `Pass.exists_of_walk_breached`, the tick at which a pass was given up;
* `Pass.Reaches.run_eq`, the whole pass then;
* `Books.breach_decided`, the main statement.
-/

namespace Backtest

namespace Pass

section

variable {α Memory : Type} [Price α]
  {onTick : MarketView α → Memory → Except Fault Decision × Memory} {ts : List (Tick α)}
  {t last last' : Tick α} {p₀ p q : PassState α Memory} {k : ℕ}

/-- The ticks of a pass behind the first `k` of them. -/
theorem walk_of_take (ht : ts[k]? = some t)
    (hwalk : walk onTick (ts.take k) last p₀ = (p, last', .finished)) :
    walk onTick ts last p₀ = walk onTick (t :: ts.drop (k + 1)) last' p := by
  obtain ⟨hk, rfl⟩ := List.getElem?_eq_some_iff.mp ht
  calc walk onTick ts last p₀
      = walk onTick (ts.take k ++ ts[k] :: ts.drop (k + 1)) last p₀ := by
        rw [List.getElem_cons_drop, List.take_append_drop]
    _ = walk onTick (ts[k] :: ts.drop (k + 1)) last' p := by rw [walk_append, hwalk]

/-- Ticks are gone through up to one at which the account has fallen too far. -/
theorem walk_of_exceeded (ht : ts[k]? = some t)
    (hwalk : walk onTick (ts.take k) last p₀ = (p, last', .finished))
    (hexceeded : (p.advance t).simulation.exceeded = true) :
    walk onTick ts last p₀ = (p.advance t, t, .breached) := by
  rw [walk_of_take ht hwalk, walk_cons]
  exact if_pos hexceeded

/-- Ticks that end with a breach come to a tick at which the account has fallen too far. -/
theorem exists_of_walk_breached (h : walk onTick ts last p₀ = (q, last', .breached)) :
    ∃ k p t before, ts[k]? = some t ∧
      walk onTick (ts.take k) last p₀ = (p, before, .finished) ∧
      (p.advance t).simulation.exceeded = true := by
  induction ts generalizing last p₀ with
  | nil => simp [walk] at h
  | cons t ts ih =>
    rw [walk_cons_turn] at h
    simp only at h
    split at h
    · rename_i stop hstop
      obtain ⟨-, -, rfl⟩ : _ ∧ _ ∧ stop = .breached := by simpa using h
      obtain ⟨-, haccount, -⟩ := PassState.turn_shown onTick p₀ t
      have hexceeded := (Turn.breached_of_stop? hstop (.inl rfl)).2
      exact ⟨0, p₀, t, last, rfl, rfl, haccount ▸ hexceeded⟩
    · rename_i hstop
      obtain ⟨k, p, u, before, hu, hwalk, hexceeded⟩ := ih h
      refine ⟨k + 1, p, u, before, hu, ?_, hexceeded⟩
      rw [List.take_succ_cons, walk_cons_turn]
      simp only [hstop]
      exact hwalk

end

section

variable {α : Type} [Price α] {strategy : Strategy α} {s : Simulation α} {ids : Ids}
  {window window' : List (Tick α)} {parameters : Parameters} {k : ℕ}
  {p : PassState α strategy.Memory} {t : Tick α}

/-- A pass comes to the tick of its window at place `k`, and stands at `p` there: it was set up, and
none of the ticks before has ended it. -/
def Reaches (strategy : Strategy α) (s : Simulation α) (ids : Ids) (window : List (Tick α))
    (parameters : Parameters) (k : ℕ) (p : PassState α strategy.Memory) (t : Tick α) : Prop :=
  window[k]? = some t ∧ ∃ memory first last,
    strategy.setup parameters strategy.fresh = .ok memory ∧ window.head? = some first ∧
    walk strategy.onTick (window.take k) first (begun strategy s ids parameters memory) =
      (p, last, .finished)

/-- Whether a pass comes to a tick depends on the ticks up to it alone. -/
theorem Reaches.of_take (h : Reaches strategy s ids window parameters k p t)
    (hwindow : window'.take (k + 1) = window.take (k + 1)) :
    Reaches strategy s ids window' parameters k p t := by
  obtain ⟨ht, memory, first, last, hsetup, hfirst, hwalk⟩ := h
  have htake : window'.take k = window.take k := by
    have := congrArg (List.take k) hwindow
    rwa [List.take_take, List.take_take, Nat.min_eq_left (Nat.le_succ k)] at this
  have hhead : window'.head? = window.head? := by
    simpa [List.head?_take] using congrArg List.head? hwindow
  refine ⟨?_, memory, first, last, hsetup, hhead.trans hfirst, htake ▸ hwalk⟩
  rw [← List.getElem?_take_of_lt (Nat.lt_succ_self k), hwindow,
    List.getElem?_take_of_lt (Nat.lt_succ_self k), ht]

/-- Where a pass stands that comes to a tick. -/
theorem Reaches.stands (h : Reaches strategy s ids window parameters k p t) (hopen : s.AllOpen) :
    p.simulation.AllOpen ∧ p.simulation.settings = s.settings ∧ p.processed = k := by
  obtain ⟨ht, memory, first, last, -, -, hwalk⟩ := h
  have hstart : (begun strategy s ids parameters memory).simulation.AllOpen := hopen
  have hallOpen := allOpen_walk strategy.onTick (window.take k) first hstart
  obtain ⟨turns, hrecorded, hended⟩ := exists_recorded_walk strategy.onTick (window.take k) first
    (begun strategy s ids parameters memory)
  rw [hwalk] at hallOpen hrecorded hended
  have hlength := congrArg List.length hended.ticks_of_finished
  have hk : k < window.length := (List.getElem?_eq_some_iff.mp ht).1
  rw [List.length_map, List.length_take_of_le (Nat.le_of_lt hk)] at hlength
  refine ⟨hallOpen, hrecorded.settings, ?_⟩
  rw [hrecorded.processed, hlength]
  exact Nat.zero_add k

/-- A pass that comes to a tick at which the account has fallen too far is given up there. -/
theorem Reaches.run_eq (h : Reaches strategy s ids window parameters k p t)
    (hexceeded : (p.advance t).simulation.exceeded = true) :
    run strategy s ids window parameters = outcome strategy (settle (p.advance t) t .breached) := by
  obtain ⟨ht, memory, first, last, hsetup, hfirst, hwalk⟩ := h
  obtain ⟨rest, rfl⟩ := List.head?_eq_some_iff.mp hfirst
  rw [run_of_setup hsetup]
  simp only [walk_of_exceeded ht hwalk hexceeded]

/-- What is left of a pass that was given up at a tick: the strategy was not asked at it, and every
trade that was open when it came has seen it and is closed at it. -/
theorem Reaches.given_up (h : Reaches strategy s ids window parameters k p t) (hopen : s.AllOpen)
    (hexceeded : (p.advance t).simulation.exceeded = true) :
    let o := run strategy s ids window parameters
    o.processed = k + 1 ∧ o.calls = p.calls.push .teardown ∧ o.simulation.openTrades = [] ∧
      o.simulation.closedTrades = p.simulation.closedTrades ++
        p.simulation.openTrades.map (fun r => (r.observe t).closedAt t) := by
  obtain ⟨hallOpen, -, hprocessed⟩ := h.stands hopen
  have hclosed := Simulation.closeAll_of_allOpen (p.allOpen_advance t) t
  obtain ⟨hobserved, hbefore⟩ := PassState.trades_advance hallOpen t
  rw [h.run_eq hexceeded, ← hprocessed]
  refine ⟨rfl, rfl, ?_, ?_⟩
  · rw [outcome, settle, hclosed]
  · rw [outcome, settle, hclosed, hobserved, hbefore, List.map_map]
    rfl

/-- A pass that is given up at a tick does not read the ticks behind it. -/
theorem Reaches.run_append (h : Reaches strategy s ids window parameters k p t)
    (hexceeded : (p.advance t).simulation.exceeded = true) (us : List (Tick α)) :
    run strategy s ids (window.take (k + 1) ++ us) parameters =
      run strategy s ids (window.take (k + 1)) parameters := by
  have hlength : (window.take (k + 1)).length = k + 1 :=
    List.length_take_of_le (List.getElem?_eq_some_iff.mp h.1).1
  have hlater (later : List (Tick α)) :
      Reaches strategy s ids (window.take (k + 1) ++ later) parameters k p t :=
    h.of_take (List.take_left' hlength)
  have hnone := (hlater []).run_eq hexceeded
  rw [List.append_nil] at hnone
  rw [(hlater us).run_eq hexceeded, hnone]

/-- The ticks that a pass comes to are those that it processes. -/
theorem exists_reaches_iff (hopen : s.AllOpen) :
    (∃ p t, Reaches strategy s ids window parameters k p t) ↔
      k < (run strategy s ids window parameters).processed := by
  cases window with
  | nil => simp [Reaches, run]
  | cons first rest =>
    cases hsetup : strategy.setup parameters strategy.fresh with
    | error f => simp [Reaches, run, hsetup]
    | ok memory =>
      rw [run_of_setup hsetup]
      simp only [outcome, (settle_kept _ _ _).2]
      constructor
      · rintro ⟨p, t, h⟩
        obtain ⟨-, -, hprocessed⟩ := h.stands hopen
        obtain ⟨ht, memory', first', last, hsetup', hfirst, hwalk⟩ := h
        obtain rfl := Except.ok.inj (hsetup.symm.trans hsetup')
        obtain rfl := Option.some.inj hfirst
        rw [walk_of_take ht hwalk]
        obtain ⟨turns, hrecorded, hended⟩ :=
          exists_recorded_walk strategy.onTick (t :: (first :: rest).drop (k + 1)) last p
        have hpos := List.length_pos_of_ne_nil hended.ne_nil
        rw [hrecorded.processed]
        omega
      · intro hk
        obtain ⟨p, last, t, hwalk, ht⟩ :=
          exists_walk_take strategy.onTick (p := begun strategy s ids parameters memory)
            ((Nat.zero_add k).symm ▸ hk)
        exact ⟨p, t, ht, memory, first, last, hsetup, rfl, hwalk⟩

/-- A pass that has a result was given up if and only if it came to a tick at which the account has
fallen too far. -/
theorem breached_iff (hopen : s.AllOpen) {v : Verdict α}
    (h : (run strategy s ids window parameters).result = .ok v) :
    v = .breached ↔ ∃ k p t, Reaches strategy s ids window parameters k p t ∧
      (p.advance t).simulation.exceeded = true := by
  constructor
  · rintro rfl
    obtain ⟨first, rest, memory, rfl, hsetup⟩ := exists_of_result h
    have hstart : (begun strategy s ids parameters memory).simulation.AllOpen := hopen
    have hwalked := allOpen_walk strategy.onTick (first :: rest) first hstart
    rw [run_of_setup hsetup] at h
    rcases hwalk : walk strategy.onTick (first :: rest) first
      (begun strategy s ids parameters memory) with ⟨q, last, stop⟩
    rw [hwalk] at hwalked h
    obtain rfl := (stop_of_result hwalked h).2.mp rfl
    obtain ⟨k, p, t, before, ht, hp, hexceeded⟩ := exists_of_walk_breached hwalk
    exact ⟨k, p, t, ⟨ht, memory, first, before, hsetup, rfl, hp⟩, hexceeded⟩
  · rintro ⟨k, p, t, hreaches, hexceeded⟩
    rw [hreaches.run_eq hexceeded] at h
    exact (stop_of_result (p.allOpen_advance t) h).2.mpr rfl

end

end Pass

/-- A pass that has a result was given up if and only if it came to a tick at which its account has
fallen too far. Then it processed no tick behind that one, and the strategy was not asked at it;
every trade that was open when it came has seen it and is closed at it; and with any ticks behind it
the pass is the same and leaves the same books. -/
theorem Books.breach_decided (books : Books) (strategy : Strategy Float) (settings : Settings Float)
    (charts : List (Chart Float)) (sample : Sample) (window : List (Tick Float))
    (parameters : Parameters) {v : Verdict Float}
    (h : (books.execute strategy settings charts sample window parameters).1.result = .ok v) :
    let o := (books.execute strategy settings charts sample window parameters).1
    let Reaches := Pass.Reaches strategy (.new books.ids.nextSimulation sample settings charts)
      books.ids.simulation.2 window parameters
    let Breaches (p : PassState Float strategy.Memory) (t : Tick Float) : Prop :=
      (p.advance t).simulation.drawdown.deepest < settings.drawdownLimit
    (∀ k, k < o.processed ↔ ∃ p t, Reaches k p t) ∧
    (v = .breached ↔ ∃ j p t, Reaches j p t ∧ Breaches p t) ∧
    ∀ j p t, Reaches j p t → Breaches p t →
      o.processed = j + 1 ∧
      o.calls = p.calls.push .teardown ∧
      o.simulation.openTrades = [] ∧
      o.simulation.closedTrades = p.simulation.closedTrades ++
        p.simulation.openTrades.map (fun r => (r.observe t).closedAt t) ∧
      ∀ us, books.execute strategy settings charts sample (window.take (j + 1) ++ us) parameters =
        books.execute strategy settings charts sample (window.take (j + 1)) parameters := by
  intro o Reaches Breaches
  have hopen := Simulation.allOpen_new books.ids.nextSimulation sample settings charts
  have hbreaches {k : ℕ} {p : PassState Float strategy.Memory} {t : Tick Float}
      (hreaches : Reaches k p t) : Breaches p t ↔ (p.advance t).simulation.exceeded = true := by
    have hsettings : (p.advance t).simulation.settings = settings := (hreaches.stands hopen).2.1
    rw [Simulation.exceeded, decide_eq_true_iff, hsettings]
  refine ⟨fun k => (Pass.exists_reaches_iff hopen).symm, ?_, ?_⟩
  · rw [Pass.breached_iff hopen h]
    refine exists_congr fun j => exists_congr fun p => exists_congr fun t => ?_
    exact and_congr_right fun hreaches => (hbreaches hreaches).symm
  · intro j p t hreaches hbreach
    have hexceeded := (hbreaches hreaches).mp hbreach
    obtain ⟨hprocessed, hcalls, hnone, hclosed⟩ := hreaches.given_up hopen hexceeded
    refine ⟨hprocessed, hcalls, hnone, hclosed, fun us => ?_⟩
    have hexecute (ts : List (Tick Float)) :
        books.execute strategy settings charts sample ts parameters =
          let q := Pass.run strategy (.new books.ids.nextSimulation sample settings charts)
            books.ids.simulation.2 ts parameters
          (q, books.enter q) := rfl
    rw [hexecute, hexecute, hreaches.run_append hexceeded us]

/-- A pass that buys at the first of falling prices is given up at the second, whatever follows. -/
theorem Books.breach_decided_falling :
    let settings : Settings Float := { deposit := 10000, drawdownLimit := -10, jpyQuote := false }
    let pass (ts : List (Tick Float)) := new.execute .buyer settings [] .inSample ts []
    let window := (dailyTicks newYear 5).reverse
    (pass window).1.result = .ok .breached ∧ (pass window).1.processed = 2 ∧
      (pass window).1.simulation.closedTrades.length = 1 ∧
      ∃ p t, Pass.Reaches .buyer (.new 1 .inSample settings []) Ids.first.simulation.2 window [] 1 p
          t ∧
        (p.advance t).simulation.drawdown.deepest < settings.drawdownLimit ∧
        (pass window).1.calls = p.calls.push .teardown ∧
        ∀ us, pass (window.take 2 ++ us) = pass (window.take 2) := by
  intro settings pass window
  have h : ((pass window).1.result.toOption.map fun v => ((worth v).isNone, (pass window).1.processed,
      (pass window).1.simulation.closedTrades.length)) = some (true, 2, 1) := by
    decide +kernel
  obtain ⟨v, hv, heq⟩ := Option.map_eq_some_iff.mp h
  obtain ⟨hnone, hprocessed, htrades⟩ : _ ∧ _ ∧ _ := by simpa using heq
  have hresult := toOption_eq_some.mp hv
  cases v with
  | scored x => simp [worth] at hnone
  | breached =>
    obtain ⟨-, hiff, hgiven⟩ := breach_decided new .buyer settings [] .inSample window [] hresult
    obtain ⟨j, p, t, hreaches, hbreach⟩ := hiff.mp rfl
    obtain ⟨hplace, hcalls, -, -, hlater⟩ := hgiven j p t hreaches hbreach
    obtain rfl : j = 1 := Nat.succ.inj (hplace.symm.trans hprocessed)
    exact ⟨hresult, hprocessed, htrades, p, t, hreaches, hbreach, hcalls, hlater⟩

end Backtest
