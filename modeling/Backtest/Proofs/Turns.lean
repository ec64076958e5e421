import Backtest.Proofs.ChartFeed
import Backtest.Proofs.OpenTrades

/-!
# The turns of a pass

A pass takes one turn at each tick it processes. In a turn the account notes the tick, and the strategy
is asked and its decision carried out, unless the drawdown went too far or a chart is not full. A turn
at which the drawdown went too far or the strategy failed is the last.

* `Turn`; `PassState.turn`, the turn that a pass takes at a tick;
* `PassState.turn_cases`, what a turn comes to;
* `Turn.calls`, the calls that it makes; `Turn.decision`, what is decided in it;
* `Pass.turnsOver`, the turns that are taken at ticks; `Pass.turns`, those of a whole pass;
* `PassOutcome.MadeOf`, a pass as its turns tell it; `Pass.Recorded.madeOf`;
* `Pass.walk_turnsOver`, what every turn keeps is kept by all ticks of a pass together;
* `Pass.Recorded`, what the turns taken so far say of where the pass stands;
* `Pass.walk_append`, a pass over one stretch after another; `Pass.exists_walk_take`, where a pass
  comes to each tick that it processes.
-/

namespace Backtest

variable {α Memory : Type}

theorem getElem?_concat_eq_some {β : Type} {xs : List β} {x y : β} {k : ℕ} :
    (xs ++ [x])[k]? = some y ↔ xs[k]? = some y ∨ k = xs.length ∧ x = y := by
  rcases Nat.lt_trichotomy k xs.length with hk | rfl | hk
  · rw [List.getElem?_append_left hk]
    simp [Nat.ne_of_lt hk]
  · simp
  · rw [List.getElem?_eq_none (by simp; omega), List.getElem?_eq_none (by omega)]
    simp [Nat.ne_of_gt hk]

/-- A turn of a pass: the tick, the account once it is noted, and what the strategy answered if it was
asked. -/
structure Turn (α : Type) where
  tick : Tick α
  account : Simulation α
  answer : Option (Except Fault Decision)

namespace Turn

/-- Whether the turn failed. -/
def fault? (u : Turn α) : Option Fault :=
  match u.answer with
  | some (.error f) => some f
  | _ => none

/-- What was decided in the turn: nothing if the strategy was not asked. -/
def decision (u : Turn α) : Decision :=
  match u.answer with
  | some (.ok d) => d
  | _ => .noop

variable [Price α]

/-- The calls that the turn made on the strategy. -/
def calls (u : Turn α) : List (StrategyCall α) :=
  (u.answer.map (.onTick (u.account.view u.tick))).toList

theorem view_of_mem_calls {u : Turn α} {view : MarketView α} {answer : Except Fault Decision}
    (h : .onTick view answer ∈ u.calls) : view = u.account.view u.tick := by
  obtain ⟨a, -, ha⟩ := Option.map_eq_some_iff.mp (Option.mem_toList.mp h)
  exact (StrategyCall.onTick.inj ha).1.symm

/-- How the pass ends if it ends with the turn. -/
def stop? (u : Turn α) : Option WalkEnd :=
  if u.account.exceeded then some .breached else u.fault?.map .failed

theorem stop?_eq_none {u : Turn α} :
    u.stop? = none ↔ u.account.exceeded = false ∧ u.fault? = none := by
  rw [stop?]
  cases u.account.exceeded <;> simp

/-- No turn ends a pass as if all ticks were taken. -/
theorem stop?_ne_finished (u : Turn α) : u.stop? ≠ some .finished := by
  unfold stop?
  split
  · simp
  · cases u.fault? <;> simp

theorem breached_of_stop? {u : Turn α} {stop : WalkEnd} (h : u.stop? = some stop)
    (hstop : stop = .breached ∨ stop = .finished) :
    stop = .breached ∧ u.account.exceeded = true := by
  rw [stop?] at h
  split at h
  · rename_i hexceeded
    exact ⟨(Option.some.inj h).symm, hexceeded⟩
  · obtain ⟨f, -, rfl⟩ := Option.map_eq_some_iff.mp h
    simp at hstop

end Turn

variable [Price α]

/-- The turn that a pass takes at a tick, and where it stands after it. -/
def PassState.turn (onTick : MarketView α → Memory → Except Fault Decision × Memory)
    (p : PassState α Memory) (t : Tick α) : Turn α × PassState α Memory :=
  let q := p.advance t
  let asked := q.ask onTick t
  if q.simulation.exceeded then ({ tick := t, account := q.simulation, answer := none }, q)
  else if q.simulation.canTrade then
    ({ tick := t, account := q.simulation, answer := some asked.2 }, match asked.2 with
      | .error _ => asked.1
      | .ok d => (asked.1.carryOut t d).1)
  else ({ tick := t, account := q.simulation, answer := none }, q)

namespace PassState

variable (onTick : MarketView α → Memory → Except Fault Decision × Memory)

omit [Price α] in
/-- What carrying out a decision leaves as it was. -/
theorem carryOut_kept (p : PassState α Memory) (t : Tick α) (d : Decision) :
    let q := (p.carryOut t d).1
    q.calls = p.calls ∧ q.processed = p.processed ∧ q.simulation.charts = p.simulation.charts ∧
      q.simulation.settings = p.simulation.settings ∧
      q.simulation.drawdown = p.simulation.drawdown := by
  cases d with
  | closeAll =>
    simp only [carryOut, Simulation.closeAll]
    split <;> simp [Simulation.migrate]
  | _ => exact ⟨rfl, rfl, rfl, rfl, rfl⟩

omit [Price α] in
theorem memory_carryOut (p : PassState α Memory) (t : Tick α) (d : Decision) :
    (p.carryOut t d).1.memory = p.memory := by
  cases d <;> rfl

/-- A turn leaves an account whose open trades are open. -/
theorem allOpen_turn (p : PassState α Memory) (t : Tick α) :
    (p.turn onTick t).2.simulation.AllOpen := by
  have hadvance := p.allOpen_advance t
  have hasked : ((p.advance t).ask onTick t).1.simulation.AllOpen := hadvance
  unfold turn
  simp only
  split
  · exact hadvance
  · split
    · split
      · exact hasked
      · exact (allOpen_carryOut hasked t _).2
    · exact hadvance

/-- The tick and the account of a turn, and whether the strategy was asked in it. -/
theorem turn_shown (p : PassState α Memory) (t : Tick α) :
    let u := (p.turn onTick t).1
    u.tick = t ∧ u.account = (p.advance t).simulation ∧
      (u.answer.isSome = true ↔ u.account.exceeded = false ∧ u.account.canTrade = true) := by
  rw [turn]
  simp only
  split
  · simp_all
  · split <;> simp_all

/-- What a turn comes to: the strategy is not asked, or it is and what it decides is carried out. -/
theorem turn_cases (p : PassState α Memory) (t : Tick α) :
    let taken := p.turn onTick t
    let asked := (p.advance t).ask onTick t
    taken.1.answer = none ∧ taken.2 = p.advance t ∨
      taken.1.account.exceeded = false ∧ taken.1.account.canTrade = true ∧
        taken.1.answer = some asked.2 ∧ taken.2 = (asked.1.carryOut t taken.1.decision).1 := by
  rw [turn]
  simp only
  split
  · exact .inl ⟨rfl, rfl⟩
  · rename_i hexceeded
    split
    · rename_i hfull
      refine .inr ⟨eq_false_of_ne_true hexceeded, hfull, rfl, ?_⟩
      rw [Turn.decision]
      cases ((p.advance t).ask onTick t).2 <;> rfl
    · exact .inl ⟨rfl, rfl⟩

@[simp] theorem tick_turn (p : PassState α Memory) (t : Tick α) : (p.turn onTick t).1.tick = t :=
  (turn_shown onTick p t).1

/-- What a turn does with the memory of the strategy: only what the strategy does when it is asked. -/
theorem memory_turn (p : PassState α Memory) (t : Tick α) :
    let taken := p.turn onTick t
    let answered := onTick (taken.1.account.view taken.1.tick) p.memory
    taken.1.answer = none ∧ taken.2.memory = p.memory ∨
      taken.1.answer = some answered.1 ∧ taken.2.memory = answered.2 := by
  intro taken answered
  have hanswered : answered = onTick ((p.advance t).simulation.view t) p.memory := by
    obtain ⟨htick, haccount, -⟩ := turn_shown onTick p t
    show onTick (taken.1.account.view taken.1.tick) p.memory = _
    rw [htick, haccount]
  rw [hanswered]
  rcases turn_cases onTick p t with ⟨hnone, hp⟩ | ⟨-, -, hasked, hp⟩
  · exact .inl ⟨hnone, by rw [hp]; rfl⟩
  · refine .inr ⟨hasked, ?_⟩
    rw [hp, memory_carryOut]
    rfl

/-- What a turn does to calls, charts and settings. -/
theorem turn_kept (p : PassState α Memory) (t : Tick α) :
    let taken := p.turn onTick t
    taken.2.calls.toList = p.calls.toList ++ taken.1.calls ∧ taken.2.processed = p.processed + 1 ∧
      taken.2.simulation.charts = Charts.process p.simulation.charts t ∧
      taken.2.simulation.settings = p.simulation.settings ∧
      taken.2.simulation.drawdown = taken.1.account.drawdown := by
  have hadvance : (p.advance t).calls.toList = p.calls.toList := rfl
  rw [turn]
  simp only
  split
  · exact ⟨by simp [Turn.calls, hadvance], rfl, rfl, rfl, rfl⟩
  · split
    · have hasked : ((p.advance t).ask onTick t).1.calls.toList = p.calls.toList ++
          [.onTick ((p.advance t).simulation.view t) ((p.advance t).ask onTick t).2] :=
        Array.toList_push ..
      split
      · exact ⟨hasked, rfl, rfl, rfl, rfl⟩
      · rename_i d hd
        obtain ⟨hcalls, hprocessed, hcharts, hsettings, hdrawdown⟩ :=
          carryOut_kept ((p.advance t).ask onTick t).1 t d
        refine ⟨?_, hprocessed, hcharts, hsettings, hdrawdown⟩
        rw [hcalls, hasked]
        rfl
    · exact ⟨by simp [Turn.calls, hadvance], rfl, rfl, rfl, rfl⟩

end PassState

/-- A pass is made of turns: one at each tick that it processed, with the calls that were made in it. -/
structure PassOutcome.MadeOf (o : PassOutcome α) (parameters : Parameters)
    (window : List (Tick α)) (turns : List (Turn α)) : Prop where
  processed : o.processed = turns.length
  ticks : turns.map (·.tick) = window.take o.processed
  calls : o.calls.toList = .setup parameters :: turns.flatMap Turn.calls ++ [.teardown]

namespace Pass

variable {onTick : MarketView α → Memory → Except Fault Decision × Memory}

/-- A pass takes a turn at its next tick, and goes on behind it if the turn does not end it. -/
theorem walk_cons_turn (t : Tick α) (ts : List (Tick α)) (last : Tick α) (p : PassState α Memory) :
    walk onTick (t :: ts) last p =
      let taken := p.turn onTick t
      match taken.1.stop? with
      | some stop => (taken.2, t, stop)
      | none => walk onTick ts t taken.2 := by
  rw [walk_cons, PassState.turn]
  simp only
  split
  · rename_i h
    simp [Turn.stop?, h]
  · rename_i h
    split
    · cases ((p.advance t).ask onTick t).2 <;> simp [Turn.stop?, Turn.fault?, h]
    · simp [Turn.stop?, Turn.fault?, h]

/-- How the ticks of a pass come to an end with turns: all are taken and none ends the pass, or the last
of the turns does. -/
inductive Ended (ts : List (Tick α)) : List (Turn α) → WalkEnd → Prop
  | finished {turns : List (Turn α)} (hticks : turns.map (·.tick) = ts)
      (hstop : ∀ u ∈ turns, u.stop? = none) : Ended ts turns .finished
  | stopped {turns : List (Turn α)} {u : Turn α} {stop : WalkEnd}
      (hticks : (turns ++ [u]).map (·.tick) <+: ts) (hstop : ∀ v ∈ turns, v.stop? = none)
      (hlast : u.stop? = some stop) : Ended ts (turns ++ [u]) stop

theorem Ended.cons {ts : List (Tick α)} {turns : List (Turn α)} {stop : WalkEnd}
    (h : Ended ts turns stop) {u : Turn α} (hu : u.stop? = none) :
    Ended (u.tick :: ts) (u :: turns) stop := by
  cases h with
  | finished hticks hstop =>
    exact .finished (by rw [List.map_cons, hticks]) (List.forall_mem_cons.mpr ⟨hu, hstop⟩)
  | stopped hticks hstop hlast =>
    rw [← List.cons_append]
    refine .stopped ?_ (List.forall_mem_cons.mpr ⟨hu, hstop⟩) hlast
    rw [List.cons_append, List.map_cons]
    exact List.cons_prefix_cons.mpr ⟨rfl, hticks⟩

theorem Ended.ticks {ts : List (Tick α)} {turns : List (Turn α)} {stop : WalkEnd}
    (h : Ended ts turns stop) : turns.map (·.tick) <+: ts := by
  cases h with
  | finished hticks _ => exact hticks ▸ List.prefix_rfl
  | stopped hticks _ _ => exact hticks

/-- The turns were taken at the first ticks. -/
theorem Ended.ticks_eq_take {ts : List (Tick α)} {turns : List (Turn α)} {stop : WalkEnd}
    (h : Ended ts turns stop) :
    turns.map (·.tick) = ts.take turns.length ∧ turns.length ≤ ts.length := by
  have hticks := List.prefix_iff_eq_take.mp h.ticks
  have hlength := h.ticks.length_le
  rw [List.length_map] at hticks hlength
  exact ⟨hticks, hlength⟩

theorem Ended.ticks_of_finished {ts : List (Tick α)} {turns : List (Turn α)}
    (h : Ended ts turns .finished) : turns.map (·.tick) = ts := by
  cases h with
  | finished hticks _ => exact hticks
  | stopped _ _ hlast => exact absurd hlast (Turn.stop?_ne_finished _)

theorem Ended.ne_nil {t : Tick α} {ts : List (Tick α)} {turns : List (Turn α)} {stop : WalkEnd}
    (h : Ended (t :: ts) turns stop) : turns ≠ [] := by
  rintro rfl
  generalize hnil : ([] : List (Turn α)) = turns at h
  cases h with
  | finished hticks _ => simp [← hnil] at hticks
  | stopped _ _ _ => simp at hnil

/-- Turns that end a pass without a failure: none of them failed, and the account has fallen too far in
the last alone, if it has. -/
theorem Ended.of_settled {ts : List (Tick α)} {turns : List (Turn α)} {stop : WalkEnd}
    (h : Ended ts turns stop) (hstop : stop = .breached ∨ stop = .finished)
    (hasked : ∀ u ∈ turns, u.account.exceeded = true → u.answer = none) :
    (∀ u ∈ turns, u.fault? = none) ∧
      (∀ k u, turns[k]? = some u →
        (u.account.exceeded = true ↔ stop = .breached ∧ k + 1 = turns.length)) ∧
      (stop = .finished → turns.map (·.tick) = ts) := by
  cases h with
  | finished hticks hnone =>
    have hquiet (u : Turn α) (hu : u ∈ turns) := Turn.stop?_eq_none.mp (hnone u hu)
    refine ⟨fun u hu => (hquiet u hu).2, fun k u hu => ?_, fun _ => hticks⟩
    simp [(hquiet u (List.mem_of_getElem? hu)).1]
  | stopped hticks hnone hlast =>
    rename_i older u
    have hquiet (v : Turn α) (hv : v ∈ older) := Turn.stop?_eq_none.mp (hnone v hv)
    obtain ⟨rfl, hexceeded⟩ := Turn.breached_of_stop? hlast hstop
    have hu : u.fault? = none := by rw [Turn.fault?, hasked u (by simp) hexceeded]
    refine ⟨fun v hv => ?_, fun k v hv => ?_, by simp⟩
    · rcases List.mem_append.mp hv with hv | hv
      · exact (hquiet v hv).2
      · rwa [List.mem_singleton.mp hv]
    · rw [List.length_append, List.length_singleton]
      rcases getElem?_concat_eq_some.mp hv with hv | ⟨rfl, rfl⟩
      · have hk := (List.getElem?_eq_some_iff.mp hv).1
        simp [(hquiet v (List.mem_of_getElem? hv)).1]
        omega
      · simp [hexceeded]

/-- No turn before the last has ended the pass. -/
theorem Ended.unstopped {ts : List (Tick α)} {turns : List (Turn α)} {stop : WalkEnd}
    (h : Ended ts turns stop) {k : ℕ} (hk : k < turns.length) :
    ∀ u ∈ turns.take k, u.stop? = none := by
  cases h with
  | finished _ hstop => exact fun u hu => hstop u (List.mem_of_mem_take hu)
  | stopped _ hstop _ =>
    rw [List.length_append, List.length_singleton] at hk
    rw [List.take_append_of_le_length (by omega)]
    exact fun u hu => hstop u (List.mem_of_mem_take hu)

/-- The turns that are taken at ticks, up to the first that ends the pass. -/
def turnsOver (onTick : MarketView α → Memory → Except Fault Decision × Memory) :
    List (Tick α) → PassState α Memory → List (Turn α)
  | [], _ => []
  | t :: ts, p =>
    let taken := p.turn onTick t
    match taken.1.stop? with
    | some _ => [taken.1]
    | none => taken.1 :: turnsOver onTick ts taken.2

/-- What every turn keeps is kept by all ticks of a pass together. -/
theorem walk_turnsOver {I : List (Turn α) → PassState α Memory → Prop}
    (hturn : ∀ turns p t, I turns p → I (turns ++ [(p.turn onTick t).1]) (p.turn onTick t).2)
    {before : List (Turn α)} {p : PassState α Memory} (h : I before p) (ts : List (Tick α))
    (last : Tick α) :
    let walked := walk onTick ts last p
    let turns := turnsOver onTick ts p
    I (before ++ turns) walked.1 ∧ Ended ts turns walked.2.2 ∧
      (turns.map (·.tick)).getLastD last = walked.2.1 := by
  induction ts generalizing before p last with
  | nil => exact ⟨(List.append_nil before).symm ▸ h, .finished rfl (by simp [turnsOver]), rfl⟩
  | cons t ts ih =>
    have hafter := hturn before p t h
    rw [walk_cons_turn, turnsOver]
    simp only
    split
    · rename_i stop hstop
      refine ⟨hafter, ?_, by simp⟩
      show Ended (t :: ts) ([] ++ [(p.turn onTick t).1]) stop
      exact .stopped (by simp) (by simp) hstop
    · rename_i hstop
      obtain ⟨hinv, hended, hlast⟩ := ih hafter t
      refine ⟨by simpa using hinv, ?_, ?_⟩
      · have hcons := hended.cons hstop
        rwa [PassState.tick_turn] at hcons
      · rw [List.map_cons, PassState.tick_turn, List.getLastD_cons]
        exact hlast

/-- There are turns at ticks that keep what every turn keeps. -/
theorem walk_turns {I : List (Turn α) → PassState α Memory → Prop}
    (hturn : ∀ turns p t, I turns p → I (turns ++ [(p.turn onTick t).1]) (p.turn onTick t).2)
    {before : List (Turn α)} {p : PassState α Memory} (h : I before p) (ts : List (Tick α))
    (last : Tick α) :
    let walked := walk onTick ts last p
    ∃ turns, I (before ++ turns) walked.1 ∧ Ended ts turns walked.2.2 ∧
      (turns.map (·.tick)).getLastD last = walked.2.1 :=
  ⟨turnsOver onTick ts p, walk_turnsOver hturn h ts last⟩

/-- What the turns of a pass that came from a state say of where it stands. -/
structure Recorded (p₀ : PassState α Memory) (turns : List (Turn α)) (p : PassState α Memory) :
    Prop where
  calls : p.calls.toList = p₀.calls.toList ++ turns.flatMap Turn.calls
  processed : p.processed = p₀.processed + turns.length
  settings : p.simulation.settings = p₀.simulation.settings
  charts : p.simulation.charts =
    Charts.processAll p₀.simulation.charts (turns.map (·.tick))
  shown : ∀ k u, turns[k]? = some u →
    u.account.settings = p₀.simulation.settings ∧
      u.account.charts =
        Charts.processAll p₀.simulation.charts ((turns.take (k + 1)).map (·.tick)) ∧
      (u.answer.isSome = true ↔ u.account.exceeded = false ∧ u.account.canTrade = true)

theorem recorded_nil (p : PassState α Memory) : Recorded p [] p :=
  ⟨by simp, rfl, rfl, rfl, by simp⟩

theorem Recorded.turn {p₀ p : PassState α Memory} {turns : List (Turn α)}
    (h : Recorded p₀ turns p)
    (onTick : MarketView α → Memory → Except Fault Decision × Memory) (t : Tick α) :
    Recorded p₀ (turns ++ [(p.turn onTick t).1]) (p.turn onTick t).2 := by
  obtain ⟨hcalls, hprocessed, hcharts, hsettings, -⟩ := PassState.turn_kept onTick p t
  obtain ⟨htick, haccount, hasked⟩ := PassState.turn_shown onTick p t
  have hseen : Charts.process p.simulation.charts t = Charts.processAll p₀.simulation.charts
      ((turns ++ [(p.turn onTick t).1]).map (·.tick)) := by
    rw [List.map_append, Charts.processAll_append, ← h.charts, List.map_singleton, htick]
    rfl
  refine ⟨?_, ?_, hsettings.trans h.settings, hcharts.trans hseen, fun k u hu => ?_⟩
  · rw [hcalls, h.calls, List.flatMap_append, List.flatMap_singleton, List.append_assoc]
  · rw [hprocessed, h.processed, List.length_append, List.length_singleton, Nat.add_assoc]
  · rcases getElem?_concat_eq_some.mp hu with hu | ⟨rfl, rfl⟩
    · rw [List.take_append_of_le_length (List.getElem?_eq_some_iff.mp hu).1]
      exact h.shown k u hu
    · rw [List.take_of_length_le (by simp), ← hseen, haccount]
      exact ⟨h.settings, rfl, haccount ▸ hasked⟩

/-- The charts stand as they were seen in the last turn. -/
theorem Recorded.charts_last {p₀ p : PassState α Memory} {older : List (Turn α)} {v : Turn α}
    (h : Recorded p₀ (older ++ [v]) p) : p.simulation.charts = v.account.charts := by
  have hseen := (h.shown older.length v List.getElem?_concat_length).2.1
  rw [List.take_of_length_le (by simp)] at hseen
  rw [h.charts, hseen]

/-- The charts take in one tick from a turn to the next. -/
theorem Recorded.charts_next {p₀ p : PassState α Memory} {turns : List (Turn α)}
    (h : Recorded p₀ turns p) {j : ℕ} {v u : Turn α} (hv : turns[j]? = some v)
    (hu : turns[j + 1]? = some u) : u.account.charts = Charts.process v.account.charts u.tick := by
  rw [(h.shown _ u hu).2.1, (h.shown j v hv).2.1, List.take_add_one, hu, List.map_append,
    Charts.processAll_append]
  rfl

/-- The strategy was asked in no turn at which the account had fallen too far. -/
theorem Recorded.unasked {p₀ p : PassState α Memory} {turns : List (Turn α)}
    (h : Recorded p₀ turns p) : ∀ u ∈ turns, u.account.exceeded = true → u.answer = none := by
  intro u hu hexceeded
  obtain ⟨k, hk⟩ := List.getElem?_of_mem hu
  have hasked := (h.shown k u hk).2.2
  simpa [hexceeded] using hasked

/-! ### Stretches of a pass -/

section

variable (onTick : MarketView α → Memory → Except Fault Decision × Memory)

/-- A pass over one stretch after another goes on behind the first unless it ended there. -/
theorem walk_append (ts us : List (Tick α)) (last : Tick α) (p : PassState α Memory) :
    walk onTick (ts ++ us) last p =
      match walk onTick ts last p with
      | (q, last, .finished) => walk onTick us last q
      | stopped => stopped := by
  induction ts generalizing last p with
  | nil => rfl
  | cons t ts ih =>
    rw [List.cons_append, walk_cons_turn, walk_cons_turn]
    simp only
    cases hstop : (p.turn onTick t).1.stop? with
    | none => exact ih t _
    | some stop =>
      cases stop with
      | finished => exact absurd hstop (Turn.stop?_ne_finished _)
      | breached => rfl
      | failed f => rfl

/-- Ticks are gone through in turns, which say where the pass stands behind them. -/
theorem exists_recorded_walk (ts : List (Tick α)) (last : Tick α) (p : PassState α Memory) :
    let walked := walk onTick ts last p
    ∃ turns, Recorded p turns walked.1 ∧ Ended ts turns walked.2.2 := by
  obtain ⟨turns, hrecorded, hended, -⟩ := walk_turns (I := Recorded p)
    (fun turns q t hq => hq.turn onTick t) (recorded_nil p) ts last
  exact ⟨turns, hrecorded, hended⟩

/-- A pass processes no more ticks than there are. -/
theorem processed_walk_le (ts : List (Tick α)) (last : Tick α) (p : PassState α Memory) :
    (walk onTick ts last p).1.processed ≤ p.processed + ts.length := by
  obtain ⟨turns, hrecorded, hended⟩ := exists_recorded_walk onTick ts last p
  have hlength := hended.ticks_eq_take.2
  rw [hrecorded.processed]
  omega

/-- A pass comes to each tick that it processes by going through all ticks before it. -/
theorem exists_walk_take {ts : List (Tick α)} {last : Tick α} {p : PassState α Memory} {k : ℕ}
    (hk : p.processed + k < (walk onTick ts last p).1.processed) :
    ∃ q last' t, walk onTick (ts.take k) last p = (q, last', .finished) ∧ ts[k]? = some t := by
  have hlt : k < ts.length := by
    have hle := processed_walk_le onTick ts last p
    omega
  have hshort := processed_walk_le onTick (ts.take k) last p
  have hsplit := walk_append onTick (ts.take k) (ts.drop k) last p
  rw [List.take_append_drop] at hsplit
  rcases hwalk : walk onTick (ts.take k) last p with ⟨q, last', stop⟩
  rw [hwalk] at hsplit hshort
  have htake : (ts.take k).length = k := List.length_take_of_le (Nat.le_of_lt hlt)
  cases stop with
  | finished => exact ⟨q, last', ts[k], rfl, List.getElem?_eq_getElem hlt⟩
  | breached =>
    rw [hsplit] at hk
    simp only at hk hshort
    omega
  | failed f =>
    rw [hsplit] at hk
    simp only at hk hshort
    omega

end

/-! ### Whole passes -/

omit [Price α] in
/-- What settling a pass leaves as it was. -/
theorem settle_kept (p : PassState α Memory) (last : Tick α) (stop : WalkEnd) :
    let settled := (settle p last stop).1
    settled.calls = p.calls ∧ settled.processed = p.processed := by
  cases stop <;> exact ⟨rfl, rfl⟩

/-- The turns that a pass takes; none if it is not set up. -/
def turns (strategy : Strategy α) (s : Simulation α) (ids : Ids) (window : List (Tick α))
    (parameters : Parameters) : List (Turn α) :=
  match strategy.setup parameters strategy.fresh with
  | .error _ => []
  | .ok memory => turnsOver strategy.onTick window (begun strategy s ids parameters memory)

/-- A pass that was set up takes its turns until its ticks come to an end, and settles its trades. What
every turn keeps is kept up to there. -/
theorem turns_of_setup {strategy : Strategy α} {parameters : Parameters} {memory : strategy.Memory}
    (hsetup : strategy.setup parameters strategy.fresh = .ok memory) (s : Simulation α) (ids : Ids)
    (first : Tick α) (rest : List (Tick α)) {I : List (Turn α) → PassState α strategy.Memory → Prop}
    (hturn : ∀ turns p t, I turns p →
      I (turns ++ [(p.turn strategy.onTick t).1]) (p.turn strategy.onTick t).2)
    (h : I [] (begun strategy s ids parameters memory)) :
    let turns := turns strategy s ids (first :: rest) parameters
    ∃ p last stop, I turns p ∧ Recorded (begun strategy s ids parameters memory) turns p ∧
      Ended (first :: rest) turns stop ∧ (turns.map (·.tick)).getLast? = some last ∧
      run strategy s ids (first :: rest) parameters = outcome strategy (settle p last stop) := by
  obtain ⟨⟨hinv, hrecorded⟩, hended, hlast⟩ :=
    walk_turnsOver (I := fun turns p =>
        I turns p ∧ Recorded (begun strategy s ids parameters memory) turns p)
      (fun turns p t hp => ⟨hturn turns p t hp.1, hp.2.turn strategy.onTick t⟩)
      ⟨h, recorded_nil _⟩ (first :: rest) first
  have hturns : turns strategy s ids (first :: rest) parameters =
      turnsOver strategy.onTick (first :: rest) (begun strategy s ids parameters memory) := by
    rw [turns, hsetup]
  rw [← hturns, List.nil_append] at hinv hrecorded
  rw [← hturns] at hended hlast
  refine ⟨_, _, _, hinv, hrecorded, hended, ?_, run_of_setup hsetup s ids first rest⟩
  rw [← hlast, List.getLastD_eq_getLast?]
  obtain ⟨older, u, hsplit⟩ := (List.eq_nil_or_concat' _).resolve_left hended.ne_nil
  rw [hsplit, List.map_append, List.map_singleton, List.getLast?_concat]
  rfl

/-- A pass that was set up takes some turns that keep what every turn keeps. -/
theorem run_turns {strategy : Strategy α} {parameters : Parameters} {memory : strategy.Memory}
    (hsetup : strategy.setup parameters strategy.fresh = .ok memory) (s : Simulation α) (ids : Ids)
    (first : Tick α) (rest : List (Tick α)) {I : List (Turn α) → PassState α strategy.Memory → Prop}
    (hturn : ∀ turns p t, I turns p →
      I (turns ++ [(p.turn strategy.onTick t).1]) (p.turn strategy.onTick t).2)
    (h : I [] (begun strategy s ids parameters memory)) :
    ∃ turns p last stop, I turns p ∧ Recorded (begun strategy s ids parameters memory) turns p ∧
      Ended (first :: rest) turns stop ∧ (turns.map (·.tick)).getLast? = some last ∧
      run strategy s ids (first :: rest) parameters = outcome strategy (settle p last stop) :=
  ⟨turns strategy s ids (first :: rest) parameters,
    turns_of_setup hsetup s ids first rest hturn h⟩

/-- What is left of a pass that took turns is told by them. -/
theorem Recorded.madeOf {strategy : Strategy α} {s : Simulation α} {ids : Ids} {parameters : Parameters}
    {memory : strategy.Memory} {turns : List (Turn α)} {p : PassState α strategy.Memory}
    {window : List (Tick α)} {stop : WalkEnd}
    (h : Recorded (begun strategy s ids parameters memory) turns p) (hended : Ended window turns stop)
    (last : Tick α) : (outcome strategy (settle p last stop)).MadeOf parameters window turns := by
  obtain ⟨hcalls, hprocessed⟩ := settle_kept p last stop
  have hlength : (outcome strategy (settle p last stop)).processed = turns.length := by
    rw [outcome, hprocessed, h.processed]
    exact Nat.zero_add _
  refine ⟨hlength, ?_, ?_⟩
  · rw [hlength]
    exact hended.ticks_eq_take.1
  · simp [outcome, hcalls, h.calls, begun]

/-- What a strategy is shown by a pass is a view of an account whose charts were active from the start
and have taken in the ticks up to the one in the view. -/
theorem exists_of_mem_calls {strategy : Strategy α} {s : Simulation α} {ids : Ids}
    {window : List (Tick α)} {parameters : Parameters} {view : MarketView α}
    {answer : Except Fault Decision}
    (h : .onTick view answer ∈ (run strategy s ids window parameters).calls.toList) :
    ∃ seen t account, seen ++ [t] <+: window ∧ view = Simulation.view account t ∧
      account.charts = Charts.processAll (Charts.activate s.charts) (seen ++ [t]) := by
  cases window with
  | nil => simp [run] at h
  | cons first rest =>
    cases hsetup : strategy.setup parameters strategy.fresh with
    | error f => simp [run, hsetup] at h
    | ok memory =>
      obtain ⟨turns, p, last, stop, -, hrecorded, hended, -, hrun⟩ :=
        run_turns (I := fun _ _ => True) hsetup s ids first rest (fun _ _ _ _ => trivial) trivial
      rw [hrun] at h
      simp only [outcome, Array.toList_push, (settle_kept _ _ _).1, hrecorded.calls] at h
      obtain ⟨u, hu, hcall⟩ : ∃ u ∈ turns, StrategyCall.onTick view answer ∈ u.calls := by
        simpa [begun] using h
      obtain ⟨k, hk⟩ := List.getElem?_of_mem hu
      obtain ⟨-, hcharts, -⟩ := hrecorded.shown k u hk
      have htake : (turns.take (k + 1)).map (·.tick) = (turns.take k).map (·.tick) ++ [u.tick] := by
        rw [List.take_add_one, hk, List.map_append]
        rfl
      refine ⟨(turns.take k).map (·.tick), u.tick, u.account, ?_, Turn.view_of_mem_calls hcall, ?_⟩
      · rw [← htake, List.map_take]
        exact (List.take_prefix _ _).trans hended.ticks
      · rw [hcharts, htake]
        rfl

end Pass

end Backtest
