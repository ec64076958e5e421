import Backtest.Proofs.Averages
import Backtest.Proofs.PassesMade
import Backtest.Proofs.Settlement

/-!
# When a strategy is asked

A chart that is full stays full. So in a pass the strategy is asked at every tick from the first one
on behind which all charts are full, up to the last one at which the account has not fallen too far.
The charts of a run are full when it is aligned, so in its passes the strategy is asked from the
first tick on.

* `Charts.full_processAll`, full charts stay full; `Charts.fullAt`, the ticks before charts are
  full, and `Charts.fullAt_le_iff`;
* `views`, what calls have shown; `Verdict.unasked`, the ticks of a pass behind those at which it
  asks;
* `filterMap_eq_map_take_drop`, one unbroken stretch of a list;
* `Pass.exists_turns_of_result`, the turns of a pass that has a result;
* `PassOutcome.Consulted`, when a strategy was asked in a pass, and `Pass.consulted`;
* `Walk.full_of_prepared`, `Walk.full_of_followed`, the charts of a run;
* `Walk.run_consults`, the main statement.
-/

namespace Backtest

variable {α : Type}

/-! ### Full charts -/

namespace Charts

variable [Price α] {cs : List (Chart α)}

theorem full_process (h : full cs = true) (t : Tick α) : full (process cs t) = true := by
  rw [full, List.all_eq_true] at h ⊢
  intro c hc
  obtain ⟨older, holder, rfl⟩ := List.mem_map.mp hc
  exact Chart.isFull_process (h older holder) t

theorem full_processAll (h : full cs = true) (ts : List (Tick α)) : full (processAll cs ts) = true := by
  induction ts generalizing cs with
  | nil => exact h
  | cons t ts ih => exact ih (full_process h t)

omit [Price α] in
theorem full_activate (h : full cs = true) : full (activate cs) = true := by
  rw [full, List.all_eq_true] at h ⊢
  intro c hc
  obtain ⟨older, holder, rfl⟩ := List.mem_map.mp hc
  exact h older holder

/-- The number of ticks that come before the first one behind which all charts are full; all of
them, if there is none. -/
def fullAt (cs : List (Chart α)) : List (Tick α) → ℕ
  | [] => 0
  | t :: ts => if full (process cs t) then 0 else fullAt (process cs t) ts + 1

theorem fullAt_le_iff {ts : List (Tick α)} {k : ℕ} (hk : k < ts.length) :
    fullAt cs ts ≤ k ↔ full (processAll cs (ts.take (k + 1))) = true := by
  induction ts generalizing cs k with
  | nil => simp at hk
  | cons t ts ih =>
    rw [fullAt, List.take_succ_cons, processAll_cons]
    split
    · rename_i hfull
      simp [full_processAll hfull]
    · rename_i hnot
      cases k with
      | zero => simp [hnot]
      | succ k => rw [Nat.succ_le_succ_iff, ih (Nat.lt_of_succ_lt_succ hk)]

/-- Charts that are full from the start are full behind every tick. -/
theorem fullAt_eq_zero (h : full cs = true) (ts : List (Tick α)) : fullAt cs ts = 0 := by
  cases ts with
  | nil => rfl
  | cons t ts => rw [fullAt, if_pos (full_process h t)]

end Charts

/-! ### What a strategy was shown -/

/-- What a call shows. -/
def StrategyCall.view? : StrategyCall α → Option (MarketView α)
  | .onTick view _ => some view
  | _ => none

/-- What calls have shown, in order. -/
def views (calls : List (StrategyCall α)) : List (MarketView α) := calls.filterMap (·.view?)

theorem views_append (xs ys : List (StrategyCall α)) : views (xs ++ ys) = views xs ++ views ys :=
  List.filterMap_append

/-- The number of ticks that a pass processes last and does not ask its strategy at, since its
account has fallen too far. -/
def Verdict.unasked : Verdict α → ℕ
  | .breached => 1
  | .scored _ => 0

theorem Verdict.lt_sub_unasked_iff {v : Verdict α} {k n : ℕ} (hk : k < n) :
    k < n - v.unasked ↔ ¬ (v = .breached ∧ k + 1 = n) := by
  cases v with
  | breached => simp [unasked]; omega
  | scored x => simpa [unasked] using hk

/-- What a list is mapped to of which only one stretch gives something. -/
theorem filterMap_eq_map_take_drop {β γ : Type} {f : β → Option γ} {g : β → γ} {a b : ℕ} {xs : List β}
    (h : ∀ k x, xs[k]? = some x → f x = if a ≤ k ∧ k < b then some (g x) else none) :
    xs.filterMap f = ((xs.take b).drop a).map g := by
  induction xs using List.reverseRecOn with
  | nil => simp
  | append_singleton xs x ih =>
    have hxs := ih fun k y hy => h k y (getElem?_concat_eq_some.mpr (.inl hy))
    have hx := h xs.length x List.getElem?_concat_length
    rw [List.filterMap_append, hxs]
    by_cases hb : xs.length < b
    · rw [List.take_of_length_le (Nat.le_of_lt hb),
        List.take_of_length_le (by rw [List.length_append, List.length_singleton]; exact hb)]
      by_cases ha : a ≤ xs.length
      · rw [if_pos ⟨ha, hb⟩] at hx
        simp [List.drop_append_of_le_length ha, hx]
      · rw [if_neg fun h => ha h.1] at hx
        rw [List.drop_of_length_le (by omega), List.drop_of_length_le (by simp; omega)]
        simp [hx]
    · rw [if_neg fun h => hb h.2] at hx
      rw [List.take_append_of_le_length (Nat.le_of_not_lt hb)]
      simp [hx]

variable [Price α]

theorem views_calls (turns : List (Turn α)) :
    views (turns.flatMap Turn.calls) =
      turns.filterMap fun u => u.answer.map fun _ => u.account.view u.tick := by
  induction turns with
  | nil => rfl
  | cons u turns ih =>
    rw [List.flatMap_cons, views_append, ih, List.filterMap_cons, Turn.calls]
    cases u.answer <;> rfl

/-! ### Passes -/

/-- When a strategy was asked in a pass over a window: at the ticks from one place of the window on
up to the last that was processed, but for one at which the pass was given up, at no other and once
at each. Each time it was shown charts that had taken in all ticks up to that one. -/
structure PassOutcome.Consulted (charts : List (Chart α)) (window : List (Tick α)) (start : ℕ)
    (v : Verdict α) (o : PassOutcome α) : Prop where
  unasked : v.unasked ≤ o.processed
  processed : o.processed ≤ window.length
  ticks : (views o.calls.toList).map (·.tick) = (window.take (o.processed - v.unasked)).drop start
  charts : ∀ n view, (views o.calls.toList)[n]? = some view → ∃ account t,
    window[start + n]? = some t ∧ view = Simulation.view account t ∧
      account.charts = Charts.processAll (Charts.activate charts) (window.take (start + n + 1))

/-- A strategy that is asked from the first tick on is asked as often as ticks are processed, but
for one at which the pass is given up. -/
theorem PassOutcome.Consulted.length_views {charts : List (Chart α)} {window : List (Tick α)}
    {v : Verdict α} {o : PassOutcome α} (h : o.Consulted charts window 0 v) :
    (views o.calls.toList).length + v.unasked = o.processed := by
  have hlength := congrArg List.length h.ticks
  have hprocessed := h.processed
  have hunasked := h.unasked
  rw [List.length_map, List.drop_zero, List.length_take] at hlength
  omega

namespace Pass

variable {strategy : Strategy α} {s : Simulation α} {ids : Ids} {window : List (Tick α)}
  {parameters : Parameters} {v : Verdict α}

/-- The turns of a pass that has a result. The strategy was asked in a turn if the charts are full
then, but for the last turn of a pass that was given up. -/
theorem exists_turns_of_result (hopen : s.AllOpen)
    (h : (run strategy s ids window parameters).result = .ok v) :
    let o := run strategy s ids window parameters
    ∃ turns : List (Turn α), turns.map (·.tick) = window.take turns.length ∧
      turns ≠ [] ∧ turns.length ≤ window.length ∧ o.processed = turns.length ∧
      o.calls.toList = .setup parameters :: turns.flatMap Turn.calls ++ [.teardown] ∧
      ∀ k u, turns[k]? = some u →
        u.account.charts =
          Charts.processAll (Charts.activate s.charts) (window.take (k + 1)) ∧
        (u.answer.isSome = true ↔
          k < turns.length - v.unasked ∧ Charts.full u.account.charts = true) := by
  obtain ⟨first, rest, memory, rfl, hsetup⟩ := exists_of_result h
  obtain ⟨turns, p, last, stop, hallOpen, hrecorded, hended, -, hrun⟩ :=
    run_turns (I := fun _ p => p.simulation.AllOpen) hsetup s ids first rest
      (fun _ p t _ => p.allOpen_turn strategy.onTick t) hopen
  rw [hrun] at h
  have hverdict := stop_of_result hallOpen h
  obtain ⟨-, hexceeded, -⟩ := hended.of_settled hverdict.1 hrecorded.unasked
  obtain ⟨hticks, hlength⟩ := hended.ticks_eq_take
  refine ⟨turns, hticks, hended.ne_nil, hlength, ?_, ?_, fun k u hu => ?_⟩
  · rw [hrun, outcome, (settle_kept p last stop).2, hrecorded.processed]
    exact Nat.zero_add _
  · simp [hrun, outcome, (settle_kept p last stop).1, hrecorded.calls, begun]
  · have hk : k < turns.length := (List.getElem?_eq_some_iff.mp hu).1
    obtain ⟨-, hcharts, hasked⟩ := hrecorded.shown k u hu
    rw [List.map_take, hticks, List.take_take, Nat.min_eq_left hk] at hcharts
    refine ⟨hcharts, ?_⟩
    rw [hasked, Verdict.lt_sub_unasked_iff hk, hverdict.2, ← hexceeded k u hu, Bool.not_eq_true]
    rfl

/-- In a pass that has a result the strategy was asked at every tick from the first one on behind
which all charts are full, as far as the account had not fallen too far. -/
theorem consulted (hopen : s.AllOpen) (h : (run strategy s ids window parameters).result = .ok v) :
    (run strategy s ids window parameters).Consulted s.charts window
      (Charts.fullAt (Charts.activate s.charts) window) v := by
  obtain ⟨turns, hticks, hsome, hlength, hprocessed, hcalls, hturns⟩ := exists_turns_of_result hopen h
  have hviews : views (run strategy s ids window parameters).calls.toList =
      ((turns.take (turns.length - v.unasked)).drop
        (Charts.fullAt (Charts.activate s.charts) window)).map fun u => u.account.view u.tick := by
    have hends : views (run strategy s ids window parameters).calls.toList =
        views (turns.flatMap Turn.calls) := by
      rw [hcalls, List.cons_append, views, List.filterMap_cons, List.filterMap_append]
      simp [StrategyCall.view?, views]
    rw [hends, views_calls]
    refine filterMap_eq_map_take_drop fun k u hu => ?_
    obtain ⟨hcharts, hasked⟩ := hturns k u hu
    have hk : k < window.length := Nat.lt_of_lt_of_le (List.getElem?_eq_some_iff.mp hu).1 hlength
    rw [hcharts, ← Charts.fullAt_le_iff hk] at hasked
    split
    · rename_i hstretch
      obtain ⟨answer, hanswer⟩ := Option.isSome_iff_exists.mp (hasked.mpr hstretch.symm)
      rw [hanswer]
      rfl
    · rename_i hstretch
      have hnone : u.answer = none := by
        rw [← Option.not_isSome_iff_eq_none, hasked]
        exact fun h => hstretch h.symm
      rw [hnone]
      rfl
  refine ⟨?_, hprocessed.trans_le hlength, ?_, ?_⟩
  · rw [hprocessed]
    have hpos := List.length_pos_of_ne_nil hsome
    cases v with
    | breached => exact hpos
    | scored x => exact Nat.zero_le _
  · have htick : MarketView.tick ∘ (fun u : Turn α => u.account.view u.tick) = Turn.tick := rfl
    rw [hviews, List.map_map, htick, List.map_drop, List.map_take, hticks, List.take_take,
      Nat.min_eq_left (Nat.sub_le _ _), hprocessed]
  · intro n view hview
    rw [hviews, List.getElem?_map, List.getElem?_drop, Option.map_eq_some_iff] at hview
    obtain ⟨u, hu, rfl⟩ := hview
    rw [List.getElem?_take, Option.ite_none_right_eq_some] at hu
    obtain ⟨hplace, hu⟩ := hu
    have htick : (turns.map (·.tick))[Charts.fullAt (Charts.activate s.charts) window + n]? =
        some u.tick := by
      rw [List.getElem?_map, hu]
      rfl
    rw [hticks, List.getElem?_take_of_lt (Nat.lt_of_lt_of_le hplace (Nat.sub_le _ _))] at htick
    exact ⟨u.account, u.tick, htick, rfl, (hturns _ u hu).1⟩

end Pass

/-! ### Runs -/

/-- Charts that are filled are full. -/
theorem full_of_fillCharts {source : TickSource} {charts charts' : List (Chart Float)} {c e : ℤ}
    (h : fillCharts source charts c = (charts', .ok e)) : Charts.full charts' = true := by
  rw [TickSource.fillCharts_eq_ok, Reader.scan_eq] at h
  obtain ⟨seen, r, rest, -, hv, -⟩ := exists_of_scanRecords_stopped h
  simp only [fillVisit, Prod.mk.injEq, Option.ite_none_right_eq_some] at hv
  obtain ⟨rfl, hfull, -⟩ := hv
  exact hfull

namespace Walk

variable {w : Walk} {books : Books} {g : Twister}

/-- A walk that is aligned has full charts. -/
theorem full_of_align {s s' : WalkState} (h : w.align s = (s', .ok ())) :
    Charts.full s'.pristine = true := by
  obtain ⟨charts, cursor, sunday, hfill, hsunday⟩ := align_eq_ok h
  obtain ⟨seen, rest, -, hcut, -⟩ := w.source.cut_zero.fill hfill
  obtain ⟨_, _, -, -, hcharts, -⟩ := hcut.toSunday hsunday
  rw [hcharts]
  exact Charts.full_processAll (full_of_fillCharts hfill) _

/-- A step comes to its search with full charts, and to its trading. -/
theorem full_of_prepared {k : ℕ} {s : WalkState} {i : Stretch}
    (h : w.prepared books g k = some (s, i)) : Charts.full s.pristine = true ∧
      Charts.full (replayCharts w.source i.window.start i.window.stop s.pristine).1 = true := by
  obtain ⟨n, u, rfl, -, hu, hprepare⟩ := prepared_eq_some.mp h
  obtain ⟨s₀, before, after, fault, h₀, hs⟩ := exists_reached_zero hu
  have haligned : Charts.full s₀.pristine = true := by
    obtain ⟨⟨a, _⟩, halign, ha⟩ := Option.bind_eq_some_iff.mp h₀
    obtain rfl := Option.some.inj ha
    exact full_of_align (done?_eq_some.mp halign)
  -- whatever the charts see behind their alignment comes behind the ticks that filled them
  have hlater (rs : List Record) :
      Charts.full (Charts.processAll w.plan.charts ((before ++ rs).map (·.tick))) = true := by
    rw [List.map_append, Charts.processAll_append, ← hs.charts]
    exact Charts.full_processAll haligned _
  obtain ⟨⟨v, happroach, hplace⟩, hcollect, -⟩ := prepare_eq_ok hprepare
  have hstands := (approach_stands (reached_stands h₀ hs hu) happroach).of_place hplace
  constructor
  · rw [hstands.charts]
    exact hlater _
  · rw [hstands.replay hcollect, List.append_assoc]
    exact hlater _

theorem full_of_followed {k : ℕ} {s : WalkState} {charts : List (Chart Float)} {o : Stretch}
    (h : w.followed books g k = some (s, charts, o)) : Charts.full charts = true := by
  obtain ⟨s₁, i, _, _, hprepared, -, hfollow⟩ := followed_eq_some.mp h
  rw [(follow_eq_ok hfollow).1]
  exact (full_of_prepared hprepared).2

/-- In a pass that has a result the strategy is asked at every tick from the first one on behind
which all charts are full, up to the last one at which the account has not fallen too far, and is
shown charts that have taken in that tick. The passes that a run makes, whatever its outcome, begin
with full charts: in each of them that has a result the strategy is asked as often as ticks were
processed, but for the one at which the pass was given up. -/
theorem run_consults :
    (∀ (books : Books) (strategy : Strategy Float) (settings : Settings Float)
        (charts : List (Chart Float)) (sample : Sample) (window : List (Tick Float))
        (parameters : Parameters) (v : Verdict Float),
      let o := (books.execute strategy settings charts sample window parameters).1
      o.result = .ok v →
        o.Consulted charts window (Charts.fullAt (Charts.activate charts) window) v) ∧
    ∀ (w : Walk) (books : Books) (g : Twister),
      books.Through (w.madeAll books g) (w.run books g).1.books ∧
      ∀ m ∈ w.madeAll books g, ∀ v, m.outcome.result = .ok v →
        m.outcome.Consulted m.assignment.charts m.assignment.ticks 0 v ∧
        (views m.outcome.calls.toList).length + v.unasked = m.outcome.processed := by
  refine ⟨?_, fun w books g => ⟨run_made w books g, ?_⟩⟩
  · intro books strategy settings charts sample window parameters v o h
    exact Pass.consulted (Simulation.allOpen_new _ sample settings charts) h
  · intro m hm v hv
    obtain ⟨between, hmade⟩ := (run_made w books g).exists_of_mem hm
    obtain ⟨k, -, hm⟩ := List.mem_flatMap.mp hm
    have hfull : Charts.full m.assignment.charts = true := by
      rcases exists_of_mem_made hm with ⟨s, i, h, hcharts, -⟩ | ⟨s, charts, o, h, hcharts, -⟩ <;>
        rw [hcharts]
      · exact (full_of_prepared h).1
      · exact full_of_followed h
    rw [hmade] at hv ⊢
    have hconsulted := Pass.consulted (Simulation.allOpen_new between.ids.nextSimulation
      m.assignment.sample m.assignment.settings m.assignment.charts) hv
    have hstart : Charts.fullAt (Charts.activate m.assignment.charts) m.assignment.ticks = 0 :=
      Charts.fullAt_eq_zero (Charts.full_activate hfull) _
    have hfirst : (between.perform m.assignment).1.Consulted m.assignment.charts m.assignment.ticks 0
        v := hstart ▸ hconsulted
    exact ⟨hfirst, hfirst.length_views⟩

/-- On a chart that wants two candles a strategy is asked from the second of four daily ticks on. In
two steps with two trials each it is asked at every tick of the four windows. -/
theorem run_consults_daily :
    let settings : Settings Float := { deposit := 10000, drawdownLimit := -10, jpyQuote := false }
    let charts : List (Chart Float) := [.new "candlestick" .m1 2]
    let window := dailyTicks newYear 5
    let o := (Books.new.execute .buyer settings charts .inSample window []).1
    (o.processed = 4 ∧ ∃ v, o.result = .ok v ∧ o.Consulted charts window 1 v) ∧
    ∃ p, (Configuration.weekly 2).plan = .ok p ∧
      let made := (buying p (dailyTicks newYear 40)).madeAll Books.new (Twister.ofSeed 1)
      made.map (·.outcome.processed) = [12, 12, 6, 12, 12, 6] ∧
      ∀ m ∈ made, ∃ v, m.outcome.result = .ok v ∧
        (views m.outcome.calls.toList).length + v.unasked = m.outcome.processed := by
  intro settings charts window o
  obtain ⟨hpasses, hruns⟩ := run_consults
  constructor
  · have h : (o.result.toOption.map fun _ =>
        (o.processed, Charts.fullAt (Charts.activate charts) window)) = some (4, 1) := by
      decide +kernel
    obtain ⟨v, hv, heq⟩ := Option.map_eq_some_iff.mp h
    obtain ⟨hprocessed, hstart⟩ := Prod.mk.inj heq
    have hresult := toOption_eq_some.mp hv
    have hconsulted := hpasses Books.new .buyer settings charts .inSample window [] v hresult
    exact ⟨hprocessed, v, hresult, hstart ▸ hconsulted⟩
  · have h : ((Configuration.weekly 2).plan.toOption.map fun p =>
        let made := (buying p (dailyTicks newYear 40)).madeAll Books.new (Twister.ofSeed 1)
        (made.map (·.outcome.processed), made.all (·.outcome.result.toOption.isSome))) =
        some ([12, 12, 6, 12, 12, 6], true) := by
      decide +kernel
    obtain ⟨p, hp, hmade⟩ := Option.map_eq_some_iff.mp h
    obtain ⟨hprocessed, hall⟩ := Prod.mk.inj hmade
    refine ⟨p, toOption_eq_some.mp hp, hprocessed, fun m hm => ?_⟩
    obtain ⟨v, hv⟩ := Option.isSome_iff_exists.mp (List.all_eq_true.mp hall m hm)
    have hresult := toOption_eq_some.mp hv
    exact ⟨v, hresult, ((hruns _ Books.new (Twister.ofSeed 1)).2 m hm v hresult).2⟩

end Walk

end Backtest
