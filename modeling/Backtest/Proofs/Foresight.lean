import Backtest.Proofs.Memory
import Backtest.Proofs.Renumbering
import Backtest.Proofs.Tiling

/-!
# Steps without foresight

Two walks over ticks in memory that begin alike take the same steps as long as the windows of these
stop among the common ticks. How many steps are asked for, and what the books hold, does not matter.

* `Walk.overTicks`, a walk over other ticks with another number of steps;
* `WalkState.Alike`, two states that differ in their books and events only;
* `Walk.prepare_alike`, `Walk.optimize_alike`, `Walk.follow_alike`, `Walk.execute_alike`, the parts of
  a step from states that are alike; `Walk.step_alike`, a step; `Walk.exists_reached_alike`, a run;
* `Walk.steps_common`, the steps of two runs.
-/

namespace Backtest

/-- Two states that differ in their books and events only. -/
structure WalkState.Alike (s s' : WalkState) : Prop where
  generator : s'.generator = s.generator
  place : s'.place = s.place

theorem WalkState.Alike.cursor {s s' : WalkState} (h : s.Alike s') : s'.cursor = s.cursor :=
  congrArg Prod.fst h.place

theorem WalkState.Alike.pristine {s s' : WalkState} (h : s.Alike s') : s'.pristine = s.pristine :=
  congrArg Prod.snd h.place

namespace Walk

/-- The walk over ticks in memory, with a number of steps. -/
def overTicks (w : Walk) (steps : ℕ) (ticks : List (Tick Float)) : Walk :=
  { w with plan := { w.plan with steps }, source := .memory ticks }

variable {w : Walk} {s s' t u u' : WalkState} {k : ℕ}

/-! ### Parts of a step that do not read -/

/-- A window that is gathered leaves all but the books and the events. -/
theorem gather_alike (w' : Walk) {sample : Sample} {start : ℤ} {days : ℕ} {i : Stretch}
    (ha : s.Alike s') (h : w.gather sample k start days s = (t, .ok i))
    (hcollect : collectWindow w'.source start days = .ok i.window) :
    ∃ t', w'.gather sample k start days s' = (t', .ok i) ∧ t.Alike t' := by
  obtain ⟨hcollect', hstretch⟩ := gather_eq_ok h
  simp only [gather, hcollect', hstretch, Prod.mk.injEq, and_true] at h
  subst h
  simp only [gather, hcollect, hstretch]
  exact ⟨_, rfl, ha.generator, ha.place⟩

/-- A search finds the same in states that are alike. -/
theorem optimize_alike {m : ℕ} (n : ℕ) {ts : List (Tick Float)} (us : List (Tick Float))
    {charts : List (Chart Float)} {i : Stretch} {found : SearchResult} (ha : s.Alike s')
    (hi : i.window.stretch? = some i)
    (h : (w.overTicks m ts).optimize k charts i s = (t, .ok (some found))) :
    ∃ t', (w.overTicks n us).optimize k charts i s' = (t', .ok (some found)) ∧ t.Alike t' := by
  have htrial := Trial.pass_impartial w.strategy w.settings charts (ticks_ne_nil_of_stretch? hi)
  obtain ⟨hgenerator, hresult⟩ := Search.run_impartial w.plan.space htrial w.plan.iterations
    s.generator (s.tell (.stage .optimizing)).books (s'.tell (.stage .optimizing)).books
  have hg : (s'.tell (.stage .optimizing)).generator = s.generator := ha.generator
  simp only [optimize, overTicks] at h ⊢
  split at h
  · simp at h
  · simp at h
  · rename_i r hfound
    simp only [Prod.mk.injEq, Except.ok.injEq, Option.some.injEq] at h
    obtain ⟨rfl, rfl⟩ := h
    rw [hg, hresult.trans hfound]
    exact ⟨_, rfl, hgenerator, ha.place⟩

/-- A trading is worth the same in states that are alike. -/
theorem execute_alike {m : ℕ} (n : ℕ) {ts : List (Tick Float)} (us : List (Tick Float))
    {charts : List (Chart Float)}
    {o : Stretch} {parameters : Parameters} {score : Float} (ha : s.Alike s')
    (ho : o.window.stretch? = some o)
    (h : (w.overTicks m ts).execute charts o parameters s = (t, .ok (some score))) :
    ∃ t', (w.overTicks n us).execute charts o parameters s' = (t', .ok (some score)) ∧ t.Alike t' := by
  simp only [execute, overTicks] at h ⊢
  split at h
  · simp at h
  · rename_i strategy hstrategy
    obtain ⟨hresult, -⟩ := Books.execute_inContext (s.tell (.stage .executing)).books
      (s'.tell (.stage .executing)).books strategy w.settings charts .outOfSample .outOfSample
      (ticks_ne_nil_of_stretch? ho) parameters
    simp only [Prod.mk.injEq] at h
    obtain ⟨rfl, hscore⟩ := h
    simp only [hresult, hscore]
    exact ⟨_, rfl, ha.generator, ha.place⟩

/-! ### Parts of a step that read -/

section

variable {m n p : ℕ} {ts us : List (Tick Float)} {before after : List Record} {fault : Option Fault}

/-- States that are alike move on alike, over common ticks. -/
theorem approach_alike (hcommon : ts.take p = us.take p)
    (hs : (w.overTicks m ts).StandsAt s before after fault) (ha : s.Alike s')
    (h : (w.overTicks m ts).approach k s = (t, .ok ())) (ht : t.cursor < p) :
    ∃ t', (w.overTicks n us).approach k s' = (t', .ok ()) ∧ t.Alike t' := by
  unfold approach at h ⊢
  split at h
  · rename_i hk
    obtain ⟨rfl, -⟩ := Prod.mk.inj h
    exact ⟨s', by rw [if_pos hk], ha⟩
  · rename_i hk
    rw [if_neg hk]
    simp only [WalkState.tell, overTicks, ha.cursor, ha.pristine] at h ⊢
    rcases hadvance : advanceCharts (.memory ts) s.cursor w.plan.outOfSampleDays s.pristine with
      ⟨pristine, f | cursor⟩
    · simp [hadvance] at h
    · simp only [hadvance, Prod.mk.injEq, and_true] at h
      subst h
      have hadvance' : advanceCharts (.memory us) s.cursor w.plan.outOfSampleDays s.pristine =
          (pristine, .ok cursor) := walkDays_common hcommon hs.cut.nonneg ht hadvance
      simp only [hadvance']
      exact ⟨_, rfl, ha.generator, rfl⟩

/-- States that are alike come to a search alike, over common ticks. -/
theorem prepare_alike {i : Stretch} (hcommon : ts.take p = us.take p)
    (hs : (w.overTicks m ts).StandsAt s before after fault) (ha : s.Alike s')
    (h : (w.overTicks m ts).prepare k s = (t, .ok i)) (hi : i.window.stop < p) :
    ∃ t', (w.overTicks n us).prepare k s' = (t', .ok i) ∧ t.Alike t' := by
  obtain ⟨s₁, _, happroach, hgather⟩ := andThen_eq_ok.mp h
  obtain ⟨hcollect, -⟩ := gather_eq_ok hgather
  have hs₁ := approach_eq_ok hs happroach
  have hstart := hs₁.cut.start_le_stop hcollect
  obtain ⟨s₁', happroach', ha₁⟩ := approach_alike (n := n) hcommon hs ha happroach (by omega)
  have hcollect' : collectWindow (.memory us) s₁.cursor w.plan.inSampleDays = .ok i.window :=
    collectWindow_common hcommon hs₁.cut.nonneg hi hcollect
  have htell : (s₁.tell (.stage (.collectingInSample k))).Alike
      (s₁'.tell (.stage (.collectingInSample k))) := ⟨ha₁.generator, ha₁.place⟩
  obtain ⟨t', hgather', hat⟩ := gather_alike (w.overTicks n us) htell hgather hcollect'
  have hcursor : (s₁'.tell (.stage (.collectingInSample k))).cursor =
      (s₁.tell (.stage (.collectingInSample k))).cursor := ha₁.cursor
  refine ⟨t', ?_, hat⟩
  rw [prepare, happroach', andThen_ok]
  simp only [hcursor]
  exact hgather'

/-- States that are alike come from a search to a trading alike, over common ticks. -/
theorem follow_alike {charts charts' : List (Chart Float)} {i o : Stretch}
    (hcommon : ts.take p = us.take p) (hstart : 0 ≤ i.window.start)
    (hstop : i.window.start ≤ i.window.stop) (ha : s.Alike s')
    (h : (w.overTicks m ts).follow k charts i s = (t, .ok (charts', o))) (hi : i.window.stop ≤ p)
    (ho : o.window.stop < p) :
    ∃ t', (w.overTicks n us).follow k charts i s' = (t', .ok (charts', o)) ∧ t.Alike t' := by
  have hreplay : replayCharts (.memory us) i.window.start i.window.stop charts =
      replayCharts (.memory ts) i.window.start i.window.stop charts :=
    replayCharts_common hcommon hstart hstop hi
  simp only [follow, overTicks] at h ⊢
  rw [hreplay]
  obtain ⟨s₁, count, hreplayed, h⟩ := andThen_eq_ok.mp h
  obtain ⟨s₂, o', hgather, h⟩ := andThen_eq_ok.mp h
  simp only [Prod.mk.injEq, Except.ok.injEq] at h
  obtain ⟨rfl, rfl, rfl⟩ := h
  obtain ⟨rfl, hcount⟩ := Prod.mk.inj hreplayed
  obtain ⟨hcollect, -⟩ := gather_eq_ok hgather
  have hcollect' : collectWindow (.memory us) i.window.stop w.plan.outOfSampleDays =
      .ok o'.window := collectWindow_common hcommon (Int.le_trans hstart hstop) ho hcollect
  have htell : ((s.tell (.stage .applyingInSample)).tell (.stage (.collectingOutOfSample k))).Alike
      ((s'.tell (.stage .applyingInSample)).tell (.stage (.collectingOutOfSample k))) :=
    ⟨ha.generator, ha.place⟩
  obtain ⟨t', hgather', hat⟩ := gather_alike (w.overTicks n us) htell hgather hcollect'
  refine ⟨t', ?_, hat⟩
  simp only [hcount, andThen_ok]
  exact andThen_eq_ok.mpr ⟨t', o', hgather', rfl⟩

/-- A completed step is completed alike from a state that is alike, over common ticks. -/
theorem step_alike {s₁ s₂ s₃ s₄ : WalkState} {i o : Stretch} {found : SearchResult}
    {charts : List (Chart Float)} {score : Float} (hcommon : ts.take p = us.take p)
    (hs : (w.overTicks m ts).StandsAt s before after fault) (ha : s.Alike s')
    (hprepare : (w.overTicks m ts).prepare k s = (s₁, .ok i))
    (hsearch : (w.overTicks m ts).optimize k s₁.pristine i s₁ = (s₂, .ok (some found)))
    (hfollow : (w.overTicks m ts).follow k s₁.pristine i s₂ = (s₃, .ok (charts, o)))
    (hexecute : (w.overTicks m ts).execute charts o found.space.parameters s₃ = (s₄, .ok (some score)))
    (hi : 0 ≤ i.window.start ∧ i.window.start ≤ i.window.stop ∧ i.window.stop ≤ o.window.stop)
    (ho : o.window.stop < p) :
    ∃ t', (w.overTicks n us).step k s' = (t', .ok (.completed (resultOf k i o found score))) ∧
      (s₄.note (.executed k score found.space.parameters)).Alike t' := by
  obtain ⟨hpos, hstop, hle⟩ := hi
  obtain ⟨-, -, hstretchi⟩ := prepare_eq_ok hprepare
  obtain ⟨-, -, hstretcho⟩ := follow_eq_ok hfollow
  obtain ⟨t₁, hprepare', ha₁⟩ := prepare_alike (n := n) hcommon hs ha hprepare (by omega)
  obtain ⟨t₂, hsearch', ha₂⟩ := optimize_alike n us ha₁ hstretchi hsearch
  obtain ⟨t₃, hfollow', ha₃⟩ := follow_alike (n := n) hcommon hpos hstop ha₂ hfollow (by omega) ho
  obtain ⟨t₄, hexecute', ha₄⟩ := execute_alike n us ha₃ hstretcho hexecute
  rw [← ha₁.pristine] at hsearch' hfollow'
  exact ⟨_, step_of_parts hprepare' hsearch' hfollow' hexecute', ha₄.generator, ha₄.place⟩

/-! ### Two runs -/

/-- Two walks are aligned alike if this is done before the end of their common ticks. -/
theorem align_alike (hcommon : ts.take p = us.take p) (ha : s.Alike s')
    (h : (w.overTicks m ts).align s = (t, .ok ())) (ht : t.cursor ≤ p) :
    ∃ t', (w.overTicks n us).align s' = (t', .ok ()) ∧ t.Alike t' := by
  simp only [align, overTicks] at h ⊢
  rcases hfill : fillCharts (.memory ts) w.plan.charts 0 with ⟨charts, filled⟩
  rw [hfill] at h
  obtain ⟨s₁, cursor, hfilled, h⟩ := andThen_eq_ok.mp h
  obtain ⟨rfl, rfl⟩ := Prod.mk.inj hfilled
  rcases hsunday : advanceToSunday (.memory ts) charts cursor with ⟨pristine, found⟩
  simp only [hsunday] at h
  obtain ⟨s₂, ⟨cursor', sunday⟩, hfound, h⟩ := andThen_eq_ok.mp h
  obtain ⟨rfl, rfl⟩ := Prod.mk.inj hfound
  obtain ⟨rfl, -⟩ := Prod.mk.inj h
  obtain ⟨seen, rest, -, hcut, -⟩ := (TickSource.memory ts).cut_zero.fill hfill
  obtain ⟨-, -, -, -, -, hle⟩ := hcut.toSunday hsunday
  have hfill' : fillCharts (.memory us) w.plan.charts 0 = (charts, .ok cursor) :=
    fillCharts_common hcommon (Int.le_refl 0) (Int.le_trans hle ht) hfill
  have hsunday' : advanceToSunday (.memory us) charts cursor = (pristine, .ok (cursor', sunday)) :=
    advanceToSunday_common hcommon hcut.nonneg ht hsunday
  simp only [hfill', andThen_ok, hsunday']
  exact ⟨_, rfl, ha.generator, rfl⟩

/-- A step of a run that gives a result is completed alike by another run that comes to it alike, if its
windows stop before the end of the common ticks. -/
theorem completed_alike {books : Books} {g : Twister} {r : WalkResult} {x : StepResult} {o : Window}
    (hcommon : ts.take p = us.take p) (hrun : (w.overTicks m ts).run books g = (t, .ok r))
    (hx : r.steps[k]? = some x) (ho : (w.overTicks m ts).outOfSample? books g (k + 1) = some o)
    (hstop : o.stop < p) (ha : ∀ u, (w.overTicks m ts).reached books g k = some u → u.Alike u') :
    ∃ t', (w.overTicks n us).step (k + 1) u' = (t', .ok (.completed x)) ∧
      ∀ t, (w.overTicks m ts).reached books g (k + 1) = some t → t.Alike t' := by
  obtain ⟨before, after, fault, hit⟩ := exists_itinerary (w.overTicks m ts) books g
  obtain ⟨hall, hle, -⟩ := run_eq_ok hrun
  obtain ⟨u, v, hu, hstep⟩ := hall k x hx
  have hk : k < r.steps.length := (List.getElem?_eq_some_iff.mp hx).1
  obtain ⟨s₁, i, s₂, found, s₃, charts, o', s₄, score, hprepare, hsearch, hfollow, hexecute, rfl, rfl⟩ :=
    step_eq_completed hstep
  have hprepared : (w.overTicks m ts).prepared books g (k + 1) = some (s₁, i) :=
    prepared_eq_some.mpr ⟨k, u, rfl, hk.trans_le hle, hu, hprepare⟩
  have hfollowed : (w.overTicks m ts).followed books g (k + 1) = some (s₃, charts, o') :=
    followed_eq_some.mpr ⟨s₁, i, s₂, found, hprepared, hsearch, hfollow⟩
  obtain rfl : o'.window = o := by
    rw [outOfSample?, hfollowed] at ho
    exact Option.some.inj ho
  obtain ⟨j, hj, horder⟩ := hit.order ho
  obtain rfl : i.window = j := by
    rw [inSample?, hprepared] at hj
    exact Option.some.inj hj
  obtain ⟨s₀, _, _, _, h₀, hs₀⟩ := exists_reached_zero hu
  obtain ⟨t', hstep', hat⟩ := step_alike (n := n) hcommon (reached_stands h₀ hs₀ hu) (ha u hu)
    hprepare hsearch hfollow hexecute horder hstop
  refine ⟨t', hstep', fun t ht => ?_⟩
  rw [reached_succ, hu, Option.bind_some] at ht
  obtain ⟨x, hx⟩ := completed?_eq_some.mp ht
  rw [hstep] at hx
  obtain rfl := (Prod.mk.inj hx).1
  exact hat

/-- The first window in sample starts where the walk was aligned. -/
theorem start_of_first {books : Books} {g : Twister} {i : Window} (hu : w.reached books g 0 = some u)
    (hi : w.inSample? books g 1 = some i) : i.start = u.cursor := by
  obtain ⟨⟨s, j⟩, hprepared, rfl⟩ := Option.map_eq_some_iff.mp hi
  obtain ⟨n, v, hn, -, hv, hprepare⟩ := prepared_eq_some.mp hprepared
  obtain rfl : n = 0 := by omega
  obtain rfl := Option.some.inj (hu.symm.trans hv)
  obtain ⟨⟨t, happroach, hplace⟩, hcollect, -⟩ := prepare_eq_ok hprepare
  obtain rfl : u = t := by simpa [approach] using happroach
  obtain ⟨hstart, -⟩ := collectWindow_eq_ok hcollect
  rw [hstart]
  exact congrArg Prod.fst hplace

/-- Two runs come to a step alike if the windows of the first stop before the end of the common
ticks. -/
theorem exists_reached_alike {books : Books} (books' : Books) {g : Twister} {r : WalkResult}
    {x : StepResult} {o : Window}
    (hcommon : ts.take p = us.take p) (hrun : (w.overTicks m ts).run books g = (t, .ok r))
    (hx : r.steps[k]? = some x) (ho : (w.overTicks m ts).outOfSample? books g (k + 1) = some o)
    (hstop : o.stop < p) :
    ∃ u', (w.overTicks n us).reached books' g k = some u' ∧
      ∀ u, (w.overTicks m ts).reached books g k = some u → u.Alike u' := by
  obtain ⟨before, after, fault, hit⟩ := exists_itinerary (w.overTicks m ts) books g
  induction k generalizing x o with
  | zero =>
    obtain ⟨hall, -⟩ := run_eq_ok hrun
    obtain ⟨u, -, hu, -⟩ := hall 0 x hx
    obtain ⟨i, hi, -, hstart, hend⟩ := hit.order ho
    have hcursor : u.cursor ≤ p := by
      rw [← start_of_first hu hi]
      omega
    obtain ⟨⟨a, _⟩, halign, hau⟩ := Option.bind_eq_some_iff.mp hu
    obtain rfl := Option.some.inj hau
    have houtset : ((w.overTicks m ts).outset books g).Alike
        ((w.overTicks n us).outset books' g) := ⟨rfl, rfl⟩
    obtain ⟨a', halign', ha⟩ :=
      align_alike (n := n) hcommon houtset (done?_eq_some.mp halign) hcursor
    refine ⟨a', by rw [reached, done?_eq_some.mpr halign']; rfl, fun u hu' => ?_⟩
    obtain rfl := Option.some.inj (hu.symm.trans hu')
    exact ha
  | succ k ih =>
    have hk : k + 1 < r.steps.length := (List.getElem?_eq_some_iff.mp hx).1
    have hy : r.steps[k]? = some r.steps[k] := List.getElem?_eq_getElem (by omega)
    obtain ⟨-, o₁, -, ho₁, -⟩ := exists_windows_of_run hrun hy
    obtain ⟨i, hi, -, hstart, hend⟩ := hit.order ho
    obtain ⟨j, hj, hjoin, -⟩ := hit.outOfSample ho
    -- the window out of sample of the step before stops where this one starts
    have hstop₁ : o₁.stop < p := by
      have hjoined := hit.joined ho₁ ho
      obtain rfl := Option.some.inj (hi.symm.trans hj)
      omega
    obtain ⟨u', hu', ha⟩ := ih hy ho₁ hstop₁
    obtain ⟨t', hstep', hat⟩ := completed_alike (n := n) hcommon hrun hy ho₁ hstop₁ ha
    refine ⟨t', ?_, hat⟩
    rw [reached_succ, hu', Option.bind_some]
    exact completed?_eq_some.mpr ⟨_, hstep'⟩

/-- Two runs over ticks that begin alike give the same result for each step whose windows stop, in the
first run, before the end of the common ticks. The number of steps that each is asked for, and its
books, do not matter. -/
theorem steps_common {books books' : Books} {g : Twister} {r r' : WalkResult} {x : StepResult}
    {o : Window} (hcommon : ts.take p = us.take p)
    (hrun : (w.overTicks m ts).run books g = (t, .ok r))
    (hrun' : (w.overTicks n us).run books' g = (u, .ok r')) (hk : k < n) (hx : r.steps[k]? = some x)
    (ho : (w.overTicks m ts).outOfSample? books g (k + 1) = some o) (hstop : o.stop < p) :
    r'.steps[k]? = some x := by
  obtain ⟨u', hu', ha⟩ := exists_reached_alike (n := n) books' hcommon hrun hx ho hstop
  obtain ⟨t', hstep', -⟩ := completed_alike (n := n) hcommon hrun hx ho hstop ha
  obtain ⟨hall, -, v, v', hv, -, hend⟩ := run_eq_ok hrun'
  have hlt : k < r'.steps.length := by
    by_contra hge
    -- the other run would have taken all its steps, or failed at this one or at one before
    rcases hend with ⟨-, hlen, -⟩ | ⟨f, -, -, hfail⟩
    · have hsteps : (w.overTicks n us).plan.steps = n := rfl
      omega
    · rcases Nat.lt_or_eq_of_le (Nat.le_of_not_lt hge) with hlt | heq
      · obtain ⟨a, b, y, ha, hb⟩ := exists_completed_of_reached hlt hu'
        obtain rfl := Option.some.inj (ha.symm.trans hv)
        rw [hb] at hfail
        simp at hfail
      · rw [heq] at hv hfail
        obtain rfl := Option.some.inj (hu'.symm.trans hv)
        rw [hstep'] at hfail
        simp at hfail
  have hy : r'.steps[k]? = some r'.steps[k] := List.getElem?_eq_getElem hlt
  obtain ⟨a, b, ha, hb⟩ := hall k _ hy
  obtain rfl := Option.some.inj (hu'.symm.trans ha)
  rw [hstep'] at hb
  simp only [Prod.mk.injEq, Except.ok.injEq, StepEnd.completed.injEq] at hb
  rw [hy, hb.2]

end

/-- One step over daily ticks, and two steps over these and others behind them: the first step of both
is the same. -/
theorem steps_common_weekly : ∃ p t u r r' x,
    let ts := dailyTicks newYear 34
    (Configuration.weekly 2).plan = .ok p ∧
    ((buying p []).overTicks 1 ts).run Books.new (Twister.ofSeed 1) = (t, .ok r) ∧
    ((buying p []).overTicks 2 (ts ++ (dailyTicks newYear 40).drop 29)).run Books.new (Twister.ofSeed 1) =
      (u, .ok r') ∧
    r'.steps.length = 2 ∧ r.steps[0]? = some x ∧ r'.steps[0]? = some x := by
  let ts := dailyTicks newYear 34
  have h : ((Configuration.weekly 2).plan.toOption.bind fun p =>
      (done? (((buying p []).overTicks 1 ts).run Books.new (Twister.ofSeed 1))).bind fun a =>
      (done? (((buying p []).overTicks 2 (ts ++ (dailyTicks newYear 40).drop 29)).run
        Books.new (Twister.ofSeed 1))).bind fun b =>
      (((buying p []).overTicks 1 ts).outOfSample? Books.new (Twister.ofSeed 1) 1).map fun o =>
        (a.2.steps.length, b.2.steps.length, o.stop, ts.length)) = some (1, 2, 28, 29) := by
    decide +kernel
  obtain ⟨p, hp, h⟩ := Option.bind_eq_some_iff.mp h
  obtain ⟨⟨t, r⟩, hrun, h⟩ := Option.bind_eq_some_iff.mp h
  obtain ⟨⟨u, r'⟩, hrun', h⟩ := Option.bind_eq_some_iff.mp h
  obtain ⟨o, ho, h⟩ := Option.map_eq_some_iff.mp h
  simp only [Prod.mk.injEq] at h
  obtain ⟨hlen, hlen', hstop, hts⟩ := h
  rw [done?_eq_some] at hrun hrun'
  have hx : r.steps[0]? = some r.steps[0] := List.getElem?_eq_getElem (by omega)
  exact ⟨p, t, u, r, r', r.steps[0], toOption_eq_some.mp hp, hrun, hrun', hlen', hx,
    steps_common (p := ts.length) (by simp) hrun hrun' (by omega) hx ho (by omega)⟩

end Walk

end Backtest
