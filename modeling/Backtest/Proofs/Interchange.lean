import Backtest.Proofs.Abreast
import Backtest.Proofs.Course

/-!
# Walks over two sources of the same ticks

A walk does the same over two sources that are read to their end and give the same ticks. Two such walks
stand abreast all the way, with the same books, events, generator and charts. So a walk over a file does
the same as one over the ticks in the file, wherever there are blank lines.

* `Walk.reading`, a walk over another source; `WalkState.Twin`, states that differ in their cursors, which
  stand abreast; `Same`, attempts that end in such states alike;
* `Walk.gather_same`, `Walk.prepare_same`, `Walk.optimize_same`, `Walk.follow_same`,
  `Walk.execute_same`, the parts of a step; `Walk.step_same`, `Walk.steps_same`, `Walk.run_same`;
* `Walk.run_interchange`, a walk over a file.
-/

namespace Backtest

open TickSource (Abreast Parallel Complete)

/-- Two states that differ in their cursors only, which stand abreast in two sources. -/
def WalkState.Twin (A B : TickSource) (s t : WalkState) : Prop :=
  ∃ d, t = { s with cursor := d } ∧ Abreast A B s.cursor d

/-- Two stretches with the same ticks from cursors that stand abreast in two sources. -/
structure Stretch.Twin (A B : TickSource) (i j : Stretch) : Prop where
  first : j.first = i.first
  last : j.last = i.last
  ticks : j.window.ticks = i.window.ticks
  parallel : Parallel A B i.window.start j.window.start i.window.stop j.window.stop i.window.ticks

/-- Two attempts that end in twin states and agree. -/
structure Same (A B : TickSource) {β γ : Type} (R : β → γ → Prop) (a : WalkState × Except Fault β)
    (b : WalkState × Except Fault γ) : Prop where
  twin : WalkState.Twin A B a.1 b.1
  agree : Agree R a.2 b.2

section

variable {A B : TickSource} {s t : WalkState}

theorem WalkState.twin_of_abreast {d : ℤ} (h : Abreast A B s.cursor d) :
    Twin A B s { s with cursor := d } := ⟨d, rfl, h⟩

theorem WalkState.Twin.pristine (h : s.Twin A B t) : t.pristine = s.pristine := by
  obtain ⟨d, rfl, -⟩ := h
  rfl

theorem Same.ok {β γ : Type} {R : β → γ → Prop} {x : β} {y : γ} (h : s.Twin A B t) (hxy : R x y) :
    Same A B R (s, .ok x) (t, .ok y) := ⟨h, .ok hxy⟩

/-- What goes on after attempts that are the same is the same if it goes on alike. -/
theorem Same.andThen {β γ β' γ' : Type} {R : β → γ → Prop} {R' : β' → γ' → Prop}
    {a : WalkState × Except Fault β} {b : WalkState × Except Fault γ}
    {next : WalkState → β → WalkState × Except Fault β'}
    {next' : WalkState → γ → WalkState × Except Fault γ'} (h : Same A B R a b)
    (hnext : ∀ s t x y, WalkState.Twin A B s t → R x y → Same A B R' (next s x) (next' t y)) :
    Same A B R' (Backtest.andThen a next) (Backtest.andThen b next') := by
  obtain ⟨s, x⟩ := a
  obtain ⟨t, y⟩ := b
  obtain ⟨htwin, hagree⟩ := h
  cases hagree with
  | ok hxy => exact hnext s t _ _ htwin hxy
  | error f => exact ⟨htwin, .error f⟩

end

namespace Walk

/-- A walk over another source. -/
def reading (w : Walk) (source : TickSource) : Walk := { w with source }

variable {w : Walk} {A B : TickSource} {rs rs' : List Record} {s t : WalkState} {c d : ℤ} {k : ℕ}
  {i j : Stretch}

/-! ### Parts of a step -/

theorem stretch?_same {v v' : Window} (hticks : v'.ticks = v.ticks) :
    (v.stretch? = none ∧ v'.stretch? = none) ∨ ∃ first last,
      v.stretch? = some ⟨v, first, last⟩ ∧ v'.stretch? = some ⟨v', first, last⟩ := by
  unfold Window.stretch?
  rw [hticks]
  split
  · exact .inr ⟨_, _, rfl, rfl⟩
  · exact .inl ⟨rfl, rfl⟩

theorem gather_same (hA : A.Complete rs) (hB : B.Complete rs') (sample : Sample) (days : ℕ)
    (hcursors : Abreast A B c d) (h : s.Twin A B t) :
    Same A B (Stretch.Twin A B) ((w.reading A).gather sample k c days s)
      ((w.reading B).gather sample k d days t) := by
  obtain ⟨cursor, rfl, hcursor⟩ := h
  obtain ⟨v, v', hv, hv', hticks, hparallel⟩ := hcursors.collectWindow hA hB days
  simp only [gather, reading, hv, hv']
  obtain ⟨hnone, hnone'⟩ | ⟨first, last, hsome, hsome'⟩ := stretch?_same hticks.symm
  · simp only [hnone, hnone']
    exact ⟨WalkState.twin_of_abreast hcursor, .error _⟩
  · simp only [hsome, hsome', hticks]
    exact .ok (WalkState.twin_of_abreast hcursor) ⟨rfl, rfl, hticks.symm, hparallel⟩

theorem approach_same (hA : A.Complete rs) (hB : B.Complete rs') (h : s.Twin A B t) :
    Same A B Eq ((w.reading A).approach k s) ((w.reading B).approach k t) := by
  obtain ⟨cursor, rfl, hcursor⟩ := h
  unfold approach
  split
  · exact .ok (WalkState.twin_of_abreast hcursor) rfl
  · obtain ⟨ts, e, f, hwalk, hwalk', hparallel⟩ := hcursor.walkDays hA hB w.plan.outOfSampleDays
      Charts.process s.pristine
    simp only [reading, WalkState.tell, advanceCharts, hwalk, hwalk']
    exact .ok (WalkState.twin_of_abreast hparallel.stop) rfl

/-- The cursor at which a step gathers its window in sample is the one to which it moved on. -/
theorem prepare_same (hA : A.Complete rs) (hB : B.Complete rs') (h : s.Twin A B t) :
    Same A B (Stretch.Twin A B) ((w.reading A).prepare k s) ((w.reading B).prepare k t) := by
  refine (approach_same hA hB h).andThen fun s t _ _ h _ => ?_
  obtain ⟨cursor, rfl, hcursor⟩ := h
  exact gather_same hA hB .inSample w.plan.inSampleDays hcursor (WalkState.twin_of_abreast hcursor)

/-- A search does not read the source. -/
theorem optimize_same (charts : List (Chart Float)) (hticks : j.window.ticks = i.window.ticks)
    (h : s.Twin A B t) :
    Same A B Eq ((w.reading A).optimize k charts i s) ((w.reading B).optimize k charts j t) := by
  obtain ⟨cursor, rfl, hcursor⟩ := h
  simp only [optimize, reading, WalkState.tell, hticks]
  split
  · exact ⟨WalkState.twin_of_abreast hcursor, .error _⟩
  · exact .ok (WalkState.twin_of_abreast hcursor) rfl
  · exact .ok (WalkState.twin_of_abreast hcursor) rfl

theorem follow_same (hA : A.Complete rs) (hB : B.Complete rs') (charts : List (Chart Float))
    (hij : i.Twin A B j) (h : s.Twin A B t) :
    Same A B (fun x y => x.1 = y.1 ∧ x.2.Twin A B y.2) ((w.reading A).follow k charts i s)
      ((w.reading B).follow k charts j t) := by
  obtain ⟨cursor, rfl, hcursor⟩ := h
  have hreplay := hij.parallel.replayCharts charts
  simp only [follow, reading, hreplay]
  have hreplayed : Same A B Eq
      (s.tell (.stage .applyingInSample),
        (replayCharts B j.window.start j.window.stop charts).2)
      (({ s with cursor } : WalkState).tell (.stage .applyingInSample),
        (replayCharts B j.window.start j.window.stop charts).2) :=
     ⟨WalkState.twin_of_abreast hcursor, .refl _⟩
  refine hreplayed.andThen fun s t _ _ h _ => ?_
  obtain ⟨cursor, rfl, hcursor⟩ := h
  have hgather := gather_same (w := w) (k := k) hA hB .outOfSample w.plan.outOfSampleDays
    hij.parallel.stop (WalkState.twin_of_abreast (s := s.tell (.stage (.collectingOutOfSample k))) hcursor)
  exact hgather.andThen fun s t o o' h ho => .ok h ⟨rfl, ho⟩

/-- A trading does not read the source. -/
theorem execute_same (charts : List (Chart Float)) (parameters : Parameters)
    (hticks : j.window.ticks = i.window.ticks) (h : s.Twin A B t) :
    Same A B Eq ((w.reading A).execute charts i parameters s)
      ((w.reading B).execute charts j parameters t) := by
  obtain ⟨cursor, rfl, hcursor⟩ := h
  simp only [execute, reading, WalkState.tell, hticks]
  split
  · exact ⟨WalkState.twin_of_abreast hcursor, .error _⟩
  · exact ⟨WalkState.twin_of_abreast hcursor, .refl _⟩

/-! ### Steps and runs -/

theorem twin_note (e : AuditEvent) (h : s.Twin A B t) : (s.note e).Twin A B (t.note e) := by
  obtain ⟨cursor, rfl, hcursor⟩ := h
  exact WalkState.twin_of_abreast hcursor

theorem twin_tell (n : Notice) (h : s.Twin A B t) : (s.tell n).Twin A B (t.tell n) := by
  obtain ⟨cursor, rfl, hcursor⟩ := h
  exact WalkState.twin_of_abreast hcursor

theorem trade_same (hA : A.Complete rs) (hB : B.Complete rs') (charts : List (Chart Float))
    (found : SearchResult) (hij : i.Twin A B j) (h : s.Twin A B t) :
    Same A B Eq ((w.reading A).trade k charts i found s) ((w.reading B).trade k charts j found t) := by
  refine (follow_same hA hB charts hij h).andThen ?_
  rintro s t ⟨charts, o⟩ ⟨charts', o'⟩ h ⟨rfl, ho⟩
  refine (execute_same charts found.space.parameters ho.ticks h).andThen ?_
  rintro s t score score' h rfl
  cases score with
  | none => exact .ok (twin_note _ (twin_tell _ h)) rfl
  | some score =>
    refine .ok (twin_note _ h) ?_
    rw [resultOf, resultOf, hij.first, hij.last, hij.ticks, ho.first, ho.last, ho.ticks]

theorem step_same (hA : A.Complete rs) (hB : B.Complete rs') (k : ℕ) (h : s.Twin A B t) :
    Same A B Eq ((w.reading A).step k s) ((w.reading B).step k t) := by
  refine (prepare_same hA hB h).andThen fun s t i j h hij => ?_
  simp only [h.pristine]
  refine (optimize_same s.pristine hij.ticks h).andThen ?_
  rintro s' t' found found' h rfl
  cases found with
  | none => exact .ok (twin_note _ (twin_tell _ h)) rfl
  | some found => exact trade_same hA hB s.pristine found hij h

theorem steps_same (hA : A.Complete rs) (hB : B.Complete rs') (left number : ℕ)
    (h : s.Twin A B t) :
    Same A B Eq ((w.reading A).steps left number s) ((w.reading B).steps left number t) := by
  induction left generalizing number s t with
  | zero => exact .ok h rfl
  | succ left ih =>
    refine (step_same hA hB number h).andThen ?_
    rintro s t stepEnd stepEnd' h rfl
    cases stepEnd with
    | failed failure => exact .ok h rfl
    | completed r =>
      refine (ih (number + 1) h).andThen ?_
      rintro s t ⟨rest, failed⟩ ⟨rest', failed'⟩ h heq
      obtain ⟨rfl, rfl⟩ := Prod.mk.inj heq
      exact .ok h rfl

theorem align_same (hA : A.Complete rs) (hB : B.Complete rs') (h : s.Twin A B t)
    (hzero : Abreast A B 0 0) : Same A B Eq ((w.reading A).align s) ((w.reading B).align t) := by
  obtain ⟨charts, x, y, hfill, hfill', hxy⟩ := hzero.fillCharts hA hB w.plan.charts
  simp only [align, reading, hfill, hfill']
  have hfilled : Same A B (Abreast A B) (s.tell (.stage .fillingCharts), x)
      (t.tell (.stage .fillingCharts), y) := ⟨twin_tell _ h, hxy⟩
  refine hfilled.andThen fun s t c d h hcd => ?_
  obtain ⟨charts', x, y, hsunday, hsunday', hxy⟩ := hcd.advanceToSunday hA hB charts
  simp only [hsunday, hsunday']
  have hfound : Same A B (fun p q => Abreast A B p.1 q.1 ∧ p.2 = q.2)
      (s.tell (.stage .advancingToSunday), x) (t.tell (.stage .advancingToSunday), y) :=
    ⟨twin_tell _ h, hxy⟩
  refine hfound.andThen ?_
  rintro s t ⟨c, sunday⟩ ⟨d, sunday'⟩ ⟨cursor, rfl, -⟩ ⟨hcd, rfl⟩
  exact .ok (WalkState.twin_of_abreast hcd) rfl

theorem conclude_same (r : WalkResult) (h : s.Twin A B t) : (conclude r s).Twin A B (conclude r t) := by
  have htell (ns : List Notice) (s t : WalkState) (h : s.Twin A B t) :
      (ns.foldl WalkState.tell s).Twin A B (ns.foldl WalkState.tell t) := by
    induction ns generalizing s t with
    | nil => exact h
    | cons n ns ih => exact ih _ _ (twin_tell n h)
  rw [conclude, conclude, h.pristine]
  exact twin_note _ (htell _ _ _ h)

/-- A run over two sources that give the same ticks comes to the same. -/
theorem run_same (hA : A.Complete rs) (hB : B.Complete rs')
    (hticks : rs.map (·.tick) = rs'.map (·.tick)) (books : Books) (g : Twister) :
    Same A B Eq ((w.reading A).run books g) ((w.reading B).run books g) := by
  have hzero : Abreast A B 0 0 := ⟨[], rs, [], rs', hA.stands_zero, hB.stands_zero, rfl, hticks⟩
  have hstart : WalkState.Twin A B ((w.reading A).outset books g) ((w.reading B).outset books g) :=
    WalkState.twin_of_abreast (s := (w.reading A).outset books g) hzero
  refine (align_same hA hB hstart hzero).andThen fun s t _ _ h _ => ?_
  refine (steps_same hA hB w.plan.steps 1 h).andThen ?_
  rintro s t ⟨steps, failed⟩ ⟨steps', failed'⟩ h heq
  obtain ⟨rfl, rfl⟩ := Prod.mk.inj heq
  simp only [h.pristine]
  exact .ok (conclude_same _ h) rfl

/-! ### Files -/

/-- What a run comes to: its books with the trade log, its events, and its result or the fault that ended
it. -/
def outcome (w : Walk) (books : Books) (g : Twister) :
    Books × Array AuditEvent × Except Fault WalkResult :=
  let (s, result) := w.run books g
  (s.books, s.events, result)

theorem outcome_congr (hA : A.Complete rs) (hB : B.Complete rs')
    (hticks : rs.map (·.tick) = rs'.map (·.tick)) (w : Walk) (books : Books) (g : Twister) :
    (w.reading A).outcome books g = (w.reading B).outcome books g := by
  obtain ⟨⟨cursor, hstate, -⟩, hresult⟩ := run_same hA hB hticks (w := w) books g
  simp only [outcome, hstate, hresult.eq]

/-- A run over a file comes to the same as one over the ticks in the file, and as one over any other
file with these ticks. So blank lines can be put in and taken out wherever a line begins, and a newline
can be put at the end. The only files left out are those with bytes at which no offset can point. -/
theorem run_interchange {bytes : List UInt8} {ts : List (Tick Float)} (hfile : TickFile bytes ts)
    (hlength : (bytes.length : ℤ) < Int.pow 2 63) (w : Walk) (path : String) (books : Books)
    (g : Twister) :
    let outcomeOf bytes := (w.reading (.file path bytes)).outcome books g
    outcomeOf bytes = (w.reading (.memory ts)).outcome books g ∧
    (∀ path' bytes', TickFile bytes' ts → (bytes'.length : ℤ) < Int.pow 2 63 →
      (w.reading (.file path' bytes')).outcome books g = outcomeOf bytes) ∧
    (((bytes ++ [10]).length : ℤ) < Int.pow 2 63 → outcomeOf (bytes ++ [10]) = outcomeOf bytes) ∧
    ∀ before blank after, EndsLine before → blank.all Reader.isBlankByte = true →
      (EndsLine blank ∨ after = []) → ((before ++ blank ++ after).length : ℤ) < Int.pow 2 63 →
      (bytes = before ++ after → outcomeOf (before ++ blank ++ after) = outcomeOf bytes) ∧
      (bytes = before ++ blank ++ after → outcomeOf (before ++ after) = outcomeOf bytes) := by
  intro outcomeOf
  have hmemory (path : String) {bytes} (hfile : TickFile bytes ts)
      (hlength : (bytes.length : ℤ) < Int.pow 2 63) :
      (w.reading (.file path bytes)).outcome books g = (w.reading (.memory ts)).outcome books g := by
    obtain ⟨rs, hrs, hts⟩ := hfile.complete hlength path
    exact outcome_congr hrs (TickSource.complete_memory ts) (by rw [hts, map_tick_numbered]) w books g
  have hbase := hmemory path hfile hlength
  have hother (path' : String) {bytes'} (hfile' : TickFile bytes' ts)
      (hlength' : (bytes'.length : ℤ) < Int.pow 2 63) :
      (w.reading (.file path' bytes')).outcome books g = outcomeOf bytes :=
    (hmemory path' hfile' hlength').trans hbase.symm
  refine ⟨hbase, fun path' bytes' => hother path', hother path hfile.concat, ?_⟩
  intro before blank after hbefore hblank hend hlength'
  have hinsert : TickFile (before ++ blank ++ after) ts ↔ TickFile (before ++ after) ts :=
    TickFile.insert hbefore hblank hend
  refine ⟨?_, ?_⟩
  · rintro rfl
    exact hother path (hinsert.mpr hfile) hlength'
  · rintro rfl
    refine hother path (hinsert.mp hfile) ?_
    simp only [List.length_append] at hlength' ⊢
    omega

/-- A walk of two steps with windows of two days, two trials and a variable of each kind. -/
def brief : Walk where
  plan :=
    { iterations := 2
      steps := 2
      inSampleDays := 2
      outOfSampleDays := 2
      charts := [.new "candlestick" .m1 2]
      space := ⟨[("flag", false)], [("x", ⟨0.25, 0.75, 0.0⟩)], [("n", ⟨3, 9, 0⟩)]⟩ }
  source := .memory []
  strategy := .ok .buyer
  settings := { deposit := 10000, drawdownLimit := -10, jpyQuote := false }

/-- The line of a tick at noon, with a blank line behind it. -/
def spacedLine (d : Date) (price : ℕ) : List UInt8 :=
  let date := s!"{Moment.twoDigits d.month}/{Moment.twoDigits d.day}/{d.year}"
  s!"{date} 12:00:00,{price},{price + 1}\r\n  \n".toUTF8.toList

/-- The days from the new year on that have a tick. -/
def tickDays (n : ℕ) : List ℕ :=
  (List.range n).filter fun k =>
    (Instant.ofMoment (.ofSecondOfDay (newYear.addDays k) 43200)).weekday != 6

/-- A file of daily ticks with a blank line in front and one behind each. -/
def spacedFile (n : ℕ) : List UInt8 :=
  10 :: (tickDays n).flatMap fun k => spacedLine (newYear.addDays k) (100 + k)

/-- Two steps over a file with blank lines. -/
theorem run_interchange_spaced :
    TickFile (spacedFile 10) (dailyTicks newYear 10) ∧
    (brief.reading (.file "ticks.csv" (spacedFile 10))).outcome Books.new (Twister.ofSeed 1) =
      (brief.reading (.memory (dailyTicks newYear 10))).outcome Books.new (Twister.ofSeed 1) ∧
    ∃ r, ((brief.reading (.file "ticks.csv" (spacedFile 10))).outcome Books.new (Twister.ofSeed 1)).2.2 =
      .ok r ∧ r.steps.length = 2 := by
  have hfile : TickFile (spacedFile 10) (dailyTicks newYear 10) := by decide +kernel
  have hsame : (brief.reading (.file "ticks.csv" (spacedFile 10))).outcome Books.new (Twister.ofSeed 1) =
      (brief.reading (.memory (dailyTicks newYear 10))).outcome Books.new (Twister.ofSeed 1) :=
    (run_interchange hfile (by decide +kernel) brief "ticks.csv" Books.new (Twister.ofSeed 1)).1
  have hsteps : ((brief.reading (.memory (dailyTicks newYear 10))).outcome Books.new
      (Twister.ofSeed 1)).2.2.toOption.map (·.steps.length) = some 2 := by
    decide +kernel
  obtain ⟨r, hr, hlength⟩ := Option.map_eq_some_iff.mp hsteps
  exact ⟨hfile, hsame, r, hsame ▸ toOption_eq_some.mp hr, hlength⟩

end Walk

end Backtest
