import Backtest.Proofs.TickFile

/-!
# Two sources of the same ticks

The cursors of two sources cannot be compared, but they can stand between the same ticks. Whatever is
done with windows and charts from two such cursors gives the same ticks and the same charts, and leads
to two such cursors again.

* `TickSource.Stands`, a cursor between two parts of a stream that is read to its end;
* `TickSource.Parallel`, two stretches of two sources with the same ticks; `TickSource.Abreast`, two
  cursors between the same ticks;
* `Agree`, two attempts that both succeed, with results that are related, or fail alike;
* `Abreast.walkDays`, `Abreast.collectWindow`, `Parallel.replayCharts`, `Abreast.fillCharts`,
  `Abreast.advanceToSunday`, what is done from cursors that stand abreast.
-/

namespace Backtest

/-! ### Days of ticks -/

theorem firstDay_congr {rs rs' : List Record} (h : rs.map (·.tick) = rs'.map (·.tick)) :
    (firstDay rs).map (·.tick) = (firstDay rs').map (·.tick) := by
  have hmap (r : Record) (rs : List Record) : (firstDay (r :: rs)).map (·.tick) =
      r.tick :: (rs.map (·.tick)).takeWhile (·.day == r.tick.day) := by
    rw [List.takeWhile_map]
    rfl
  cases rs <;> cases rs' <;> simp_all

theorem laterDays_congr {rs rs' : List Record} (h : rs.map (·.tick) = rs'.map (·.tick)) :
    (laterDays rs).map (·.tick) = (laterDays rs').map (·.tick) := by
  have hmap (r : Record) (rs : List Record) : (laterDays (r :: rs)).map (·.tick) =
      (rs.map (·.tick)).dropWhile (·.day == r.tick.day) := by
    rw [List.dropWhile_map]
    rfl
  cases rs <;> cases rs' <;> simp_all

/-- Where days end depends on the ticks alone. -/
theorem days_congr (n : ℕ) {rs rs' : List Record} (h : rs.map (·.tick) = rs'.map (·.tick)) :
    (days n rs).map (·.tick) = (days n rs').map (·.tick) ∧
      (afterDays n rs).map (·.tick) = (afterDays n rs').map (·.tick) := by
  induction n generalizing rs rs' with
  | zero => exact ⟨rfl, h⟩
  | succ n ih =>
    obtain ⟨hdays, hafter⟩ := ih (laterDays_congr h)
    rw [days_succ, days_succ, List.map_append, List.map_append, firstDay_congr h, hdays]
    exact ⟨rfl, hafter⟩

namespace TickSource

/-! ### Cursors -/

/-- A cursor between two parts of a stream that is read to its end. -/
structure Stands (source : TickSource) (c : ℤ) (before after : List Record) : Prop where
  cut : source.Cut c before after none
  records : (source.readFrom c).records = (after, none)

section

variable {source : TickSource} {rs before after seen rest : List Record} {r : Record} {c e : ℤ}

theorem Complete.stands_zero (h : source.Complete rs) : source.Stands 0 [] rs := by
  have hcut := cut_zero source
  rw [h.stream] at hcut
  exact ⟨hcut, h.stream⟩

theorem Stands.stream_eq (h : source.Complete rs) (hc : source.Stands c before after) :
    rs = before ++ after := by
  have heq := h.stream.symm.trans hc.cut.stream
  exact (Prod.mk.inj heq).1

theorem Complete.stands_next (h : source.Complete rs) (hc : source.Stands c before (seen ++ r :: rest)) :
    source.Stands r.next (before ++ (seen ++ [r])) rest := by
  have hrs := hc.stream_eq h
  rw [← List.append_assoc] at hrs
  refine ⟨?_, (h.again _ r rest hrs).2⟩
  rw [← List.append_assoc]
  exact cut_next (h.stream.trans (by rw [hrs]))

/-- The cursor at which a walk ends stands between what it has seen and the rest. -/
theorem Complete.stands_walkEnd (h : source.Complete rs) (hc : source.Stands c before (seen ++ rest)) :
    ∃ e, walkEnd c none seen rest = .ok e ∧ source.Stands e (before ++ seen) rest := by
  cases rest with
  | cons r rest =>
    have hrs := hc.stream_eq h
    rw [← List.append_assoc] at hrs
    exact ⟨r.position, rfl, hc.cut.to_walkEnd rfl, (h.again _ r rest hrs).1⟩
  | nil =>
    refine ⟨lastNext c seen, rfl, ?_⟩
    rcases List.eq_nil_or_concat seen with rfl | ⟨init, last, rfl⟩
    · simpa using hc
    · rw [List.concat_eq_append] at hc ⊢
      rw [lastNext_append_singleton]
      exact h.stands_next (by simpa using hc)

end

/-! ### Two sources -/

/-- Stretches of two sources from two cursors to two others with the same ticks, and with the same ticks
before them and behind them. -/
def Parallel (A B : TickSource) (c d e f : ℤ) (ts : List (Tick Float)) : Prop :=
  ∃ before seen rest before' seen' rest',
    (A.Stands c before (seen ++ rest) ∧ A.Stands e (before ++ seen) rest) ∧
    (B.Stands d before' (seen' ++ rest') ∧ B.Stands f (before' ++ seen') rest') ∧
    before.map (·.tick) = before'.map (·.tick) ∧
    (seen.map (·.tick) = ts ∧ seen'.map (·.tick) = ts) ∧
    rest.map (·.tick) = rest'.map (·.tick)

/-- Cursors of two sources between the same ticks. -/
def Abreast (A B : TickSource) (c d : ℤ) : Prop :=
  ∃ before after before' after', A.Stands c before after ∧ B.Stands d before' after' ∧
    before.map (·.tick) = before'.map (·.tick) ∧ after.map (·.tick) = after'.map (·.tick)

end TickSource

/-- Two attempts that both succeed, with related results, or fail with the same fault. -/
inductive Agree {β γ : Type} (R : β → γ → Prop) : Except Fault β → Except Fault γ → Prop
  | ok {x : β} {y : γ} (h : R x y) : Agree R (.ok x) (.ok y)
  | error (f : Fault) : Agree R (.error f) (.error f)

theorem Agree.refl {β : Type} (x : Except Fault β) : Agree Eq x x := by
  cases x with
  | error f => exact .error f
  | ok y => exact .ok rfl

theorem Agree.eq {β : Type} {x y : Except Fault β} (h : Agree Eq x y) : x = y := by
  cases h with
  | ok h => rw [h]
  | error f => rfl

namespace TickSource

variable {A B : TickSource} {rs rs' : List Record} {c d e f : ℤ} {ts : List (Tick Float)}
  {charts : List (Chart Float)}

theorem Parallel.stop (h : Parallel A B c d e f ts) : Abreast A B e f := by
  obtain ⟨before, seen, rest, before', seen', rest', ⟨-, he⟩, ⟨-, hf⟩, hbefore, ⟨hseen, hseen'⟩,
    hrest⟩ := h
  refine ⟨_, _, _, _, he, hf, ?_, hrest⟩
  rw [List.map_append, List.map_append, hbefore, hseen, hseen']

/-- From cursors that stand abreast walks over days see the same ticks. -/
theorem Abreast.walkDays {σ : Type} (hA : A.Complete rs) (hB : B.Complete rs')
    (h : Abreast A B c d) (target : ℤ) (onTick : σ → Tick Float → σ) (state : σ) :
    ∃ ts e f, Backtest.walkDays A c target onTick state = (ts.foldl onTick state, .ok e) ∧
      Backtest.walkDays B d target onTick state = (ts.foldl onTick state, .ok f) ∧
      Parallel A B c d e f ts := by
  obtain ⟨before, after, before', after', hc, hd, hbefore, hafter⟩ := h
  let n := DayCounter.endsFor target
  obtain ⟨hdays, hrest⟩ := days_congr n hafter
  have hwalk : Backtest.walkDays A c target onTick state = _ := walkDays_eq onTick hc.records
  have hwalk' : Backtest.walkDays B d target onTick state = _ := walkDays_eq onTick hd.records
  rw [← days_append_afterDays n after] at hc
  rw [← days_append_afterDays n after'] at hd
  obtain ⟨e, he, hec⟩ := hA.stands_walkEnd hc
  obtain ⟨f, hf, hfd⟩ := hB.stands_walkEnd hd
  refine ⟨(days n after).map (·.tick), e, f, ?_, ?_, ?_⟩
  · rw [hwalk, ← he]
  · rw [hwalk', ← hf, hdays]
  · exact ⟨before, _, _, before', _, _, ⟨hc, hec⟩, ⟨hd, hfd⟩, hbefore, ⟨rfl, hdays.symm⟩, hrest⟩

/-- From cursors that stand abreast windows with the same ticks are gathered. -/
theorem Abreast.collectWindow (hA : A.Complete rs) (hB : B.Complete rs') (h : Abreast A B c d)
    (target : ℤ) : ∃ v v', Backtest.collectWindow A c target = .ok v ∧
      Backtest.collectWindow B d target = .ok v' ∧ v.ticks = v'.ticks ∧
      Parallel A B v.start v'.start v.stop v'.stop v.ticks := by
  obtain ⟨ts, e, f, hwalk, hwalk', hparallel⟩ := h.walkDays hA hB target
    (fun (ts : Array (Tick Float)) t => ts.push t) #[]
  refine ⟨⟨c, e, ts⟩, ⟨d, f, ts⟩, ?_, ?_, rfl, hparallel⟩
  · simp [Backtest.collectWindow, hwalk, Except.map]
  · simp [Backtest.collectWindow, hwalk', Except.map]

/-- A replay of stretches with the same ticks shows the charts these. -/
theorem Parallel.replayCharts (h : Parallel A B c d e f ts) (charts : List (Chart Float)) :
    Backtest.replayCharts A c e charts = Backtest.replayCharts B d f charts := by
  obtain ⟨before, seen, rest, before', seen', rest', ⟨hc, he⟩, ⟨hd, hf⟩, -, ⟨hseen, hseen'⟩, -⟩ := h
  have hlength : seen.length = seen'.length := by
    simpa using congrArg List.length (hseen.trans hseen'.symm)
  rw [he.cut.replay (fun _ => rfl) hc.records, hf.cut.replay (fun _ => rfl) hd.records,
    hseen, hseen', hlength]

/-! ### Searches -/

/-- A visitor that minds the ticks of records alone, and answers with a record at which it stops. -/
structure MindsTicks {σ ρ : Type} (visit : σ → Record → σ × Option ρ) (answer : Record → ρ) : Prop where
  congr : ∀ s r q, r.tick = q.tick →
    (visit s r).1 = (visit s q).1 ∧ (visit s r).2.isSome = (visit s q).2.isSome
  answers : ∀ s r x, (visit s r).2 = some x → x = answer r

/-- Such a visitor stops at the same place among records with the same ticks. -/
theorem scanRecords_congr {σ ρ : Type} {visit : σ → Record → σ × Option ρ} {answer : Record → ρ}
    (hvisit : MindsTicks visit answer) {rs rs' : List Record}
    (h : rs.map (·.tick) = rs'.map (·.tick)) (state : σ) :
    ∃ state', (scanRecords visit none rs state = (state', .ended) ∧
        scanRecords visit none rs' state = (state', .ended)) ∨
      ∃ seen r rest seen' r' rest', rs = seen ++ r :: rest ∧ rs' = seen' ++ r' :: rest' ∧
        seen.map (·.tick) = seen'.map (·.tick) ∧ r.tick = r'.tick ∧
        rest.map (·.tick) = rest'.map (·.tick) ∧
        scanRecords visit none rs state = (state', .stopped (answer r)) ∧
        scanRecords visit none rs' state = (state', .stopped (answer r')) := by
  induction rs generalizing rs' state with
  | nil =>
    obtain rfl := List.map_eq_nil_iff.mp h.symm
    exact ⟨state, .inl ⟨rfl, rfl⟩⟩
  | cons r rs ih =>
    cases rs' with
    | nil => simp at h
    | cons r' rs' =>
      obtain ⟨htick, hrest⟩ := List.cons.inj h
      obtain ⟨hstate, hstop⟩ := hvisit.congr state r r' htick
      rcases hv : visit state r with ⟨u, x⟩
      rcases hv' : visit state r' with ⟨u', x'⟩
      rw [hv, hv'] at hstate hstop
      obtain rfl : u = u' := hstate
      cases x with
      | some x =>
        obtain ⟨x', rfl⟩ := Option.isSome_iff_exists.mp hstop.symm
        obtain rfl := hvisit.answers state r x (by rw [hv])
        obtain rfl := hvisit.answers state r' x' (by rw [hv'])
        refine ⟨u, .inr ⟨[], r, rs, [], r', rs', rfl, rfl, rfl, htick, hrest, ?_, ?_⟩⟩
        · rw [scanRecords, hv]
        · rw [scanRecords, hv']
      | none =>
        obtain rfl : x' = none := by simpa using hstop.symm
        rw [scanRecords, hv, scanRecords, hv']
        obtain ⟨state', hends | hstops⟩ := ih hrest u
        · exact ⟨state', .inl hends⟩
        · obtain ⟨seen, q, rest, seen', q', rest', rfl, rfl, hseen, hq, hrest', hscan, hscan'⟩ := hstops
          exact ⟨state', .inr ⟨r :: seen, q, rest, r' :: seen', q', rest', rfl, rfl,
            List.cons_eq_cons.mpr ⟨htick, hseen⟩, hq, hrest', hscan, hscan'⟩⟩

/-- From cursors that stand abreast such a visitor comes to cursors that stand abreast. -/
theorem Abreast.scan {σ ρ : Type} {visit : σ → Record → σ × Option ρ} {answer : Record → ρ}
    (hA : A.Complete rs) (hB : B.Complete rs') (h : Abreast A B c d)
    (hvisit : MindsTicks visit answer) (state : σ) :
    ∃ state', ((A.readFrom c).scan visit state = (state', .ended) ∧
        (B.readFrom d).scan visit state = (state', .ended)) ∨
      ∃ r q, r.tick = q.tick ∧ Abreast A B r.next q.next ∧
        (A.readFrom c).scan visit state = (state', .stopped (answer r)) ∧
        (B.readFrom d).scan visit state = (state', .stopped (answer q)) := by
  obtain ⟨before, after, before', after', hc, hd, hbefore, hafter⟩ := h
  rw [Reader.scan_eq, Reader.scan_eq, hc.records, hd.records]
  obtain ⟨state', hends | hstops⟩ := scanRecords_congr hvisit hafter state
  · exact ⟨state', .inl hends⟩
  · obtain ⟨seen, r, rest, seen', q, rest', rfl, rfl, hseen, hrq, hrest, hscan, hscan'⟩ := hstops
    refine ⟨state', .inr ⟨r, q, hrq, ?_, hscan, hscan'⟩⟩
    refine ⟨_, _, _, _, hA.stands_next hc, hB.stands_next hd, ?_, hrest⟩
    simp [hbefore, hseen, hrq]

theorem mindsTicks_fillVisit : MindsTicks fillVisit (·.next) where
  congr s r q h := by
    simp only [fillVisit, h]
    split <;> simp
  answers s r x h := by
    simp only [fillVisit, Option.ite_none_right_eq_some, Option.some.injEq] at h
    exact h.2.symm

theorem mindsTicks_sundaySearch : MindsTicks SundaySearch.visit fun r => (r.next, r.tick) where
  congr s r q h := by
    simp only [SundaySearch.visit, h]
    cases s.startDay with
    | none => exact ⟨rfl, rfl⟩
    | some day =>
      refine ⟨rfl, ?_⟩
      simp only
      split <;> rfl
  answers s r x h := visit_eq_some (Prod.ext rfl h)

/-- From cursors that stand abreast charts are filled alike. -/
theorem Abreast.fillCharts (hA : A.Complete rs) (hB : B.Complete rs') (h : Abreast A B c d)
    (charts : List (Chart Float)) : ∃ charts' x y,
      Backtest.fillCharts A charts c = (charts', x) ∧ Backtest.fillCharts B charts d = (charts', y) ∧
      Agree (Abreast A B) x y := by
  unfold Backtest.fillCharts
  obtain ⟨charts', ⟨hscan, hscan'⟩ | ⟨r, q, -, habreast, hscan, hscan'⟩⟩ :=
    h.scan hA hB mindsTicks_fillVisit charts
  · rw [hscan, hscan']
    exact ⟨charts', _, _, rfl, rfl, .error _⟩
  · rw [hscan, hscan']
    exact ⟨charts', _, _, rfl, rfl, .ok habreast⟩

/-- From cursors that stand abreast charts are moved on to the same Sunday. -/
theorem Abreast.advanceToSunday (hA : A.Complete rs) (hB : B.Complete rs') (h : Abreast A B c d)
    (charts : List (Chart Float)) : ∃ charts' x y,
      Backtest.advanceToSunday A charts c = (charts', x) ∧
      Backtest.advanceToSunday B charts d = (charts', y) ∧
      Agree (fun p q => Abreast A B p.1 q.1 ∧ p.2 = q.2) x y := by
  unfold Backtest.advanceToSunday
  obtain ⟨s, ⟨hscan, hscan'⟩ | ⟨r, q, htick, habreast, hscan, hscan'⟩⟩ :=
    h.scan hA hB mindsTicks_sundaySearch { charts, startDay := none, dayChanged := false }
  · simp only [hscan, hscan']
    exact ⟨s.charts, _, _, rfl, rfl, .error _⟩
  · simp only [hscan, hscan']
    exact ⟨s.charts, _, _, rfl, rfl, .ok ⟨habreast, htick⟩⟩

end TickSource

end Backtest
