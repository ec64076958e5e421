import Backtest.Proofs.ChartFeed

/-!
# Reading on behind a walk

Reading from the cursor at which a walk over days ended gives the records behind those that the walk
visited, wherever it began. So it makes no difference whether a window is gathered, passed over or
replayed between its cursors.

* `TickSource.Fits`, a source with a cursor at each of its places; `TickSource.Fits.again`, reading it
  again from the cursors beside a record;
* `InOrder.place_walkEnd`, the cursor at which a walk ends stands between what it visited and the rest;
  `TickSource.Fits.records_walkEnd`, reading from there;
* `TickSource.traversals_agree`, the main statement.
-/

namespace Backtest

/-! ### The last offset of a file -/

namespace Reader

theorem length_firstLine_add (bs : List UInt8) :
    (firstLine bs).length + (afterLine bs).length = bs.length := by
  rw [← List.length_append, firstLine_append_afterLine]

/-- A line that is read ends at the offset behind it, and the lines up to there and what is left make up
what there was. -/
theorem length_of_nextLine {path : String} {offset stop : ℕ} {rest after : List UInt8} {r : Record}
    (h : nextLine path offset rest = some (.ok (r, stop, after))) :
    r.next = stop ∧ stop + after.length = offset + rest.length := by
  fun_induction nextLine path offset rest with
  | case1 => simp at h
  | case2 offset rest hne line next hb ih =>
    have hsplit : line.length + (afterLine rest).length = rest.length := length_firstLine_add rest
    obtain ⟨hnext, hlength⟩ := ih h
    exact ⟨hnext, by omega⟩
  | case3 => simp at h
  | case4 offset rest hne line next hb tick ht =>
    have hsplit : line.length + (afterLine rest).length = rest.length := length_firstLine_add rest
    simp only [Option.some.injEq, Except.ok.injEq, Prod.mk.injEq] at h
    obtain ⟨rfl, rfl, rfl⟩ := h
    exact ⟨rfl, by omega⟩

/-- No record of lines ends behind their last byte. -/
theorem next_le_of_mem_records {path : String} {offset : ℕ} {rest : List UInt8} {r : Record}
    (h : r ∈ (Reader.lines path offset rest).records.1) : r.next ≤ (offset + rest.length : ℕ) := by
  rcases hline : nextLine path offset rest with _ | f | ⟨q, stop, after⟩
  · have hnext : (Reader.lines path offset rest).next = none := by simp [Reader.next, hline]
    simp [records_of_next_none hnext] at h
  · have hnext : (Reader.lines path offset rest).next = some (.error f) := by
      simp [Reader.next, hline]
    simp [records_of_next_error hnext] at h
  · have hnext : (Reader.lines path offset rest).next = some (.ok (q, .lines path stop after)) := by
      simp [Reader.next, hline]
    obtain ⟨hstop, hlength⟩ := length_of_nextLine hline
    rw [records_of_next_ok hnext] at h
    rcases List.mem_cons.mp h with rfl | h
    · omega
    · have hle := next_le_of_mem_records h
      omega
termination_by rest.length
decreasing_by exact length_lt_of_nextLine hline

end Reader

namespace TickSource

variable {source : TickSource} {c e target : ℤ} {before after seen rest : List Record} {r : Record}
  {fault : Option Fault}

/-- A source with a cursor at each of its places. The only sources left out are files with bytes at
which no offset can point. -/
def Fits : TickSource → Prop
  | .file _ bytes => (bytes.length : ℤ) < Int.pow 2 63
  | _ => True

instance : DecidablePred Fits
  | .file _ bytes => inferInstanceAs (Decidable ((bytes.length : ℤ) < Int.pow 2 63))
  | .memory _ => .isTrue trivial
  | .directory _ => .isTrue trivial

/-- A cursor up to the end of a record can be read from. -/
theorem Fits.readable (h : source.Fits) (hc : 0 ≤ c) (hr : r ∈ (source.readFrom c).records.1)
    (he : 0 ≤ e) (hle : e ≤ r.next) : source.readFrom e ≠ .failing .cursorTooLarge := by
  cases source with
  | memory ts => simp [readFrom, ticksFrom, he]
  | directory path => simp [readFrom]
  | file path bytes =>
    obtain ⟨n, rfl⟩ := Int.eq_ofNat_of_zero_le hc
    rcases (Offers.lines path bytes n).readFrom with hf | hf
    · rw [hf, Reader.records_of_next_error rfl] at hr
      simp at hr
    · -- the record ends within the file, so the cursor stands within it
      rw [hf] at hr
      have hin : n < bytes.length := by
        by_contra hout
        have hnone : (Reader.lines path n (bytes.drop n)).records = ([], none) := by
          rw [List.drop_of_length_le (by omega)]
          exact Reader.records_of_next_none (by simp [Reader.next, Reader.nextLine])
        simp [hnone] at hr
      have hend := Reader.next_le_of_mem_records hr
      rw [List.length_drop] at hend
      have hsize : (bytes.length : ℤ) < Int.pow 2 63 := h
      have hinside : ¬ (e < -Int.pow 2 63 || Int.pow 2 63 ≤ e) = true := by
        have hpos : (0 : ℤ) < Int.pow 2 63 := by decide
        simp only [Bool.or_eq_true, decide_eq_true_eq]
        omega
      intro hfail
      rw [readFrom, linesFrom, if_neg hinside, if_neg (Int.not_lt.mpr he)] at hfail
      cases hfail

/-- Reading again from the cursors beside a record gives it and what stood behind it. -/
theorem Fits.again (h : source.Fits) (hc : 0 ≤ c)
    (hs : (source.readFrom c).records = (before ++ r :: after, fault)) :
    (source.readFrom r.position).records = (r :: after, fault) ∧
      (source.readFrom r.next).records = (after, fault) := by
  have hr : r ∈ (source.readFrom c).records.1 := by simp [hs]
  have horder := source.inOrder_readFrom hc
  have hle := horder.le r hr
  have hlt := horder.lt r hr
  obtain ⟨hposition, hnext⟩ := reads_split hc hs
  exact ⟨hposition.resolve_left (h.readable hc hr (by omega) (by omega)),
    hnext.resolve_left (h.readable hc hr (by omega) (by omega))⟩

end TickSource

/-! ### Where a walk ends -/

/-- The cursor at which a walk ends stands between the records that it visited and the rest, and behind
the cursor from which it began if it visited any. -/
theorem InOrder.place_walkEnd {c e : ℤ} {seen rest : List Record} {fault : Option Fault}
    (h : InOrder c (seen ++ rest)) (he : walkEnd c fault seen rest = .ok e) :
    (∀ r ∈ seen, r.position < e) ∧ (∀ r ∈ rest, e ≤ r.position) ∧ c ≤ e ∧ (seen ≠ [] → c < e) := by
  rcases of_walkEnd he with ⟨q, later, rfl, rfl⟩ | ⟨rfl, rfl, ⟨init, last, rfl, rfl⟩ | ⟨rfl, rfl⟩⟩
  · have hq := h.le q (by simp)
    have hbefore (r : Record) (hr : r ∈ seen) : c ≤ r.position ∧ r.position < q.position := by
      have hle := h.le r (by simp [hr])
      have hlt := h.lt r (by simp [hr])
      have hnext := h.next_le hr (r := q) List.mem_cons_self
      omega
    refine ⟨fun r hr => (hbefore r hr).2, fun r hr => ?_, hq, fun hseen => ?_⟩
    · rcases List.mem_cons.mp hr with rfl | hr
      · exact Int.le_refl r.position
      · have hlt := h.lt q (by simp)
        have hle := (List.pairwise_cons.mp (List.pairwise_append.mp h.apart).2.1).1 r hr
        omega
    · obtain ⟨r, hr⟩ := List.exists_mem_of_ne_nil seen hseen
      have := hbefore r hr
      omega
  · rw [List.append_nil] at h
    have hle := h.le last (by simp)
    have hlt := h.lt last (by simp)
    refine ⟨fun r hr => ?_, by simp, by omega, fun _ => by omega⟩
    rcases List.mem_append.mp hr with hr | hr
    · have hmem := h.lt r (by simp [hr])
      have hnext := h.next_le hr (r := last) (by simp)
      omega
    · rwa [List.mem_singleton.mp hr]
  · simp

namespace TickSource

variable {source : TickSource} {c e : ℤ} {seen rest : List Record} {fault : Option Fault}

/-- Reading from the cursor at which a walk ended gives what the walk did not visit. -/
theorem Fits.records_walkEnd (h : source.Fits) (hc : 0 ≤ c)
    (hs : (source.readFrom c).records = (seen ++ rest, fault))
    (he : walkEnd c fault seen rest = .ok e) : (source.readFrom e).records = (rest, fault) := by
  rcases of_walkEnd he with ⟨q, later, rfl, rfl⟩ | ⟨rfl, rfl, ⟨init, last, rfl, rfl⟩ | ⟨rfl, rfl⟩⟩
  · exact (h.again hc hs).1
  · exact (h.again hc (by simpa using hs)).2
  · exact hs

/-- Gathering a window, passing over it and replaying it between its cursors are the same journey. The
charts end up as if every tick of the window had been shown to each of them in turn, the three stop at
the same cursor, and reading on from there gives the records behind the window. Where gathering meets a
malformed line, so does passing over it. -/
theorem traversals_agree (hfits : source.Fits) {start : ℤ} (hstart : 0 ≤ start) (target : ℤ)
    (charts : List (Chart Float)) :
    (∀ w, collectWindow source start target = .ok w →
      let shown := charts.map fun chart => w.ticks.foldl Chart.process chart
      let (rs, fault) := (source.readFrom start).records
      w.start = start ∧
      advanceCharts source start target charts = (shown, .ok w.stop) ∧
      replayCharts source w.start w.stop charts = (shown, .ok w.ticks.length) ∧
      w.ticks = (rs.take w.ticks.length).map (·.tick) ∧
      (source.readFrom w.stop).records = (rs.drop w.ticks.length, fault)) ∧
    ∀ f, collectWindow source start target = .error f →
      (advanceCharts source start target charts).2 = .error f := by
  obtain ⟨rs, fault, hs⟩ : ∃ rs fault, (source.readFrom start).records = (rs, fault) := ⟨_, _, rfl⟩
  have hsplit := days_append_afterDays (DayCounter.endsFor target) rs
  have hadvance : advanceCharts source start target charts = _ := walkDays_eq Charts.process hs
  rw [collectWindow_eq hs, hadvance]
  generalize days (DayCounter.endsFor target) rs = seen at *
  generalize afterDays (DayCounter.endsFor target) rs = rest at *
  subst hsplit
  cases he : walkEnd start fault seen rest with
  | error f => simp [Except.map]
  | ok stop =>
    refine ⟨fun w hw => ?_, by simp [Except.map]⟩
    obtain rfl := Except.ok.inj hw
    have hshown : Charts.processAll charts (seen.map (·.tick)) =
        charts.map fun chart => (seen.map (·.tick)).foldl Chart.process chart :=
      Charts.processAll_eq_map charts _
    have horder := source.inOrder_readFrom hstart
    rw [hs] at horder ⊢
    obtain ⟨hbefore, hbehind, -⟩ := horder.place_walkEnd he
    have hreplay : replayCharts source start stop charts = _ :=
      replayCharts_eq hs hbefore hbehind (fault_of_walkEnd he)
    rw [hshown] at hreplay
    refine ⟨rfl, Prod.ext hshown rfl, ?_, ?_, ?_⟩
    · simpa using hreplay
    · simp
    · simpa using hfits.records_walkEnd hstart hs he

/-- A window of one day, with blank lines in front of its tick and between its tick and the next one. -/
theorem traversals_agree_spaced :
    let source : TickSource := .file "ticks.csv"
      "\n01/05/2014 12:00:00,1.5,1.25\r\n  \n\n01/06/2014 12:00:00,1.5,1.25\n \n".toUTF8.toList
    ∃ w, collectWindow source 0 1 = .ok w ∧ w.stop = 35 ∧ w.ticks.length = 1 ∧
      ∀ charts, replayCharts source 0 35 charts =
        (charts.map fun chart => w.ticks.foldl Chart.process chart, .ok 1) := by
  intro source
  have hwindow : (collectWindow source 0 1).toOption.map (fun w => (w.stop, w.ticks.length)) =
      some (35, 1) := by decide +kernel
  cases hw : collectWindow source 0 1 with
  | error f => simp [hw, Except.toOption] at hwindow
  | ok w =>
    simp only [hw, Except.toOption, Option.map_some, Option.some.injEq, Prod.mk.injEq] at hwindow
    obtain ⟨hstop, hlength⟩ := hwindow
    refine ⟨w, rfl, hstop, hlength, fun charts => ?_⟩
    obtain ⟨hstart, -, hreplay, -⟩ :=
      (traversals_agree (by decide +kernel) (Int.le_refl 0) 1 charts).1 w hw
    rwa [hstart, hstop, hlength] at hreplay

end TickSource

end Backtest
