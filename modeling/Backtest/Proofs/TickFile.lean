import Backtest.Proofs.Memory

/-!
# Tick files

The stream of a file is the ticks on those of its lines that are not blank. Wherever lines begin, blank
lines can be put in without changing it. Offsets are numbers below `2 ^ 63`; a file is shorter than that.

* `lines`, the lines of bytes; `lines_eq_cons`, line by line; `lines_append`, at the start of a line;
* `TickFile`, bytes whose lines hold certain ticks; `TickFile.insert`, blank lines make no difference;
  `TickFile.concat`, nor does a newline at the end; `TickFile.exists_records`, what is read of them;
* `TickSource.Complete`, a source that can be read to its end, from the start and from beside each of
  its records; `TickSource.complete_memory`, `TickFile.complete`.
-/

namespace Backtest

open Reader

/-! ### Lines -/

/-- The lines of bytes, each with its newline if it has one. -/
def lines : List UInt8 → List (List UInt8)
  | [] => []
  | b :: bs =>
    if b == 10 then [b] :: lines bs
    else match lines bs with
      | [] => [[b]]
      | l :: ls => (b :: l) :: ls

@[simp] theorem lines_nil : lines [] = [] := rfl

/-- Bytes begin with a line and go on with the others. -/
theorem lines_eq_cons {bs : List UInt8} (h : bs ≠ []) :
    lines bs = firstLine bs :: lines (afterLine bs) := by
  induction bs with
  | nil => exact absurd rfl h
  | cons b bs ih =>
    rw [lines, firstLine, afterLine]
    split
    · rfl
    · cases bs with
      | nil => rfl
      | cons c bs => rw [ih (List.cons_ne_nil c bs)]

/-- Bytes behind which a line begins. -/
def EndsLine (bs : List UInt8) : Prop := ∀ b ∈ bs.getLast?, b = 10

theorem endsLine_of_cons {b : UInt8} {bs : List UInt8} (h : EndsLine (b :: bs)) : EndsLine bs := by
  intro c hc
  cases bs with
  | nil => simp at hc
  | cons d bs => exact h c (by simpa [List.getLast?_cons_cons] using hc)

/-- Where a line begins the lines behind are those of the bytes behind. -/
theorem lines_append {bs cs : List UInt8} (h : EndsLine bs) : lines (bs ++ cs) = lines bs ++ lines cs := by
  induction bs with
  | nil => rfl
  | cons b bs ih =>
    rw [List.cons_append, lines, lines, ih (endsLine_of_cons h)]
    split
    · rfl
    · rename_i hb
      cases bs with
      | nil => exact absurd (by simpa using h b rfl) hb
      | cons c bs =>
        rw [lines_eq_cons (List.cons_ne_nil c bs)]
        rfl

theorem flatten_lines (bs : List UInt8) : (lines bs).flatten = bs := by
  induction bs with
  | nil => rfl
  | cons b bs ih =>
    rw [lines]
    split
    · rw [List.flatten_cons, ih]
      rfl
    · cases hls : lines bs with
      | nil => simpa [hls] using ih
      | cons l ls => simpa [hls] using ih

/-! ### Files of ticks -/

/-- A line with nothing but blanks. -/
def isBlankLine (line : List UInt8) : Bool := line.all isBlankByte

/-- Bytes whose lines hold certain ticks, in order, or are blank. -/
def TickFile (bytes : List UInt8) (ts : List (Tick Float)) : Prop :=
  ((lines bytes).filter (!isBlankLine ·)).map readLine? = ts.map some

instance decidableEqTick : DecidableEq (Tick Float) := fun s t =>
  decidable_of_iff (s.time = t.time ∧ s.bid = t.bid ∧ s.ask = t.ask)
    ⟨fun ⟨htime, hbid, hask⟩ => by cases s; cases t; cases htime; cases hbid; cases hask; rfl,
      fun h => h ▸ ⟨rfl, rfl, rfl⟩⟩

instance decidableTickFile (bytes : List UInt8) (ts : List (Tick Float)) : Decidable (TickFile bytes ts) :=
  inferInstanceAs (Decidable (_ = _))

theorem blank_of_mem_lines {bs l : List UInt8} (h : bs.all isBlankByte = true) (hl : l ∈ lines bs) :
    isBlankLine l = true := by
  rw [← flatten_lines bs, List.all_flatten] at h
  exact List.all_eq_true.mp h l hl

/-- Blank lines make no difference where a line begins. The last of them needs no newline at the end. -/
theorem TickFile.insert {before blank after : List UInt8} {ts : List (Tick Float)}
    (hbefore : EndsLine before) (hblank : blank.all isBlankByte = true)
    (hend : EndsLine blank ∨ after = []) :
    TickFile (before ++ blank ++ after) ts ↔ TickFile (before ++ after) ts := by
  have hlines : lines (blank ++ after) = lines blank ++ lines after := by
    rcases hend with hend | rfl
    · exact lines_append hend
    · simp
  have hnone : (lines blank).filter (!isBlankLine ·) = [] :=
    List.filter_eq_nil_iff.mpr fun l hl => by simp [blank_of_mem_lines hblank hl]
  unfold TickFile
  rw [List.append_assoc, lines_append hbefore, hlines, lines_append hbefore, List.filter_append,
    List.filter_append, hnone, List.nil_append, List.filter_append]

/-! ### A newline at the end -/

theorem decode?_eq_some {bs : List UInt8} {s : String} :
    decode? bs = some s ↔ s.toByteArray = ⟨bs.toArray⟩ := by
  unfold decode? String.fromUTF8?
  split
  · rw [Option.some.injEq, ← String.toByteArray_inj, eq_comm]
    rfl
  · rename_i hinvalid
    simp only [reduceCtorEq, false_iff]
    intro h
    exact hinvalid (h ▸ s.isValidUTF8)

theorem stripBy_concat {p : Char → Bool} {c : Char} (h : p c = true) (cs : List Char) :
    Text.stripBy p (cs ++ [c]) = Text.stripBy p cs := by
  unfold Text.stripBy
  rw [List.dropWhile_append]
  split
  · rename_i hnil
    rw [List.isEmpty_iff.mp hnil]
    simp [h]
  · rw [List.reverse_append, List.reverse_singleton, List.singleton_append, List.dropWhile_cons_of_pos h]

theorem strip_newline (s : String) : Text.strip (s ++ "\n") = Text.strip s := by
  unfold Text.strip
  rw [String.toList_append]
  exact congrArg String.ofList (stripBy_concat (by decide) s.toList)

/-- A line is read with a newline as it is without. -/
theorem readLine?_concat {l : List UInt8} {t : Tick Float} (h : readLine? l = some t) :
    readLine? (l ++ [10]) = some t := by
  unfold readLine? at h ⊢
  cases hs : decode? l with
  | none => simp [hs] at h
  | some s =>
    have hdecode : decode? (l ++ [10]) = some (s ++ "\n") := by
      have hnewline : "\n".toByteArray = ⟨#[10]⟩ := by decide
      rw [decode?_eq_some, String.toByteArray_append, decode?_eq_some.mp hs, hnewline]
      exact ByteArray.ext (by simp)
    simp only [hs, hdecode, Tick.read, strip_newline] at h ⊢
    split at h
    · exact h
    · simp [Except.toOption] at h

/-- Bytes are whole lines and a last one without a newline, perhaps an empty one. -/
theorem exists_last_line (bs : List UInt8) :
    ∃ before last, bs = before ++ last ∧ EndsLine before ∧ 10 ∉ last := by
  induction bs with
  | nil => exact ⟨[], [], rfl, by simp [EndsLine], by simp⟩
  | cons b bs ih =>
    obtain ⟨before, last, rfl, hbefore, hlast⟩ := ih
    cases before with
    | nil =>
      by_cases hb : b = 10
      · exact ⟨[b], last, rfl, by simp [EndsLine, hb], hlast⟩
      · exact ⟨[], b :: last, rfl, by simp [EndsLine], by simp [hlast, Ne.symm hb]⟩
    | cons c before => exact ⟨b :: c :: before, last, rfl, by simpa [EndsLine] using hbefore, hlast⟩

theorem lines_of_not_mem {last : List UInt8} (h : 10 ∉ last) (hne : last ≠ []) :
    lines last = [last] ∧ lines (last ++ [10]) = [last ++ [10]] := by
  induction last with
  | nil => exact absurd rfl hne
  | cons b last ih =>
    obtain ⟨hb, hlast⟩ := not_or.mp (mt List.mem_cons.mpr h)
    have hb' : (b == 10) = false := by simpa using Ne.symm hb
    rw [List.cons_append, lines, lines, hb']
    cases last with
    | nil => exact ⟨rfl, rfl⟩
    | cons c last =>
      obtain ⟨hlines, hlines'⟩ := ih hlast (List.cons_ne_nil c last)
      rw [hlines, hlines']
      exact ⟨rfl, rfl⟩

/-- The last line may have its newline or lack it. -/
theorem TickFile.concat {bytes : List UInt8} {ts : List (Tick Float)} (h : TickFile bytes ts) :
    TickFile (bytes ++ [10]) ts := by
  obtain ⟨before, last, rfl, hbefore, hlast⟩ := exists_last_line bytes
  unfold TickFile at h ⊢
  by_cases hne : last = []
  · subst hne
    rw [List.append_nil] at h ⊢
    rw [lines_append hbefore, List.filter_append, List.filter_eq_nil_iff (l := lines [10]) |>.mpr,
      List.append_nil]
    · exact h
    · decide
  · obtain ⟨hlines, hlines'⟩ := lines_of_not_mem hlast hne
    have hblank : isBlankLine (last ++ [10]) = isBlankLine last := by
      simp [isBlankLine, isBlankByte]
    rw [lines_append hbefore, hlines, List.filter_append] at h
    rw [List.append_assoc, lines_append hbefore, hlines', List.filter_append]
    cases hb : isBlankLine last with
    | true => simpa [hb, hblank] using h
    | false =>
      have hread : readLine? last ∈ ts.map some := by rw [← h]; simp [hb]
      obtain ⟨t, -, ht⟩ := List.mem_map.mp hread
      simpa [hb, hblank, readLine?_concat ht.symm, ← ht] using h

/-! ### Reading files -/

namespace Reader

variable (path : String) (offset : ℕ) {rest : List UInt8}

theorem records_congr {s s' : Reader} (h : s.next = s'.next) : s.records = s'.records := by
  match hn : s.next with
  | none => rw [records_of_next_none hn, records_of_next_none (h ▸ hn)]
  | some (.error f) => rw [records_of_next_error hn, records_of_next_error (h ▸ hn)]
  | some (.ok (r, t)) => rw [records_of_next_ok hn, records_of_next_ok (h.symm.trans hn)]

/-- A blank line is passed over. -/
theorem records_of_blank (hne : rest ≠ []) (hb : (firstLine rest).all isBlankByte = true) :
    (Reader.lines path offset rest).records =
      (Reader.lines path (offset + (firstLine rest).length) (afterLine rest)).records := by
  refine records_congr ?_
  simp only [Reader.next]
  rw [nextLine]
  simp [hne, hb]

/-- The tick on a line is the first, with the offsets around the line. -/
theorem records_of_tick {t : Tick Float} (hne : rest ≠ [])
    (hb : (firstLine rest).all isBlankByte = false) (ht : readLine? (firstLine rest) = some t) :
    let next := offset + (firstLine rest).length
    let later := (Reader.lines path next (afterLine rest)).records
    (Reader.lines path offset rest).records =
      ({ tick := t, position := offset, next } :: later.1, later.2) := by
  refine records_of_next_ok ?_
  simp only [Reader.next]
  rw [nextLine]
  simp [hne, hb, ht]

end Reader

namespace TickFile

variable {rest : List UInt8} {ts : List (Tick Float)}

theorem tail_of_blank (h : TickFile rest ts) (hne : rest ≠ [])
    (hb : isBlankLine (firstLine rest) = true) : TickFile (afterLine rest) ts := by
  unfold TickFile at h ⊢
  rwa [lines_eq_cons hne, List.filter_cons_of_neg (by simp [hb])] at h

theorem exists_of_not_blank (h : TickFile rest ts) (hne : rest ≠ [])
    (hb : isBlankLine (firstLine rest) = false) :
    ∃ t us, ts = t :: us ∧ readLine? (firstLine rest) = some t ∧ TickFile (afterLine rest) us := by
  unfold TickFile at h
  rw [lines_eq_cons hne, List.filter_cons_of_pos (by simp [hb]), List.map_cons] at h
  cases ts with
  | nil => simp at h
  | cons t us =>
    obtain ⟨ht, hus⟩ := List.cons.inj h
    exact ⟨t, us, rfl, ht, hus⟩

/-- The lines of a file are read to their end, and give the ticks that they hold. -/
theorem exists_records (path : String) (offset : ℕ) {rest : List UInt8} {ts : List (Tick Float)}
    (h : TickFile rest ts) : ∃ rs, (Reader.lines path offset rest).records = (rs, none) ∧
      rs.map (·.tick) = ts ∧ ∀ r ∈ rs, r.position < r.next ∧ r.next ≤ (offset + rest.length : ℕ) := by
  by_cases hne : rest = []
  · subst hne
    obtain rfl : ts = [] := by simpa [TickFile] using h
    exact ⟨[], Reader.records_of_next_none (by simp [Reader.next, nextLine]), rfl, by simp⟩
  · have hsplit := congrArg List.length (firstLine_append_afterLine rest)
    rw [List.length_append] at hsplit
    have hpos := firstLine_length_pos hne
    have hshorter := length_afterLine_lt hne
    cases hb : isBlankLine (firstLine rest) with
    | true =>
      obtain ⟨rs, hrs, hts, hbounds⟩ := exists_records path (offset + (firstLine rest).length)
        (h.tail_of_blank hne hb)
      refine ⟨rs, (Reader.records_of_blank path offset hne hb).trans hrs, hts, fun r hr => ?_⟩
      have := hbounds r hr
      omega
    | false =>
      obtain ⟨t, us, rfl, ht, hus⟩ := h.exists_of_not_blank hne hb
      obtain ⟨rs, hrs, hts, hbounds⟩ := exists_records path (offset + (firstLine rest).length) hus
      have hrecords := Reader.records_of_tick path offset hne hb ht
      simp only [hrs] at hrecords
      refine ⟨_, hrecords, by rw [List.map_cons, hts], fun r hr => ?_⟩
      rcases List.mem_cons.mp hr with rfl | hr
      · simp only
        omega
      · have := hbounds r hr
        omega
termination_by rest.length

end TickFile

/-! ### Sources that can be read to their end -/

namespace TickSource

/-- A source that gives certain records and then ends, also when it is read again from a cursor beside
one of them. -/
structure Complete (source : TickSource) (rs : List Record) : Prop where
  stream : (source.readFrom 0).records = (rs, none)
  again : ∀ before r after, rs = before ++ r :: after →
    (source.readFrom r.position).records = (r :: after, none) ∧
      (source.readFrom r.next).records = (after, none)

/-- A source can be read to its end if none of its cursors is an offset beyond all files. -/
theorem complete_of_readable {source : TickSource} {rs : List Record}
    (hstream : (source.readFrom 0).records = (rs, none))
    (hreadable : ∀ r ∈ rs, source.readFrom r.position ≠ .failing .cursorTooLarge ∧
      source.readFrom r.next ≠ .failing .cursorTooLarge) : source.Complete rs where
  stream := hstream
  again before r after hrs := by
    obtain ⟨hposition, hnext⟩ := reads_split (Int.le_refl 0) (hrs ▸ hstream)
    obtain ⟨hp, hn⟩ := hreadable r (by simp [hrs])
    exact ⟨hposition.resolve_left hp, hnext.resolve_left hn⟩

/-- Ticks in memory can be read to their end. -/
theorem complete_memory (ts : List (Tick Float)) :
    (TickSource.memory ts).Complete (numbered 0 ts) := by
  have hreadable (c : ℤ) (hc : 0 ≤ c) :
      (TickSource.memory ts).readFrom c ≠ .failing .cursorTooLarge := by
    simp [readFrom, ticksFrom, hc]
  refine complete_of_readable (records_readFrom_memory ts 0) fun r hr => ?_
  obtain ⟨hle, hnext, -⟩ := mem_numbered hr
  exact ⟨hreadable _ (by omega), hreadable _ (by omega)⟩

end TickSource

/-- An offset in a file can be read from, also the one behind its last byte. -/
theorem TickSource.readFrom_file {bytes : List UInt8} (hlength : (bytes.length : ℤ) < Int.pow 2 63)
    (path : String) {c : ℤ} (h0 : 0 ≤ c) (hc : c ≤ bytes.length) :
    (TickSource.file path bytes).readFrom c = .lines path c.toNat (bytes.drop c.toNat) := by
  have hin : ¬ (c < -Int.pow 2 63 || Int.pow 2 63 ≤ c) = true := by
    have hpos : (0 : ℤ) < Int.pow 2 63 := by decide
    simp only [Bool.or_eq_true, decide_eq_true_eq]
    omega
  rw [readFrom, linesFrom, if_neg hin, if_neg (by omega)]

/-- A file of ticks can be read to its end. -/
theorem TickFile.complete {bytes : List UInt8} {ts : List (Tick Float)} (h : TickFile bytes ts)
    (hlength : (bytes.length : ℤ) < Int.pow 2 63) (path : String) :
    ∃ rs, (TickSource.file path bytes).Complete rs ∧ rs.map (·.tick) = ts := by
  have hread {c : ℤ} (h0 : 0 ≤ c) (hc : c ≤ bytes.length) :=
    TickSource.readFrom_file hlength path h0 hc
  obtain ⟨rs, hrs, hts, hbounds⟩ := exists_records path 0 h
  have hzero := hread (c := 0) (by omega) (by omega)
  refine ⟨rs, TickSource.complete_of_readable ?_ fun r hr => ?_, hts⟩
  · rw [hzero]
    exact hrs
  · have hin := (TickSource.inOrder_readFrom (.file path bytes) (Int.le_refl 0)).le r (by
      rw [hzero]
      simpa [hrs] using hr)
    have := hbounds r hr
    rw [hread (c := r.position) (by omega) (by omega), hread (c := r.next) (by omega) (by omega)]
    simp

end Backtest
