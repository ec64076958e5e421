import Backtest.Proofs.Accepted
import Backtest.Proofs.Resumption
import Backtest.Proofs.TickFile

/-!
# Lines of a file and their offsets

A file is read line by line from an offset at which a line begins. Each line that is not blank gives a
record whose cursors are the offsets at which the line begins and ends, up to the first line that is no
tick. Where a line begins and ends is said of the bytes of the file alone, so it does not depend on the
offset from which the file is read; reading from either cursor of a record gives what was read behind
that cursor before.

* `LineAt`, `LineAt.IsIn`, a line of a file; `LineAt.mem_linesFrom`, the lines from an offset on;
* `readLine?_eq_some`, what stands on a line that is a tick; `Malformed`, the ways in which a line is
  none; `malformed_iff`, there are no others;
* `LinesRead`, what is read of lines; `linesRead`, the records and the fault of a file are read so;
* `TickSource.reads_lines`, the main statement.
-/

namespace Backtest

open Reader Text Decimal

/-! ### Lines -/

/-- Bytes are one line in front of others: they end with their first newline, or have none and nothing
follows them. -/
structure IsLine (line after : List UInt8) : Prop where
  ne_nil : line ≠ []
  newline : 10 ∉ line.dropLast
  ends : line.getLast? = some 10 ∨ after = []

/-- A line with the offset at which it begins. -/
structure LineAt where
  start : ℕ
  bytes : List UInt8

namespace LineAt

/-- The offset behind a line. -/
def stop (l : LineAt) : ℕ := l.start + l.bytes.length

/-- A line stands in a file at its offset: the file or a line begins there. -/
def IsIn (l : LineAt) (file : List UInt8) : Prop :=
  ∃ before after, file = before ++ l.bytes ++ after ∧ l.start = before.length ∧ EndsLine before ∧
    IsLine l.bytes after

/-- Lines that follow one another from an offset on. -/
def placed : ℕ → List (List UInt8) → List LineAt
  | _, [] => []
  | n, line :: ls => ⟨n, line⟩ :: placed (n + line.length) ls

end LineAt

theorem isLine_firstLine {bs : List UInt8} (h : bs ≠ []) : IsLine (firstLine bs) (afterLine bs) := by
  induction bs with
  | nil => exact absurd rfl h
  | cons b bs ih =>
    by_cases hb : b = 10
    · subst hb
      exact ⟨by simp [firstLine], by simp [firstLine], .inl rfl⟩
    · have hfirst : firstLine (b :: bs) = b :: firstLine bs := by simp [firstLine, hb]
      have hafter : afterLine (b :: bs) = afterLine bs := by simp [afterLine, hb]
      rw [hfirst, hafter]
      cases bs with
      | nil => exact ⟨by simp, by simp [firstLine], .inr rfl⟩
      | cons c bs =>
        obtain ⟨hne, hnewline, hends⟩ := ih (List.cons_ne_nil c bs)
        obtain ⟨d, ds, hd⟩ := List.exists_cons_of_ne_nil hne
        rw [hd] at hnewline hends ⊢
        refine ⟨List.cons_ne_nil b _, ?_, ?_⟩
        · rw [List.dropLast_cons_cons, List.mem_cons, not_or]
          exact ⟨Ne.symm hb, hnewline⟩
        · rwa [List.getLast?_cons_cons]

/-- A line in front of other bytes is the first line of all of them. -/
theorem firstLine_append {line after : List UInt8} (h : IsLine line after) :
    firstLine (line ++ after) = line ∧ afterLine (line ++ after) = after := by
  obtain ⟨hne, hnewline, hends⟩ := h
  induction line with
  | nil => exact absurd rfl hne
  | cons b line ih =>
    cases line with
    | nil =>
      rcases hends with hb | rfl
      · obtain rfl := Option.some.inj hb
        exact ⟨rfl, rfl⟩
      · by_cases hb : b = 10 <;> simp [firstLine, afterLine, hb]
    | cons c line =>
      rw [List.dropLast_cons_cons, List.mem_cons, not_or] at hnewline
      rw [List.getLast?_cons_cons] at hends
      obtain ⟨hfirst, hafter⟩ := ih (List.cons_ne_nil c line) hnewline.2 hends
      have hb : (b == 10) = false := by simpa using Ne.symm hnewline.1
      rw [List.cons_append, firstLine, afterLine, hb]
      exact ⟨congrArg (b :: ·) hfirst, hafter⟩

/-- Bytes in front of which a line has ended and behind which one begins. -/
theorem endsLine_append {bs cs : List UInt8} (hbs : EndsLine bs) (hcs : EndsLine cs) :
    EndsLine (bs ++ cs) := by
  intro b hb
  rcases List.eq_nil_or_concat' cs with rfl | ⟨init, c, rfl⟩
  · exact hbs b (by simpa using hb)
  · exact hcs b (by simpa using hb)

/-- A line begins at the start of a file and behind each newline. -/
theorem endsLine_take {file : List UInt8} {p : ℕ}
    (hp : p = 0 ∨ ∃ q, p = q + 1 ∧ file[q]? = some 10) : p ≤ file.length ∧ EndsLine (file.take p) := by
  rcases hp with rfl | ⟨q, rfl, hq⟩
  · simp [EndsLine]
  · have hlt : q < file.length := (List.getElem?_eq_some_iff.mp hq).1
    refine ⟨hlt, fun b hb => ?_⟩
    rw [List.getLast?_take] at hb
    simpa [hq, eq_comm] using hb

/-- Each of the lines of bytes is one, and begins where those in front of it end. -/
theorem isLine_of_lines {bs : List UInt8} {before after : List (List UInt8)} {line : List UInt8}
    (h : lines bs = before ++ line :: after) : EndsLine before.flatten ∧ IsLine line after.flatten := by
  induction before generalizing bs with
  | nil =>
    have hne : bs ≠ [] := by
      rintro rfl
      simp at h
    rw [lines_eq_cons hne] at h
    obtain ⟨rfl, rfl⟩ := List.cons.inj h
    rw [flatten_lines]
    exact ⟨by simp [EndsLine], isLine_firstLine hne⟩
  | cons l before ih =>
    have hne : bs ≠ [] := by
      rintro rfl
      simp at h
    rw [lines_eq_cons hne] at h
    obtain ⟨rfl, hlater⟩ := List.cons.inj h
    obtain ⟨hends, hline⟩ := ih hlater
    refine ⟨?_, hline⟩
    -- there is a line behind the first one, so that one ends with a newline
    have hafter : afterLine bs ≠ [] := by
      intro hnil
      simp [hnil] at hlater
    have hnewline := (isLine_firstLine hne).ends.resolve_right hafter
    rw [List.flatten_cons]
    refine endsLine_append (fun b hb => ?_) hends
    exact Option.some.inj (hb.symm.trans hnewline)

namespace LineAt

variable {n : ℕ} {l : LineAt} {ls : List (List UInt8)} {file : List UInt8} {p : ℕ}

theorem mem_placed : l ∈ placed n ls ↔
    ∃ before after, ls = before ++ l.bytes :: after ∧ l.start = n + before.flatten.length := by
  induction ls generalizing n with
  | nil => simp [placed]
  | cons line ls ih =>
    rw [placed, List.mem_cons, ih]
    constructor
    · rintro (rfl | ⟨before, after, rfl, hstart⟩)
      · exact ⟨[], ls, rfl, rfl⟩
      · refine ⟨line :: before, after, rfl, ?_⟩
        rw [hstart, List.flatten_cons, List.length_append, Nat.add_assoc]
    · rintro ⟨before, after, hls, hstart⟩
      cases before with
      | nil =>
        obtain ⟨rfl, -⟩ := List.cons.inj hls
        left
        cases l
        simpa using hstart
      | cons b before =>
        obtain ⟨rfl, rfl⟩ := List.cons.inj hls
        right
        refine ⟨before, after, rfl, ?_⟩
        rw [hstart, List.flatten_cons, List.length_append, Nat.add_assoc]

/-- The lines that follow one another in bytes are those that stand in them. -/
theorem mem_placed_lines : l ∈ placed n (lines file) ↔
    ∃ before after, file = before ++ l.bytes ++ after ∧ l.start = n + before.length ∧
      EndsLine before ∧ IsLine l.bytes after := by
  rw [mem_placed]
  constructor
  · rintro ⟨before, after, hls, hstart⟩
    obtain ⟨hends, hline⟩ := isLine_of_lines hls
    refine ⟨before.flatten, after.flatten, ?_, hstart, hends, hline⟩
    rw [← flatten_lines file, hls]
    simp
  · rintro ⟨before, after, rfl, hstart, hends, hline⟩
    obtain ⟨hfirst, hafter⟩ := firstLine_append hline
    have hne : l.bytes ++ after ≠ [] := by simp [hline.ne_nil]
    refine ⟨lines before, lines after, ?_, by rw [flatten_lines, hstart]⟩
    rw [List.append_assoc, lines_append hends, lines_eq_cons hne, hfirst, hafter]

/-- The lines of a file from an offset on. -/
def linesFrom (file : List UInt8) (p : ℕ) : List LineAt := placed p (lines (file.drop p))

/-- Where a line begins, the lines from there on are those of the file that begin there or later. -/
theorem mem_linesFrom (hp : p ≤ file.length) (hends : EndsLine (file.take p)) :
    l ∈ linesFrom file p ↔ p ≤ l.start ∧ l.IsIn file := by
  have hlength : (file.take p).length = p := List.length_take_of_le hp
  rw [linesFrom, mem_placed_lines]
  constructor
  · rintro ⟨before, after, hfile, hstart, hbefore, hline⟩
    refine ⟨by omega, file.take p ++ before, after, ?_, ?_, endsLine_append hends hbefore, hline⟩
    · rw [List.append_assoc, List.append_assoc, ← List.append_assoc before, ← hfile,
        List.take_append_drop]
    · rw [hstart, List.length_append, hlength]
  · rintro ⟨hle, before, after, hfile, hstart, hbefore, hline⟩
    rw [hstart] at hle
    refine ⟨before.drop p, after, ?_, ?_, ?_, hline⟩
    · rw [hfile, List.append_assoc, List.append_assoc, List.drop_append_of_le_length hle]
    · rw [hstart, List.length_drop]
      omega
    · intro b hb
      rw [List.getLast?_drop] at hb
      split at hb
      · cases hb
      · exact hbefore b hb

/-- Lines that follow one another begin one behind the other. -/
theorem placed_increasing (h : ∀ line ∈ ls, line ≠ []) :
    (placed n ls).Pairwise fun l m => l.start < m.start := by
  induction ls generalizing n with
  | nil => exact List.Pairwise.nil
  | cons line ls ih =>
    refine List.pairwise_cons.mpr ⟨fun m hm => ?_, ih fun l hl => h l (List.mem_cons_of_mem line hl)⟩
    obtain ⟨before, after, -, hstart⟩ := mem_placed.mp hm
    have hpos := List.length_pos_iff.mpr (h line List.mem_cons_self)
    simp only
    omega

end LineAt

/-! ### What is read of a line -/

/-- A line is no tick: it is no text, it has too few fields, its first field is no time, or one of the
next two is no number. -/
inductive Malformed (line : List UInt8) : Prop
  | encoding (h : decode? line = none)
  | fields {text : String} (h : decode? line = some text)
      (hfew : (splitOn ',' (strip text)).length < 3)
  | time {text time bid ask : String} {more : List String} {f : TickFault}
      (h : decode? line = some text)
      (hfields : splitOn ',' (strip text) = time :: bid :: ask :: more)
      (htime : Moment.read time = .error f)
  | price {text time bid ask : String} {more : List String} (h : decode? line = some text)
      (hfields : splitOn ',' (strip text) = time :: bid :: ask :: more)
      (hprice : readFloat? bid = none ∨ readFloat? ask = none)

theorem Tick.readPrice_eq_ok {text : String} {x : Float} :
    Tick.readPrice text = .ok x ↔ readFloat? text = some x := by
  unfold Tick.readPrice
  split <;> simp_all

/-- The tick on a line has the time and the prices of its first three fields. -/
theorem Tick.read_eq_ok {text : String} {t : Tick Float} : Tick.read text = .ok t ↔
    ∃ time bid ask more moment, splitOn ',' (strip text) = time :: bid :: ask :: more ∧
      Moment.read time = .ok moment ∧ t.time = .ofMoment moment ∧
      readFloat? bid = some t.bid ∧ readFloat? ask = some t.ask := by
  constructor
  · intro h
    match hfields : splitOn ',' (strip text) with
    | [] | [_] | [_, _] =>
      simp only [Tick.read, hfields] at h
      cases h
    | time :: bid :: ask :: more =>
      simp only [Tick.read, hfields] at h
      obtain ⟨moment, hmoment, h⟩ := bind_eq_ok.mp h
      obtain ⟨bid', hbid, h⟩ := bind_eq_ok.mp h
      obtain ⟨ask', hask, h⟩ := bind_eq_ok.mp h
      obtain rfl := Except.ok.inj h
      exact ⟨time, bid, ask, more, moment, rfl, hmoment, rfl, Tick.readPrice_eq_ok.mp hbid,
        Tick.readPrice_eq_ok.mp hask⟩
  · rintro ⟨time, bid, ask, more, moment, hfields, hmoment, htime, hbid, hask⟩
    obtain ⟨time', bid', ask'⟩ := t
    obtain rfl : time' = .ofMoment moment := htime
    simp only [Tick.read, hfields, hmoment, Tick.readPrice, hbid, hask]
    rfl

theorem readLine?_eq_some {line : List UInt8} {t : Tick Float} : readLine? line = some t ↔
    ∃ text time bid ask more moment, decode? line = some text ∧
      splitOn ',' (strip text) = time :: bid :: ask :: more ∧ Moment.read time = .ok moment ∧
      t.time = .ofMoment moment ∧ readFloat? bid = some t.bid ∧ readFloat? ask = some t.ask := by
  cases hd : decode? line with
  | none => simp [readLine?, hd]
  | some text =>
    rw [readLine?, hd]
    simp only [toOption_eq_some, Tick.read_eq_ok, Option.some.injEq]
    constructor
    · rintro ⟨time, bid, ask, more, moment, h⟩
      exact ⟨text, time, bid, ask, more, moment, rfl, h⟩
    · rintro ⟨_, time, bid, ask, more, moment, rfl, h⟩
      exact ⟨time, bid, ask, more, moment, h⟩

theorem malformed_iff {line : List UInt8} : Malformed line ↔ readLine? line = none := by
  constructor
  · intro h
    refine Option.eq_none_iff_forall_ne_some.mpr fun t ht => ?_
    obtain ⟨text, time, bid, ask, more, moment, hd, hfields, hmoment, -, hbid, hask⟩ :=
      readLine?_eq_some.mp ht
    cases h with
    | encoding h => simp [hd] at h
    | fields h hfew =>
      obtain rfl := Option.some.inj (hd.symm.trans h)
      rw [hfields, List.length_cons, List.length_cons, List.length_cons] at hfew
      omega
    | time h hfields' htime' =>
      obtain rfl := Option.some.inj (hd.symm.trans h)
      obtain ⟨rfl, -⟩ := List.cons.inj (hfields.symm.trans hfields')
      cases hmoment.symm.trans htime'
    | price h hfields' hprice =>
      obtain rfl := Option.some.inj (hd.symm.trans h)
      simp only [hfields, List.cons.injEq] at hfields'
      obtain ⟨-, rfl, rfl, -⟩ := hfields'
      simp [hbid, hask] at hprice
  · intro h
    cases hd : decode? line with
    | none => exact .encoding hd
    | some text =>
      match hfields : splitOn ',' (strip text) with
      | [] | [_] | [_, _] => exact .fields hd (by simp [hfields])
      | time :: bid :: ask :: more =>
        cases htime : Moment.read time with
        | error f => exact .time hd hfields htime
        | ok moment =>
          -- with a time, one of the prices is missing: else the line would be read
          refine .price hd hfields ?_
          by_contra hboth
          obtain ⟨hbid, hask⟩ := not_or.mp hboth
          obtain ⟨b, hb⟩ := Option.ne_none_iff_exists'.mp hbid
          obtain ⟨a, ha⟩ := Option.ne_none_iff_exists'.mp hask
          have hsome : readLine? line = some ⟨.ofMoment moment, b, a⟩ :=
            readLine?_eq_some.mpr ⟨text, time, bid, ask, more, moment, hd, hfields, htime, rfl, hb, ha⟩
          cases h.symm.trans hsome

/-! ### What is read of a file -/

/-- What is read of lines that are not blank: a record for each of them up to the first that is no tick,
and there the fault that names its offset. -/
inductive LinesRead (path : String) : List LineAt → List Record → Option Fault → Prop
  | ended : LinesRead path [] [] none
  | malformed {l : LineAt} {later : List LineAt} (h : Malformed l.bytes) :
      LinesRead path (l :: later) [] (some (.stream (.malformed l.start path l.bytes)))
  | record {l : LineAt} {later : List LineAt} {t : Tick Float} {rs : List Record}
      {fault : Option Fault} (h : readLine? l.bytes = some t) (hlater : LinesRead path later rs fault) :
      LinesRead path (l :: later) ({ tick := t, position := l.start, next := l.stop } :: rs) fault

/-- A line that is no tick stops the reading at its offset. -/
theorem Reader.records_of_malformed (path : String) (offset : ℕ) {rest : List UInt8} (hne : rest ≠ [])
    (hb : (firstLine rest).all isBlankByte = false) (h : readLine? (firstLine rest) = none) :
    (Reader.lines path offset rest).records =
      ([], some (.stream (.malformed offset path (firstLine rest)))) := by
  refine records_of_next_error ?_
  simp only [Reader.next]
  rw [nextLine]
  simp [hne, hb, h]

open LineAt in
/-- The lines of a file are read from an offset on as they follow one another there. -/
theorem linesRead (path : String) (offset : ℕ) (rest : List UInt8) :
    LinesRead path ((placed offset (lines rest)).filter (!isBlankLine ·.bytes))
      (Reader.lines path offset rest).records.1 (Reader.lines path offset rest).records.2 := by
  by_cases hne : rest = []
  · subst hne
    rw [Reader.records_of_next_none (by simp [Reader.next, nextLine])]
    exact .ended
  · have hshorter := length_afterLine_lt hne
    have later := linesRead path (offset + (firstLine rest).length) (afterLine rest)
    rw [lines_eq_cons hne, placed]
    cases hb : isBlankLine (firstLine rest) with
    | true =>
      rw [List.filter_cons_of_neg (by simp [hb]), records_of_blank path offset hne hb]
      exact later
    | false =>
      rw [List.filter_cons_of_pos (by simp [hb])]
      cases ht : readLine? (firstLine rest) with
      | none =>
        rw [records_of_malformed path offset hne hb ht]
        exact .malformed (malformed_iff.mpr ht)
      | some t =>
        rw [records_of_tick path offset hne hb ht]
        exact .record ht later
termination_by rest.length

namespace TickSource

/-- Reading a file from an offset at which a line begins gives a record for each line from there on that
is not blank, in their order, up to the first that is no tick; its offset is in the fault. The cursors
of a record are the offsets around its line, and reading from either gives what was read behind it. The
bytes are any that offsets can point at. -/
theorem reads_lines (path : String) (file : List UInt8) (hfits : (TickSource.file path file).Fits)
    {p : ℕ} (hp : p = 0 ∨ ∃ q, p = q + 1 ∧ file[q]? = some 10) :
    let source := TickSource.file path file
    ∃ ls rs fault, (source.readFrom p).records = (rs, fault) ∧
      ls.Pairwise (fun l m => l.start < m.start) ∧
      (∀ l, l ∈ ls ↔ p ≤ l.start ∧ l.IsIn file ∧ isBlankLine l.bytes = false) ∧
      LinesRead path ls rs fault ∧
      rs.Pairwise (fun q r => q.position < r.position ∧ q.next ≤ r.position) ∧
      ∀ before r after, rs = before ++ r :: after →
        (source.readFrom r.position).records = (r :: after, fault) ∧
        (source.readFrom r.next).records = (after, fault) := by
  intro source
  obtain ⟨hle, hends⟩ := endsLine_take hp
  have hzero : (0 : ℤ) ≤ p := Int.natCast_nonneg p
  have hread : source.readFrom p = .lines path p (file.drop p) :=
    readFrom_file hfits path hzero (by omega)
  have horder := source.inOrder_readFrom hzero
  have hagain (before after : List Record) (r : Record)
      (h : (source.readFrom p).records.1 = before ++ r :: after) :=
    hfits.again hzero (Prod.ext h rfl)
  have hlines := linesRead path p (file.drop p)
  rw [← hread] at hlines
  refine ⟨_, _, _, rfl, (LineAt.placed_increasing ?_).filter _, fun l => ?_, hlines,
    horder.apart.imp_of_mem fun hq _ hle => ?_, fun before r after h => hagain before after r h⟩
  · intro line hline
    obtain ⟨before, after, h⟩ := List.append_of_mem hline
    exact (isLine_of_lines h).2.ne_nil
  · rw [List.mem_filter, ← LineAt.linesFrom, LineAt.mem_linesFrom hle hends]
    simp [and_assoc]
  · have := horder.lt _ hq
    omega

/-- A file whose first line is empty, whose second ends with a carriage return too and whose third is
blank. The fourth is none of these, as its blank takes three bytes, and so the fifth is not read. -/
theorem reads_lines_spaced :
    let file := "\n01/05/2014 12:00:00,1.5,1.25\r\n \t\n\u2003\n01/06/2014 12:00:00,1.5,1.25".toUTF8.toList
    let source : TickSource := .file "ticks.csv" file
    ∃ r f, r.position = 1 ∧ r.next = 31 ∧
      f.message = "Malformed tick at byte 34 of ticks.csv: b'\\xe2\\x80\\x83\\n'" ∧
      (source.readFrom 1).records = ([r], some f) ∧ (source.readFrom 31).records = ([], some f) := by
  intro file source
  obtain ⟨ls, rs, fault, hs, -, -, -, -, hagain⟩ := reads_lines "ticks.csv" file
    (by decide +kernel) (.inr ⟨0, rfl, by decide +kernel⟩)
  have hcursors : (source.readFrom 1).records.1.map (fun r => (r.position, r.next)) = [(1, 31)] := by
    decide +kernel
  have hmessage : (source.readFrom 1).records.2.map (·.message) =
      some "Malformed tick at byte 34 of ticks.csv: b'\\xe2\\x80\\x83\\n'" := by
    decide +kernel
  have hrecords : (source.readFrom 1).records = (rs, fault) := hs
  rw [hrecords] at hcursors hmessage
  obtain ⟨r, rfl, hr⟩ := List.map_eq_singleton_iff.mp hcursors
  obtain ⟨f, rfl, hf⟩ := Option.map_eq_some_iff.mp hmessage
  obtain ⟨hposition, hnext⟩ := Prod.mk.inj hr
  refine ⟨r, f, hposition, hnext, hf, hs, ?_⟩
  have hbehind := (hagain [] r [] rfl).2
  rwa [hnext] at hbehind

end TickSource

end Backtest
