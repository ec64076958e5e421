import Backtest.AuditLog
import Backtest.Proofs.JsonRoundTrip
import Backtest.Proofs.WrittenFiles

/-!
# Audit logs that share a file

Several runs may note what they do in one file, in any order. A record stands on a line of its own, for a
written value has only visible characters, so the lines of a file are the records that were made, and each
is read as it was written. A log numbers its own records, whatever the others do. A field may have any name
but those of the entries that every record has, and that by which a call names the log itself.

* `AuditLog.Call`, a record that is made through one of several logs; `AuditLog.Call.entry`, what it says;
* `AuditLog.Shared`, logs on one file; `AuditLog.Shared.record`, a record; `AuditLog.Shared.recordAll`,
  records one after the other;
* `AuditLog.lines_contents`, the lines of a file of records; `AuditLog.read_of_holds`, what is read of it;
* `AuditLog.Shared.Kept`, what a record preserves; `AuditLog.Shared.Kept.recordAll`, what a run of records
  does; `AuditLog.Shared.file_keeps_records`, what is read after it;
  `AuditLog.Shared.not_file_keeps_records`, a field with the name of the log in a call.
-/

namespace Backtest

open Text

theorem Value.isWritable_record (t : Table Value) :
    (Value.record t).isWritable = t.all fun e => e.2.isWritable := by
  show Value.entriesWritable (t.map fun e => (.text e.1, e.2)) = _
  induction t with
  | nil => rfl
  | cons e t ih => simp [Value.entriesWritable, Value.isWritable, ih]

theorem Value.toTable_record (t : Table Value) : (Value.record t).toTable = t := by
  show (t.map fun e => (Value.text e.1, e.2)).filterMap _ = t
  rw [List.filterMap_map]
  exact (List.filterMap_congr fun e _ => rfl).trans List.filterMap_some

namespace AuditLog

/-! ### Records -/

/-- The names of the entries that every record has. -/
def ownNames : List String := ["seq", "ts", "run_id", "config_hash", "event", "step"]

/-- A record that is made through one of several logs. -/
structure Call (ι : Type) where
  writer : ι
  time : String
  event : String
  step : Option ℤ
  fields : Table Value

variable {ι : Type}

/-- The fields are values of JSON, and none has the name of another, of an entry of the record, or of the log
in a call. No number of the call is too long to be written. -/
structure Call.Fits (c : Call ι) : Prop where
  nodup : (c.fields.map (·.1)).Nodup
  new : ∀ e ∈ c.fields, e.1 ∉ ownNames
  notSelf : ∀ e ∈ c.fields, e.1 ≠ "self"
  json : ∀ e ∈ c.fields, e.2.IsJson
  writable : ∀ e ∈ c.fields, e.2.isWritable = true
  step : ∀ n ∈ c.step, Decimal.isTooLong n = false

/-- What a record says: its number in its log, the run of the log, and what the call gives. -/
def Call.entry (id : Option String × Option String) (number : ℕ) (c : Call ι) : Table Value :=
  [("seq", .whole number), ("ts", .text c.time), ("run_id", Configuration.textOrNull id.1),
    ("config_hash", Configuration.textOrNull id.2), ("event", .text c.event),
    ("step", (c.step.map Value.whole).getD .null)] ++ c.fields

variable {c : Call ι} {id : Option String × Option String}

theorem Call.Fits.nodup_entry (h : c.Fits) (id : Option String × Option String) (number : ℕ) :
    ((c.entry id number).map (·.1)).Nodup := by
  rw [Call.entry, List.map_append, List.nodup_append]
  have hown : ownNames.Nodup := by decide
  refine ⟨hown, h.nodup, ?_⟩
  rintro name hown other hother rfl
  obtain ⟨e, he, rfl⟩ := List.mem_map.mp hother
  exact h.new e he hown

theorem isJson_textOrNull (s : Option String) : (Configuration.textOrNull s).IsJson := by
  cases s with
  | none => exact .null
  | some s => exact .text s

theorem Call.Fits.isJson_entry (h : c.Fits) (number : ℕ) : (Value.record (c.entry id number)).IsJson := by
  refine .record (h.nodup_entry id number) fun e he => ?_
  rcases List.mem_append.mp he with hown | hfield
  · simp only [List.mem_cons, List.not_mem_nil, or_false] at hown
    rcases hown with rfl | rfl | rfl | rfl | rfl | rfl
    · exact .whole _
    · exact .text _
    · exact isJson_textOrNull _
    · exact isJson_textOrNull _
    · exact .text _
    · cases c.step with
      | none => exact .null
      | some k => exact .whole k
  · exact h.json e hfield

theorem isTooLong_natCast {n : ℕ} (h : n < 10 ^ Decimal.digitLimit) : Decimal.isTooLong n = false := by
  unfold Decimal.isTooLong
  generalize Decimal.digitLimit = k at h ⊢
  exact decide_eq_false (Nat.not_le.mpr h)

theorem isWritable_textOrNull (s : Option String) : (Configuration.textOrNull s).isWritable = true := by
  cases s <;> rfl

theorem Call.Fits.isWritable_entry (h : c.Fits) {number : ℕ} (hnumber : number < 10 ^ Decimal.digitLimit) :
    (Value.record (c.entry id number)).isWritable = true := by
  have hstep : ((c.step.map Value.whole).getD .null).isWritable = true := by
    cases hc : c.step with
    | none => rfl
    | some n =>
      show (!Decimal.isTooLong n) = true
      rw [h.step n hc]
      rfl
  have hseq : (Value.whole number).isWritable = true := by
    show (!Decimal.isTooLong number) = true
    rw [isTooLong_natCast hnumber]
    rfl
  rw [Value.isWritable_record, Call.entry, List.all_append, Bool.and_eq_true]
  refine ⟨?_, List.all_eq_true.mpr h.writable⟩
  simp only [List.all_cons, hseq, hstep, isWritable_textOrNull]
  rfl

/-- No field has a name that the call uses itself. -/
theorem Call.Fits.find?_eq_none (h : c.Fits) :
    (c.fields.map (·.1)).find? (callNames.contains ·) = none := by
  refine List.find?_eq_none.mpr fun name hname => ?_
  obtain ⟨e, he, rfl⟩ := List.mem_map.mp hname
  have hnew := h.new e he
  simp only [ownNames, List.mem_cons, not_or] at hnew
  simp [callNames, h.notSelf e he, hnew]

theorem get?_seq (id : Option String × Option String) (number : ℕ) (c : Call ι) :
    (c.entry id number).get? "seq" = some (.whole number) := rfl

/-- A record whose numbers can be written is added to a file. -/
theorem write_eq {files : FileTree} {path : Path} {entry : Table Value}
    (h : (Value.record entry).isWritable = true) :
    write files path entry = files.append path (line entry).toUTF8 := by
  unfold write
  simp only [h, if_true]
  cases files.append path (line entry).toUTF8 <;> rfl

/-- The record that a log makes is the record of the call, with its next number. -/
theorem entry_eq (l : AuditLog) (h : c.Fits) :
    l.entry c.time c.event c.step c.fields = c.entry (l.runId, l.configHash) (l.sequence + 1) := by
  exact Table.merge_of_nodup (h.nodup_entry (l.runId, l.configHash) (l.sequence + 1))

/-! ### The lines of a file -/

/-- The text of a file of records. -/
def contents (records : List (Table Value)) : String :=
  String.ofList (records.flatMap fun e => (line e).toList)

theorem contents_concat (records : List (Table Value)) (e : Table Value) :
    contents (records ++ [e]) = contents records ++ line e := by
  rw [contents, contents, List.flatMap_append, List.flatMap_singleton, String.ofList_append,
    String.ofList_toList]

theorem plainNewlines_of_notMem {cs : List Char} (h : '\r' ∉ cs) : plainNewlines cs = cs := by
  fun_induction plainNewlines cs with
  | case1 => rfl
  | case2 cs ih => exact absurd List.mem_cons_self h
  | case3 c cs _ ih =>
    rw [List.mem_cons, not_or] at h
    have hc : (c == '\r') = false := beq_eq_false_iff_ne.mpr (Ne.symm h.1)
    rw [ih h.2, hc]
    rfl

/-- The lines of a file of records are the records, each written. -/
theorem lines_contents {records : List (Table Value)} (h : ∀ e ∈ records, (Value.record e).IsJson) :
    lines (contents records) = records.map fun e => Json.write (.record e) := by
  have hvisible {e : Table Value} (he : e ∈ records) : ∀ c ∈ (Json.write (.record e)).toList, Json.Visible c :=
    Json.visible_write (h e he)
  have hpieces : piecesBy (· == '\n') (records.flatMap fun e => (line e).toList) =
      (records.map fun e => (Json.write (.record e)).toList) ++ [[]] := by
    clear h
    induction records with
    | nil => rfl
    | cons e records ih =>
      have hline : (line e).toList = (Json.write (.record e)).toList ++ ['\n'] := by
        rw [line, String.toList_append]
        rfl
      have hnone : ∀ c ∈ (Json.write (.record e)).toList, (c == '\n') = false := by
        intro c hc
        refine beq_eq_false_iff_ne.mpr ?_
        rintro rfl
        exact absurd (hvisible List.mem_cons_self _ hc) (by decide)
      rw [List.flatMap_cons, hline, List.append_assoc, List.singleton_append,
        piecesBy_append_cons (by decide), piecesBy_of_forall hnone,
        ih fun he => hvisible (List.mem_cons_of_mem e he)]
      rfl
  have hplain : '\r' ∉ records.flatMap fun e => (line e).toList := by
    intro hmem
    obtain ⟨e, he, hc⟩ := List.mem_flatMap.mp hmem
    rw [line, String.toList_append, List.mem_append] at hc
    rcases hc with hc | hc
    · exact absurd (hvisible he _ hc) (by decide)
    · exact absurd hc (by decide)
  have hfull : ((records.map fun e => (Json.write (.record e)).toList) ++ [[]]).filter
      (fun l => !l.all isBlank) = records.map fun e => (Json.write (.record e)).toList := by
    rw [List.filter_append, List.filter_eq_self.mpr]
    · exact List.append_nil _
    · intro cs hcs
      obtain ⟨e, -, rfl⟩ := List.mem_map.mp hcs
      rw [Json.toList_write_record, List.all_cons]
      have hbrace : isBlank '\x7b' = false := by decide
      rw [hbrace]
      rfl
  rw [lines, contents, String.toList_ofList, plainNewlines_of_notMem hplain, hpieces, hfull, List.map_map]
  exact List.map_congr_left fun e _ => String.ofList_toList

/-! ### Reading a file of records -/

/-- Whether a record is of the event. -/
def ofEvent (event : String) (v : Value) : Bool :=
  match v.entry? "event" with
  | some (.text s) => s == event
  | _ => false

variable {records : List (Table Value)}

theorem readLines_all (h : ∀ e ∈ records, (Value.record e).IsJson) :
    readLines none (records.map fun e => Json.write (.record e)) = .ok (records.map .record) := by
  induction records with
  | nil => rfl
  | cons e records ih =>
    rw [List.map_cons, readLines, Json.read?_write (h e List.mem_cons_self)]
    rw [ih fun d hd => h d (List.mem_cons_of_mem e hd)]
    rfl

theorem readLines_ofEvent (h : ∀ e ∈ records, (Value.record e).IsJson)
    (hevent : ∀ e ∈ records, ∃ s, e.get? "event" = some (.text s)) (event : String) :
    readLines (some event) (records.map fun e => Json.write (.record e)) =
      .ok ((records.map .record).filter (ofEvent event)) := by
  induction records with
  | nil => rfl
  | cons e records ih =>
    obtain ⟨s, hs⟩ := hevent e List.mem_cons_self
    have hentry : Value.entry? "event" (.record e) = some (.text s) := by
      unfold Value.entry?
      rw [Value.toTable_record, hs]
    have hof : isOf (some event) (.record e) = .ok (s == event) := by
      simp only [isOf, hentry]
    have hfilter : ofEvent event (.record e) = (s == event) := by
      simp only [ofEvent, hentry]
    rw [List.map_cons, readLines, Json.read?_write (h e List.mem_cons_self)]
    rw [ih (fun d hd => h d (List.mem_cons_of_mem e hd)) fun d hd => hevent d (List.mem_cons_of_mem e hd),
      List.map_cons, List.filter_cons, hfilter]
    simp only [hof]
    cases s == event <;> rfl

theorem fromUTF8?_toUTF8 (s : String) : String.fromUTF8? s.toUTF8 = some s := by
  unfold String.fromUTF8?
  exact dif_pos s.isValidUTF8

/-- What is read of a file are the lines of its text; a file that is missing has none. -/
theorem read_of_holds {files : FileTree} {path : Path} {text : String}
    (h : files.Holds path text.toUTF8) (event : Option String) :
    read files path event = readLines event (lines text) := by
  rcases h.read with ⟨hfind, hread⟩ | ⟨hfind, hempty⟩
  · have htext : files.readText path = .ok text := by
      refine bind_eq_ok.mpr ⟨_, hread, ?_⟩
      rw [fromUTF8?_toUTF8]
      rfl
    rw [read, hfind, htext]
    rfl
  · obtain rfl : text = "" := by
      refine String.toByteArray_inj.mp ?_
      exact hempty
    rw [read, hfind]
    rfl

/-! ### Logs on one file -/

/-- Logs on one file, and the files. -/
structure Shared (ι : Type) where
  logs : ι → AuditLog
  files : FileTree

namespace Shared

variable [DecidableEq ι]

/-- The logs and the files after a record, and the record. -/
def record (s : Shared ι) (c : Call ι) : Except Fault (Shared ι × Table Value) :=
  ((s.logs c.writer).record s.files c.time c.event c.step c.fields).map fun r =>
    ({ logs := Function.update s.logs c.writer r.1, files := r.2.2 }, r.2.1)

/-- The logs and the files after records, one after the other, and the records. -/
def recordAll (s : Shared ι) : List (Call ι) → Except Fault (Shared ι × List (Table Value))
  | [] => .ok (s, [])
  | c :: cs => do
    let (s, e) ← s.record c
    let (s, es) ← s.recordAll cs
    return (s, e :: es)

/-- What a record preserves: the logs are those of their runs, and the file holds the records that were made. -/
structure Kept (ids : ι → Option String × Option String) (path : Path) (s : Shared ι)
    (records : List (Table Value)) : Prop where
  paths : ∀ i, (s.logs i).path = path
  runs : ∀ i, ((s.logs i).runId, (s.logs i).configHash) = ids i
  file : s.files.Holds path (contents records).toUTF8
  directory : s.files.IsDirectoryAt path.parent

variable {ids : ι → Option String × Option String} {path : Path} {s : Shared ι}
  {records : List (Table Value)} {c : Call ι}

/-- A record comes behind the others. -/
theorem Kept.record (h : s.Kept ids path records) (hc : c.Fits)
    (hcount : (s.logs c.writer).sequence + 1 < 10 ^ Decimal.digitLimit) :
    ∃ s' : Shared ι, s.record c =
        .ok (s', c.entry (ids c.writer) ((s.logs c.writer).sequence + 1)) ∧
      s'.Kept ids path (records ++ [c.entry (ids c.writer) ((s.logs c.writer).sequence + 1)]) ∧
      ∀ i, (s'.logs i).sequence = (s.logs i).sequence + if i = c.writer then 1 else 0 := by
  obtain ⟨l, hl⟩ : ∃ l, l = s.logs c.writer := ⟨_, rfl⟩
  have hentry := entry_eq l hc
  have hid : (l.runId, l.configHash) = ids c.writer := by
    rw [hl]
    exact h.runs c.writer
  rw [hid] at hentry
  obtain ⟨files, hfiles, hholds, hdirectories⟩ :=
    h.file.append (line (c.entry (ids c.writer) (l.sequence + 1))).toUTF8
  have hpath : l.path = path := by
    rw [hl]
    exact h.paths c.writer
  have hrecord : s.record c = .ok (⟨Function.update s.logs c.writer { l with sequence := l.sequence + 1 }, files⟩,
      c.entry (ids c.writer) (l.sequence + 1)) := by
    have hmade : l.record s.files c.time c.event c.step c.fields = .ok ({ l with sequence := l.sequence + 1 },
        c.entry (ids c.writer) (l.sequence + 1), files) := by
      have hwritable : (Value.record (c.entry (ids c.writer) (l.sequence + 1))).isWritable = true :=
        hc.isWritable_entry (by rw [hl]; exact hcount)
      unfold AuditLog.record
      simp only [hc.find?_eq_none, hentry, write_eq hwritable, hpath, hfiles]
      rfl
    rw [Shared.record, ← hl, hmade]
    rfl
  rw [← hl]
  have hlogs (i : ι) : Function.update s.logs c.writer { l with sequence := l.sequence + 1 } i =
      { s.logs i with sequence := (s.logs i).sequence + if i = c.writer then 1 else 0 } := by
    by_cases hi : i = c.writer
    · subst hi
      rw [Function.update_self, if_pos rfl, ← hl]
    · rw [Function.update_of_ne hi, if_neg hi]
      rfl
  refine ⟨_, hrecord, ⟨?_, ?_, ?_, hdirectories _ h.directory⟩, ?_⟩
  · intro i
    show (Function.update s.logs c.writer _ i).path = path
    rw [hlogs]
    exact h.paths i
  · intro i
    show ((Function.update s.logs c.writer _ i).runId, (Function.update s.logs c.writer _ i).configHash) = ids i
    rw [hlogs]
    exact h.runs i
  · rw [contents_concat]
    exact hholds
  · intro i
    show (Function.update s.logs c.writer _ i).sequence = _
    rw [hlogs]

/-- The records that were made through a log. -/
def recordsOf (i : ι) (calls : List (Call ι)) (entries : List (Table Value)) : List (Table Value) :=
  ((calls.zip entries).filter fun r => r.1.writer = i).map (·.2)

theorem recordsOf_cons (i : ι) (c : Call ι) (calls : List (Call ι)) (e : Table Value)
    (entries : List (Table Value)) : recordsOf i (c :: calls) (e :: entries) =
      (if i = c.writer then [e] else []) ++ recordsOf i calls entries := by
  by_cases hi : c.writer = i
  · subst hi
    simp [recordsOf]
  · simp [recordsOf, hi, Ne.symm hi]

/-- Records one after the other: each is made, they come behind those that the file holds, and each log
numbers its own. -/
theorem Kept.recordAll {calls : List (Call ι)} (h : s.Kept ids path records) (hcalls : ∀ c ∈ calls, c.Fits)
    (hcount : ∀ i, (s.logs i).sequence + calls.length < 10 ^ Decimal.digitLimit) :
    ∃ (s' : Shared ι) (entries : List (Table Value)), s.recordAll calls = .ok (s', entries) ∧
      s'.Kept ids path (records ++ entries) ∧
      List.Forall₂ (fun c e => ∃ number, e = c.entry (ids c.writer) number) calls entries ∧
      ∀ i, (recordsOf i calls entries).map (·.get? "seq") =
        (List.range' ((s.logs i).sequence + 1) (recordsOf i calls entries).length).map
          fun n => some (.whole n) := by
  induction calls generalizing s records with
  | nil =>
    refine ⟨s, [], rfl, ?_, .nil, fun i => rfl⟩
    rw [List.append_nil]
    exact h
  | cons c calls ih =>
    simp only [List.length_cons] at hcount
    obtain ⟨next, hnext, hkept, hsequence⟩ := h.record (hcalls c List.mem_cons_self) (by
      have := hcount c.writer
      omega)
    obtain ⟨s', entries, hall, hkept', hentries, hnumbers⟩ :=
      ih hkept (fun d hd => hcalls d (List.mem_cons_of_mem c hd)) fun i => by
        have := hcount i
        rw [hsequence i]
        split <;> omega
    obtain ⟨e, he⟩ : ∃ e, e = c.entry (ids c.writer) ((s.logs c.writer).sequence + 1) := ⟨_, rfl⟩
    rw [← he] at hnext hkept'
    refine ⟨s', e :: entries, ?_, ?_, .cons ⟨_, he⟩ hentries, fun i => ?_⟩
    · exact bind_eq_ok.mpr ⟨_, hnext, bind_eq_ok.mpr ⟨_, hall, rfl⟩⟩
    · rw [List.append_assoc] at hkept'
      exact hkept'
    · have hrest := hnumbers i
      rw [hsequence i] at hrest
      rw [recordsOf_cons]
      by_cases hi : i = c.writer
      · subst hi
        rw [if_pos rfl] at hrest ⊢
        rw [List.singleton_append, List.map_cons, List.length_cons, List.range'_succ, List.map_cons, hrest, he,
          get?_seq]
      · rw [if_neg hi] at hrest ⊢
        exact hrest

/-- The logs of runs on one file, before any record. -/
def start (ids : ι → Option String × Option String) (path : Path) (files : FileTree) : Shared ι :=
  { logs := fun i => { path, runId := (ids i).1, configHash := (ids i).2, sequence := 0 }, files }

/-- The file of audit logs keeps all records of all runs that share it. Once one of the logs is open, on a
file that holds nothing yet, the others open without a change to the files, before the records are made and
after. Whatever records the logs make, in whatever order, each is made and says what was to be recorded, with
the run of its log, as long as no number in it, nor its own, is too long to be written; the records of each log are numbered from one on. Reading the file through any of the
logs gives the records, in order; reading those of an event gives the ones among them that are of the
event. -/
theorem file_keeps_records (ids : ι → Option String × Option String) (first : ι)
    {before files : FileTree} {path : Path} {log : AuditLog}
    (hopened : AuditLog.opened before path (ids first).1 (ids first).2 = .ok (log, files))
    (hempty : files.Holds path ⟨#[]⟩) {calls : List (Call ι)} (hcalls : ∀ c ∈ calls, c.Fits)
    (hcount : calls.length < 10 ^ Decimal.digitLimit) :
    log = (start ids path files).logs first ∧
    ∃ (s : Shared ι) (entries : List (Table Value)), (start ids path files).recordAll calls = .ok (s, entries) ∧
      (∀ i, AuditLog.opened files path (ids i).1 (ids i).2 = .ok ((start ids path files).logs i, files) ∧
        AuditLog.opened s.files path (ids i).1 (ids i).2 = .ok ((start ids path files).logs i, s.files)) ∧
      List.Forall₂ (fun c e => ∃ number, e = c.entry (ids c.writer) number) calls entries ∧
      (∀ i, (recordsOf i calls entries).map (·.get? "seq") =
        (List.range' 1 (recordsOf i calls entries).length).map fun n => some (.whole n)) ∧
      ∀ i, AuditLog.read s.files (s.logs i).path none = .ok (entries.map .record) ∧
        ∀ event, AuditLog.read s.files (s.logs i).path (some event) =
          .ok ((entries.map .record).filter (ofEvent event)) := by
  have hlog : log = (start ids path files).logs first ∧ files.IsDirectoryAt path.parent := by
    unfold AuditLog.opened at hopened
    cases hmade : before.makeDirectory path.parent with
    | error f =>
      rw [hmade] at hopened
      simp [Except.map] at hopened
    | ok made =>
      rw [hmade] at hopened
      obtain ⟨rfl, rfl⟩ := Prod.mk.inj (Except.ok.inj hopened)
      exact ⟨rfl, FileTree.isDirectoryAt_of_makeDirectory hmade⟩
  have hkept : (start ids path files).Kept ids path [] := ⟨fun i => rfl, fun i => rfl, hempty, hlog.2⟩
  obtain ⟨s, entries, hall, hkept', hentries, hnumbers⟩ :=
    hkept.recordAll hcalls fun i => by rw [start, Nat.zero_add]; exact hcount
  rw [List.nil_append] at hkept'
  have hagain {t : FileTree} (ht : t.IsDirectoryAt path.parent) (i : ι) :
      AuditLog.opened t path (ids i).1 (ids i).2 = .ok ((start ids path files).logs i, t) := by
    rw [AuditLog.opened, FileTree.makeDirectory_of_isDirectoryAt ht]
    rfl
  have hrecords : ∀ e ∈ entries, (Value.record e).IsJson ∧ ∃ s, e.get? "event" = some (.text s) := by
    intro e he
    obtain ⟨c, hc, number, rfl⟩ : ∃ c ∈ calls, ∃ number, e = c.entry (ids c.writer) number := by
      obtain ⟨k, hk, rfl⟩ := List.mem_iff_getElem.mp he
      have hlength := hentries.length_eq
      have hpair := List.forall₂_iff_get.mp hentries
      exact ⟨_, List.getElem_mem (by omega), hpair.2 k (by omega) hk⟩
    exact ⟨(hcalls c hc).isJson_entry number, c.event, rfl⟩
  refine ⟨hlog.1, s, entries, hall, fun i => ⟨hagain hlog.2 i, hagain hkept'.directory i⟩, hentries, hnumbers,
    fun i => ?_⟩
  rw [hkept'.paths i]
  constructor
  · rw [read_of_holds hkept'.file, lines_contents fun e he => (hrecords e he).1,
      readLines_all fun e he => (hrecords e he).1]
  · intro event
    rw [read_of_holds hkept'.file, lines_contents fun e he => (hrecords e he).1,
      readLines_ofEvent (fun e he => (hrecords e he).1) (fun e he => (hrecords e he).2) event]

/-- Two runs that share a file, one with a line break in its name: three records in turn, of which the second
of the first run has its number two. -/
theorem file_keeps_records_two_runs :
    let ids : Bool → Option String × Option String := fun second =>
      if second then (none, some "ab") else (some "run\n1", none)
    let files : FileTree := ⟨[(FileTree.nullDevice, ⟨#[]⟩)], [.read "output"]⟩
    let calls : List (Call Bool) := [⟨false, "t1", "début", none, [("x", .whole 1)]⟩,
      ⟨true, "t2", "window", some 0, [("ticks", .list [.real 0.1])]⟩, ⟨false, "t3", "début", some 1, []⟩]
    AuditLog.opened .empty (.read "output/audit.log") (some "run\n1") none =
        .ok (⟨.read "output/audit.log", some "run\n1", none, 0⟩, files) ∧
      files.Holds (.read "output/audit.log") ⟨#[]⟩ ∧ (∀ c ∈ calls, c.Fits) ∧
      ∃ (s : Shared Bool) (entries : List (Table Value)),
        (start ids (.read "output/audit.log") files).recordAll calls = .ok (s, entries) ∧
        entries.length = 3 ∧
        AuditLog.read s.files (s.logs true).path none = .ok (entries.map .record) ∧
        AuditLog.read s.files (s.logs true).path (some "début") =
          .ok ((entries.map .record).filter (ofEvent "début")) := by
  intro ids files calls
  have hopened : AuditLog.opened .empty (.read "output/audit.log") (some "run\n1") none =
      .ok (⟨.read "output/audit.log", some "run\n1", none, 0⟩, files) := rfl
  have hempty : files.Holds (.read "output/audit.log") ⟨#[]⟩ :=
    ⟨.read "output/audit.log", by decide, .inr ⟨rfl, rfl⟩⟩
  have hcalls : ∀ c ∈ calls, c.Fits := by
    intro c hc
    simp only [calls, List.mem_cons, List.not_mem_nil, or_false] at hc
    rcases hc with rfl | rfl | rfl
    · exact ⟨by simp, by simp [ownNames], by simp, by simpa using .whole 1, by decide +kernel, by simp⟩
    · exact ⟨by simp, by simp [ownNames], by simp, by simpa using .list (by simpa using .real 0.1),
        by decide +kernel, by decide +kernel⟩
    · exact ⟨by simp, by simp, by simp, by simp, by simp, by decide +kernel⟩
  have hcount : calls.length < 10 ^ Decimal.digitLimit :=
    lt_of_lt_of_le (by decide : 3 < 10 ^ 1) (Nat.pow_le_pow_right (by decide) (by decide))
  obtain ⟨-, s, entries, hall, -, hentries, -, hread⟩ :=
    file_keeps_records ids false hopened hempty hcalls hcount
  exact ⟨hopened, hempty, hcalls, s, entries, hall, hentries.length_eq.symm, (hread true).1,
    (hread true).2 "début"⟩

/-- A field with the name of the log in a call is the field of no record: the call gives the log twice. -/
theorem not_file_keeps_records :
    let files : FileTree := ⟨[(FileTree.nullDevice, ⟨#[]⟩)], [.read "output"]⟩
    let call : Call Unit := ⟨(), "t1", "started", none, [("self", .whole 1)]⟩
    AuditLog.opened .empty (.read "output/audit.log") (some "run") none =
        .ok (⟨.read "output/audit.log", some "run", none, 0⟩, files) ∧
      files.Holds (.read "output/audit.log") ⟨#[]⟩ ∧
      (call.fields.map (·.1)).Nodup ∧ (∀ e ∈ call.fields, e.1 ∉ ownNames ∧ e.2.IsJson) ∧
      ((start (fun _ => (some "run", none)) (.read "output/audit.log") files).record call).map (fun _ => ()) =
        .error (.misuse (.givenTwice "AuditLog.record()" "self")) := by
  intro files call
  exact ⟨rfl, ⟨.read "output/audit.log", by decide, .inr ⟨rfl, rfl⟩⟩, by simp [call],
    by simpa [call, ownNames] using .whole 1, rfl⟩

end Shared

end AuditLog

end Backtest
