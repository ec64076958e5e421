import Backtest.Proofs.SharedAudit
import Backtest.Proofs.ShownPaths

/-!
# Stored configurations

The entries of a configuration give the configuration again. Each value of an accepted configuration has
the type of its key and is as plain as its reading makes it: a path is read from its own text, a command is
given or missing, and a level is in upper case. So what an audit log keeps of the configuration of a run is
enough to have it again.

* `Value.display_ne_empty`, the text of a value that is given;
* `upperCase_upperCase`, the upper case of an upper case;
* `Configuration.Settled`, what the values of a configuration have become; `Configuration.settled_fields`;
  `Configuration.Settled.fields_toTable`, the configuration of its own entries;
* `Configuration.ofTable_toTable`, an accepted configuration is the configuration of its entries, also of
  those that an audit log keeps.
-/

namespace Backtest

open Text Decimal

/-! ### Texts -/

theorem around_ne_empty (b : Brackets) (items : String) : b.around items ≠ "" := by
  cases b <;> simp [Brackets.around]

theorem floatText_ne_empty (x : Float) : floatText x ≠ "" := by
  cases hx : Parts.ofFloat x with
  | nan =>
    rw [floatText, hx]
    decide
  | infinite negative =>
    rw [floatText, hx]
    exact mt String.ofList_eq_empty_iff.mp (by split <;> simp)
  | finite negative m q =>
    -- a finite float is written in JSON as it is everywhere
    have hreal : Json.writeReal x = floatText x := by rw [Json.writeReal, hx]
    obtain ⟨c, cs, hcons, -⟩ := (Json.plainText_real x).exists_cons
    rw [hreal] at hcons
    intro hempty
    rw [hempty] at hcons
    exact absurd hcons (by simp)

theorem Value.displayed_eq_ok {v : Value} {s : String} :
    v.displayed = .ok s ↔ v.isWritable = true ∧ v.display = s := by
  unfold displayed written
  split <;> simp_all

/-- The text of a value that is given is not empty. -/
theorem Value.display_ne_empty {v : Value} (h : v.truthy = true) : v.display ≠ "" := by
  have hinside (s : String) : toString s = s := rfl
  cases v with
  | null => exact absurd h (by decide)
  | bool b =>
    show (Value.bool b).shown ≠ ""
    cases b <;> rw [Value.shown] <;> decide
  | whole n =>
    show (Value.whole n).shown ≠ ""
    rw [Value.shown, Int.toString_eq_repr, Int.repr_eq_if]
    split
    · exact Nat.repr_ne_empty
    · simp
  | real x =>
    show (Value.real x).shown ≠ ""
    rw [Value.shown]
    exact floatText_ne_empty x
  | text s =>
    rintro hempty
    have hs : s = "" := hempty
    rw [hs] at h
    exact absurd h (by decide)
  | bytes bs =>
    show (Value.bytes bs).shown ≠ ""
    rw [Value.shown, quotedBytes]
    exact mt String.ofList_eq_empty_iff.mp (List.cons_ne_nil _ _)
  | date d => simp [Value.display, Date.plain, hinside]
  | instant i => simp [Value.display, Instant.plain, hinside]
  | list items =>
    show (Value.list items).shown ≠ ""
    rw [Value.shown]
    exact around_ne_empty _ _
  | pair a b =>
    show (Value.pair a b).shown ≠ ""
    rw [Value.shown]
    exact around_ne_empty _ _
  | set items =>
    cases items with
    | nil => exact absurd h (by decide)
    | cons v items =>
      show (Value.set (v :: items)).shown ≠ ""
      rw [Value.shown]
      · exact around_ne_empty _ _
      · simp
  | map entries =>
    show (Value.map entries).shown ≠ ""
    rw [Value.shown]
    exact around_ne_empty _ _
  | again b =>
    show (Value.again b).shown ≠ ""
    rw [Value.shown]
    exact around_ne_empty b _

/-! ### Levels -/

/-- The upper case of an upper case is the same, in a text of ASCII. -/
theorem upperCase_upperCase {s : String} (h : ∀ c ∈ s.toList, c.toNat < 128) :
    upperCase (upperCase s) = upperCase s := by
  have hupper : ∀ n < 128, (Char.ofNat n).toUpper.toNat < 128 := by decide
  have hone {c : Char} (hc : c.toNat < 128) : upperOf c = [c.toUpper] := if_pos hc
  have htwice {c : Char} (hc : c ∈ s.toList) : (upperOf c).flatMap upperOf = upperOf c := by
    have hlow := h c hc
    have hlow' := hupper c.toNat hlow
    rw [Char.ofNat_toNat] at hlow'
    rw [hone hlow, List.flatMap_singleton, hone hlow', Char.toUpper_toUpper_eq_toUpper]
  rw [upperCase, upperCase, String.toList_ofList, List.flatMap_assoc]
  exact congrArg String.ofList (List.flatMap_congr fun c hc => htwice hc)

namespace Configuration

variable {base : Option Path} {t : Table Value} {c : Configuration}

/-! ### What the values of a configuration have become -/

/-- A path as it is shown. -/
def IsShown (s : String) : Prop := (Path.read s).shown = s

theorem isShown_resolved (base : Option String) (s : String) : IsShown (resolved (base.map Path.read) s) := by
  have hproper : ((base.map Path.read).elim (Path.read s) (·.join (Path.read s))).Proper := by
    cases base with
    | none => exact Path.proper_read _
    | some dir => exact (Path.proper_read dir).join (Path.proper_read _)
  exact congrArg Path.shown hproper.read_shown

/-- Every value of a configuration is as its reading makes it. -/
structure Settled (c : Configuration) : Prop where
  csvPath : IsShown c.csvPath
  strategyPath : IsShown c.strategyPath
  outputDir : IsShown c.outputDir
  auditLogPath : IsShown c.auditLogPath
  command : ∀ s ∈ c.postRunCommand, s ≠ ""
  level : upperCase c.logLevel = c.logLevel

/-- The text of the level of the entries. -/
def levelText (t : Table Value) : String := (optional t "log_level" (.text "INFO")).display

theorem settled_fields {base : Option String} (h : fields (base.map Path.read) t = .ok c)
    (hlevel : ∀ ch ∈ (levelText t).toList, ch.toNat < 128) : c.Settled := by
  unfold fields at h
  -- an entry after the other is read and brought to its type, and the configuration is made of all
  iterate 16 obtain ⟨_, _, h⟩ := bind_eq_ok.mp h
  obtain ⟨command, hcommand, h⟩ := bind_eq_ok.mp h
  iterate 6 obtain ⟨_, _, h⟩ := bind_eq_ok.mp h
  obtain ⟨level, hlevelText, h⟩ := bind_eq_ok.mp h
  rw [← Except.ok.inj h]
  have hlevel : ∀ ch ∈ level.toList, ch.toNat < 128 := (Value.displayed_eq_ok.mp hlevelText).2 ▸ hlevel
  refine ⟨isShown_resolved base _, isShown_resolved base _, isShown_resolved base _, isShown_resolved base _, ?_,
    upperCase_upperCase hlevel⟩
  intro s hs
  obtain rfl : command = some s := hs
  unfold toCommand at hcommand
  split at hcommand
  · rename_i htruthy
    obtain ⟨text, htext, hs⟩ := map_eq_ok hcommand
    rw [← Option.some.inj hs, ← (Value.displayed_eq_ok.mp htext).2]
    exact Value.display_ne_empty htruthy
  · cases hcommand

theorem toFlag_getD (b : Option Bool) : toFlag ((b.map Value.bool).getD .null) = .ok b := by
  cases b <;> rfl

theorem toSeed_getD (n : Option ℤ) : toSeed ((n.map Value.whole).getD .null) = .ok n := by
  cases n <;> rfl

/-- A command that is given is kept. -/
theorem toCommand_textOrNull {s : Option String} (h : ∀ x ∈ s, x ≠ "") :
    toCommand (textOrNull s) = .ok s := by
  cases s with
  | none => rfl
  | some x =>
    have hx : x.isEmpty = false := by
      rw [← Bool.not_eq_true, String.isEmpty_iff]
      exact h x rfl
    show (if (!x.isEmpty) = true then .ok (some x) else .ok none) = Except.ok (some x)
    rw [hx]
    rfl

/-- The entries of a configuration whose values are settled give the configuration. -/
theorem Settled.fields_toTable (h : c.Settled) : fields none c.toTable = .ok c := by
  unfold fields
  iterate 16 refine bind_eq_ok.mpr ⟨_, rfl, ?_⟩
  refine bind_eq_ok.mpr ⟨_, toCommand_textOrNull h.command, ?_⟩
  iterate 2 refine bind_eq_ok.mpr ⟨_, rfl, ?_⟩
  refine bind_eq_ok.mpr ⟨_, toFlag_getD c.jpyQuote, ?_⟩
  refine bind_eq_ok.mpr ⟨_, toSeed_getD c.seed, ?_⟩
  iterate 3 refine bind_eq_ok.mpr ⟨_, rfl, ?_⟩
  refine congrArg Except.ok ?_
  obtain ⟨hcsv, hstrategy, houtput, haudit, -, hlevel⟩ := h
  cases c
  rw [Configuration.mk.injEq]
  exact ⟨hcsv, hstrategy, rfl, rfl, rfl, rfl, rfl, rfl, rfl, rfl, rfl, rfl, rfl, houtput, haudit, hlevel⟩

/-! ### The entries of a configuration -/

theorem isJson_getD {β : Type} {f : β → Value} (hf : ∀ x, (f x).IsJson) (x : Option β) :
    ((x.map f).getD .null).IsJson := by
  cases x with
  | none => exact .null
  | some x => exact hf x

/-- The entries of a configuration are values of JSON, each under a name of its own. -/
theorem isJson_toTable (c : Configuration) : (Value.record c.toTable).IsJson := by
  have hcommand := AuditLog.isJson_textOrNull c.postRunCommand
  have hquote := isJson_getD .bool c.jpyQuote
  have hseed := isJson_getD .whole c.seed
  refine .record (by simp [toTable]) ?_
  simp only [toTable, List.forall_mem_cons]
  exact ⟨.text _, .text _, .text _, .text _, .text _, .text _, .whole _, .whole _, hcommand, .real _, .real _,
    hquote, hseed, .text _, .text _, .text _, fun e he => absurd he (by simp)⟩

end Configuration

/-- The fields of the event of a loaded configuration fit a record, if its numbers can be written. -/
theorem AuditEvent.fits_configLoaded {c : Configuration} (h : (Value.record c.toTable).isWritable = true)
    (jpyQuote : Bool) (time : String) :
    (⟨(), time, (configLoaded c jpyQuote).name, none, (configLoaded c jpyQuote).fields⟩ :
      AuditLog.Call Unit).Fits := by
  refine ⟨by simp [fields], by simp [fields, AuditLog.ownNames], by simp [fields], fun e he => ?_, ?_, by simp⟩
  · rcases List.mem_cons.mp he with rfl | he
    · exact c.isJson_toTable
    · rw [List.mem_singleton.mp he]
      exact .bool jpyQuote
  · simpa [fields] using ⟨h, rfl⟩

/-- The event of a loaded configuration is noted behind the records of a file, and keeps the entries of the
configuration. -/
theorem AuditLog.note_configLoaded {log : AuditLog} {files : FileTree} {records : List (Table Value)}
    (hfile : files.Holds log.path (contents records).toUTF8) (hrecords : ∀ e ∈ records, (Value.record e).IsJson)
    (hcount : log.sequence + 1 < 10 ^ digitLimit) {c : Configuration}
    (hc : (Value.record c.toTable).isWritable = true) (jpyQuote : Bool) (time : String) :
    ∃ files' entry, note time (log, files) (.configLoaded c jpyQuote) =
        .ok ({ log with sequence := log.sequence + 1 }, files') ∧
      read files' log.path none = .ok ((records ++ [entry]).map .record) ∧
      entry.get? "event" = some (.text "config_loaded") ∧ entry.get? "config" = some (.record c.toTable) := by
  obtain ⟨event, hevent⟩ : ∃ event, event = AuditEvent.configLoaded c jpyQuote := ⟨_, rfl⟩
  obtain ⟨call, hcall⟩ : ∃ call : Call Unit, call = ⟨(), time, event.name, none, event.fields⟩ := ⟨_, rfl⟩
  have hfits : call.Fits := by
    rw [hcall, hevent]
    exact AuditEvent.fits_configLoaded hc jpyQuote time
  obtain ⟨entry, hentry⟩ : ∃ entry, entry = call.entry (log.runId, log.configHash) (log.sequence + 1) := ⟨_, rfl⟩
  obtain ⟨files', happend, hholds, -⟩ := hfile.append (line entry).toUTF8
  have hrecord : log.record files time event.name (event.step?.map Int.ofNat) event.fields =
      .ok ({ log with sequence := log.sequence + 1 }, entry, files') := by
    have hmade : log.entry time event.name (event.step?.map Int.ofNat) event.fields = entry := by
      rw [hentry, ← entry_eq log hfits, hcall, hevent]
      rfl
    have hnone : (event.fields.map (·.1)).find? (callNames.contains ·) = none := by
      have hfind := hfits.find?_eq_none
      rw [hcall] at hfind
      exact hfind
    have hwritable : (Value.record entry).isWritable = true := by
      rw [hentry]
      exact hfits.isWritable_entry hcount
    unfold AuditLog.record
    simp only [hnone, hmade, write_eq hwritable, happend]
    rfl
  have hall : ∀ e ∈ records ++ [entry], (Value.record e).IsJson := by
    intro e he
    rcases List.mem_append.mp he with he | he
    · exact hrecords e he
    · rw [List.mem_singleton.mp he, hentry]
      exact hfits.isJson_entry _
  have hcontents : (contents records).toUTF8 ++ (line entry).toUTF8 = (contents (records ++ [entry])).toUTF8 := by
    rw [contents_concat]
    rfl
  rw [hcontents] at hholds
  refine ⟨files', entry, ?_, ?_, ?_, ?_⟩
  · rw [← hevent]
    exact bind_eq_ok.mpr ⟨_, hrecord, rfl⟩
  · rw [read_of_holds hholds, lines_contents hall, readLines_all hall]
  · rw [hentry, hcall, hevent]
    rfl
  · rw [hentry, hcall, hevent]
    rfl

namespace Configuration

variable {t : Table Value} {c : Configuration}

/-- An accepted configuration is the configuration of its own entries, with paths that are seen from nowhere
else, and so is the configuration that these give. An audit log that notes that the configuration was
loaded keeps the entries, unless one of its numbers is too long to be written: they are read back from the
file of the log, behind the records that were there, and give the configuration of the run. -/
theorem ofTable_toTable {base : Option String} (h : ofTable (base.map Path.read) t = .ok c)
    (hlevel : ∀ ch ∈ (levelText t).toList, ch.toNat < 128) :
    ofTable none c.toTable = .ok c ∧
    ((ofTable none c.toTable).bind fun again => ofTable none again.toTable) = .ok c ∧
    ∀ (log : AuditLog) (files : FileTree) (records : List (Table Value)) (time : String) (jpyQuote : Bool),
      (Value.record c.toTable).isWritable = true → log.sequence + 1 < 10 ^ digitLimit →
      files.Holds log.path (AuditLog.contents records).toUTF8 → (∀ e ∈ records, (Value.record e).IsJson) →
      ∃ log' files' entry stored,
        AuditLog.note time (log, files) (.configLoaded c jpyQuote) = .ok (log', files') ∧
        AuditLog.read files' log.path none = .ok ((records ++ [entry]).map .record) ∧
        entry.get? "event" = some (.text "config_loaded") ∧ entry.get? "config" = some stored ∧
        ofTable none stored.toTable = .ok c := by
  obtain ⟨made, hfields, hrest⟩ := bind_eq_ok.mp h
  obtain ⟨plan, hplan, hrest⟩ := bind_eq_ok.mp hrest
  obtain ⟨settings, hsettings, hrest⟩ := bind_eq_ok.mp hrest
  obtain rfl := Except.ok.inj hrest
  have hsettled := settled_fields hfields hlevel
  have hagain : ofTable none made.toTable = .ok made :=
    bind_eq_ok.mpr ⟨made, hsettled.fields_toTable, bind_eq_ok.mpr ⟨plan, hplan,
      bind_eq_ok.mpr ⟨settings, hsettings, rfl⟩⟩⟩
  refine ⟨hagain, ?_, fun log files records time jpyQuote hwritable hcount hfile hrecords => ?_⟩
  · rw [hagain]
    exact hagain
  · obtain ⟨files', entry, hnote, hread, hevent, hconfig⟩ :=
      AuditLog.note_configLoaded hfile hrecords hcount hwritable jpyQuote time
    refine ⟨_, files', entry, _, hnote, hread, hevent, hconfig, ?_⟩
    rw [Value.toTable_record]
    exact hagain

/-- A configuration with values of several kinds, seen from a directory: paths that say a name twice, numbers
as texts, a deposit that is no number, a level in lower case, and no command. -/
theorem ofTable_toTable_relative :
    let entries : Table Value :=
      [("csv_path", .text "./data//ticks.csv"), ("strategy_path", .text "/srv/cross.py"),
        ("charts", .text "candlestick,M5,40|sma,10:sma,40"), ("variables", .text ""),
        ("in_sample", .text "2 weeks"), ("out_of_sample", .text "1 week"), ("iterations", .text " 30 "),
        ("steps", .bool true), ("post_run_command", .list []), ("deposit", .text "nan"),
        ("seed", .real 7.9), ("log_level", .text "info")]
    let files : FileTree := ⟨[(FileTree.nullDevice, ⟨#[]⟩)], [.read "output"]⟩
    let log : AuditLog := ⟨.read "output/audit.log", none, none, 0⟩
    (∀ ch ∈ (levelText entries).toList, ch.toNat < 128) ∧
    files.Holds log.path (AuditLog.contents []).toUTF8 ∧
    ∃ c, ofTable ((some "conf/").map Path.read) entries = .ok c ∧ c.csvPath = "conf/data/ticks.csv" ∧
      c.logLevel = "INFO" ∧ ofTable none c.toTable = .ok c ∧
      ∃ log' files' entry stored, AuditLog.note "now" (log, files) (.configLoaded c false) = .ok (log', files') ∧
        AuditLog.read files' log.path none = .ok [.record entry] ∧ entry.get? "config" = some stored ∧
        ofTable none stored.toTable = .ok c := by
  intro entries files log
  have hlevel : ∀ ch ∈ (levelText entries).toList, ch.toNat < 128 := by
    have hall : (levelText entries).toList.all (fun ch => decide (ch.toNat < 128)) = true := by decide +kernel
    exact fun ch hch => of_decide_eq_true (List.all_eq_true.mp hall ch hch)
  have hfile : files.Holds log.path (AuditLog.contents []).toUTF8 := by
    have hvacant : files.locate (.read "output/audit.log") = .ok (.vacant (.read "output/audit.log")) := rfl
    exact ⟨.read "output/audit.log", by decide, .inr ⟨hvacant, rfl⟩⟩
  have haccepted : (ofTable ((some "conf/").map Path.read) entries).toOption.any (fun c =>
      c.csvPath == "conf/data/ticks.csv" && c.logLevel == "INFO" && (Value.record c.toTable).isWritable) =
      true := by
    decide +kernel
  obtain ⟨c, hc, hvalues⟩ := exists_of_any haccepted
  rw [Bool.and_eq_true, Bool.and_eq_true, beq_iff_eq, beq_iff_eq] at hvalues
  obtain ⟨⟨hcsv, hinfo⟩, hwritable⟩ := hvalues
  have hcount : log.sequence + 1 < 10 ^ digitLimit :=
    lt_of_lt_of_le (by decide : 1 < 10 ^ 1) (Nat.pow_le_pow_right (by decide) (by decide))
  obtain ⟨hagain, -, hstored⟩ := ofTable_toTable hc hlevel
  obtain ⟨log', files', entry, stored, hnote, hread, -, hconfig, hconfigured⟩ :=
    hstored log files [] "now" false hwritable hcount hfile fun e he => absurd he (by simp)
  exact ⟨hlevel, hfile, c, hc, hcsv, hinfo, hagain, log', files', entry, stored, hnote, hread, hconfig,
    hconfigured⟩

end Configuration

end Backtest
