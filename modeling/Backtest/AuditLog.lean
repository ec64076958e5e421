import Backtest.AuditEvent
import Backtest.Configuration.File
import Backtest.Json.Reading
import Backtest.Json.Writing
import Backtest.Text.Newline

/-!
# The audit log

A file of records, one JSON map to a line, which several runs may share. A record holds its number
among those of its run, the time, the run and its configuration, an event, a step, and fields.

* `AuditLog`, a run's hold on the file; `AuditLog.opened`;
* `AuditLog.write`, a record added to a file; `AuditLog.record`, a record made; `AuditLog.note`, one of
  an event;
* `AuditLog.read`, the records of a file, all or those of an event.
-/

namespace Backtest

open Text

/-- A run's hold on a file of records. -/
structure AuditLog where
  path : Path
  runId : Option String
  configHash : Option String
  /-- The number of records made. -/
  sequence : Nat

namespace AuditLog

/-- The log of a run without records, and the files with the directory of the log made. -/
def opened (files : FileTree) (path : Path) (runId configHash : Option String) :
    Except Fault (AuditLog × FileTree) :=
  (files.makeDirectory path.parent).map ({ path, runId, configHash, sequence := 0 }, ·)

/-- The record that a log makes next. A field with the name of an entry replaces it. -/
def entry (l : AuditLog) (time event : String) (step : Option Int) (fields : Table Value) :
    Table Value :=
  Table.merge
    [("seq", .whole (l.sequence + 1)), ("ts", .text time),
      ("run_id", Configuration.textOrNull l.runId),
      ("config_hash", Configuration.textOrNull l.configHash), ("event", .text event),
      ("step", (step.map Value.whole).getD .null)]
    fields

/-- A record on a line. -/
def line (entry : Table Value) : String := Json.write (.record entry) ++ "\n"

/-- The files with a record at the end of one of them, if its numbers can be written. -/
def write (files : FileTree) (path : Path) (entry : Table Value) : Except Fault FileTree :=
  (files.append path (line entry).toUTF8).bind fun files =>
    if (Value.record entry).isWritable then .ok files else .error (.range .tooManyDigits)

/-- The names that stand for no field of a record: those of the log, the event and the step in a
call. -/
def callNames : List String := ["self", "event", "step"]

/-- The log after a record, the record, and the files with its line at the end of the file. A field
may not have a name that the call uses itself. -/
def record (l : AuditLog) (files : FileTree) (time event : String) (step : Option Int)
    (fields : Table Value) : Except Fault (AuditLog × Table Value × FileTree) :=
  match (fields.map (·.1)).find? (callNames.contains ·) with
  | some name => .error (.misuse (.givenTwice "AuditLog.record()" name))
  | none =>
    let e := l.entry time event step fields
    (write files l.path e).map ({ l with sequence := l.sequence + 1 }, e, ·)

/-- The log and the files after an event. -/
def note (time : String) (l : AuditLog × FileTree) (event : AuditEvent) :
    Except Fault (AuditLog × FileTree) := do
  let (log, _, files) ←
    l.1.record l.2 time event.name (event.step?.map Int.ofNat) event.fields
  return (log, files)

/-- The lines of a text that are not blank. -/
def lines (text : String) : List String :=
  ((piecesBy (· == '\n') (plainNewlines text.toList)).filter fun l => !l.all isBlank).map
    String.ofList

/-- Whether a record is of an event; without one every record is. -/
def isOf (event : Option String) (entry : Value) : Except Fault Bool :=
  match event with
  | none => .ok true
  | some event => match entry.entry? "event" with
    | some (.text s) => .ok (s == event)
    | some _ => .ok false
    | none => .error (.missingEntry "event")

/-- The records of lines that are of an event. -/
def readLines (event : Option String) : List String → Except Fault (List Value)
  | [] => .ok []
  | l :: ls => match Json.read? l with
    | none => .error .json
    | some entry => do
      let kept ← isOf event entry
      let rest ← readLines event ls
      return if kept then entry :: rest else rest

/-- The records of a file, all or those of an event. A file that is not there has none. -/
def read (files : FileTree) (path : Path) (event : Option String) :
    Except Fault (List Value) := do
  if (← files.find? path).isNone then .ok []
  else readLines event (lines (← files.readText path))

end AuditLog

end Backtest
