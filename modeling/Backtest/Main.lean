import Std.Time.DateTime.Timestamp
import Backtest.Session

/-!
# The command line

Reads the files that a session needs, runs it, writes the files that it changed, and tells and prints
what it has to say.
-/

namespace Backtest.CommandLine

/-- How the command line is used. -/
def usage : String :=
  "usage: backtest [-h] [--log-dir LOG_DIR] [--log-level LOG_LEVEL] [--seed SEED] config"

/-- The files with the file at a path, if it can be read. -/
def fetch (files : FileTree) (path : Path) : IO FileTree := do
  try
    let bytes ← IO.FS.readBinFile path.shown
    let added := do (← files.makeDirectory path.parent).write path bytes
    return added.toOption.getD files
  catch _ => return files

/-- The files that a session of arguments reads. -/
def gather (args : Arguments) : IO FileTree := do
  let path := Path.read args.config
  let files ← fetch .empty path
  match Configuration.load files path with
  | .error _ => return files
  | .ok c => [c.csvPath, c.strategyPath, c.auditLogPath].foldlM (fun t p => fetch t (.read p)) files

/-- Write the files that a session changed. -/
def save (before after : FileTree) : IO Unit := do
  for (path, bytes) in after.files do
    if before.fileAt path != some bytes then
      IO.FS.createDirAll path.parent.shown
      IO.FS.writeBinFile path.shown bytes

/-- The time in seconds from the start of the year 1970, as texts. -/
def now : IO Clock := do
  let t ← Std.Time.Timestamp.now
  return .ofMoment ((Moment.epoch.addSeconds? t.toSecondsSinceUnixEpoch.val).getD Moment.epoch)

/-- Tell and print what a session left, and write its files. -/
def finish (clock : Clock) (before : FileTree) (r : Report) : IO UInt32 := do
  for n in r.notices do
    (← IO.getStderr).putStr (Session.line clock n)
  (← IO.getStdout).putStr r.output
  save before r.files
  match r.result with
  | .ok code => return code.toUInt32
  | .error f =>
    (← IO.getStderr).putStrLn f.message
    return 1

end Backtest.CommandLine

open Backtest CommandLine in
/-- Run a configuration file. -/
def main (texts : List String) : IO UInt32 := do
  match Arguments.read texts with
  | .error .help =>
    (← IO.getStdout).putStrLn usage
    return 0
  | .error .usage =>
    (← IO.getStderr).putStrLn usage
    return 2
  | .ok args =>
    let files ← gather args
    let clock ← now
    let begun ← IO.monoMsNow
    match Session.start args clock files with
    | .error report => finish clock files report
    | .ok walked =>
      let ended ← IO.monoMsNow
      finish clock files (Session.close walked ((ended - begun).toFloat / 1000.0))
