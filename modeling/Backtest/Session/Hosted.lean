import Backtest.Arguments
import Backtest.AuditLog
import Backtest.Host
import Backtest.RunIdentity
import Backtest.Walk

/-!
# Sessions on a host

A session runs a configuration file from the command line. It loads the file, walks, and writes the
audit log and the trade log; then it prints the scores and runs the command that the configuration
names. What it has to tell goes to the user, and to a log file if a directory is given for one, from a
level on. YAML, levels, scripts and the shell are those of its host.

* `Clock`, the texts of the time; `Report`, what a session leaves;
* `Session`, a session that is under way; `Host.begin`, its beginning; `Host.walk`, its walk;
  `Host.close`, its end;
* `Host.run`, a session from its arguments to its report.
-/

namespace Backtest

open Text Decimal

/-- The texts of the time at which a session runs. -/
structure Clock where
  /-- The time in the name of a run. -/
  run : String
  /-- The time of a record of the audit log. -/
  record : String
  /-- The time in front of a line of a log file. -/
  line : String
  /-- The day in the name of a log file. -/
  day : String

/-- The texts of a moment. -/
def Clock.ofMoment (m : Moment) : Clock :=
  let pad (width n : Nat) := String.ofList (paddedNat width n)
  let year := pad 4 m.date.year
  let month := Moment.twoDigits m.date.month
  let day := Moment.twoDigits m.date.day
  let hour := Moment.twoDigits m.hour
  let minute := Moment.twoDigits m.minute
  let second := Moment.twoDigits m.second
  { run := s!"{year}{month}{day}T{hour}{minute}{second}Z"
    record := s!"{year}-{month}-{day}T{hour}:{minute}:{second}+00:00"
    line := s!"{year}-{month}-{day} {hour}:{minute}:{second}"
    day := s!"{year}-{month}-{day}" }

/-- What a session leaves: the files, what it told its user, what it printed, and its exit code or the
fault that ended it. -/
structure Report where
  files : FileTree
  notices : List Notice
  output : String
  result : Except Fault Nat

/-- A session that is under way: what it tells counts from a level on. -/
structure Session where
  clock : Clock
  level : Level
  logDir : Option Path
  files : FileTree
  notices : List Notice

namespace Session

/-- The log file of a session, if it has one. -/
def logFile (s : Session) : Option Path :=
  s.logDir.map fun dir => dir.join (.read s!"walkforward_{s.clock.day}.log")

/-- A notice on a line of a log file. -/
def line (clock : Clock) (n : Notice) : String :=
  s!"{clock.line} | {n.level.name} | {n.text}\n"

/-- The notices that count. -/
def shown (level : Level) (ns : List Notice) : List Notice :=
  ns.filter fun n => level.weight ≤ n.level.weight

/-- The session with notices. -/
def tell (s : Session) (ns : List Notice) : Session := { s with notices := s.notices ++ ns }

/-- The report of a session that ends. The lines of a log file that cannot be written are lost. -/
def report (s : Session) (output : String) (result : Except Fault Nat) : Report :=
  let notices := shown s.level s.notices
  let text := String.join (notices.map (line s.clock))
  let files := match s.logFile with
    | some p => (s.files.append p text.toUTF8).toOption.getD s.files
    | none => s.files
  { files, notices, output, result }

/-- The level that the arguments name, or another. -/
def levelName (args : Arguments) (other : String) : String :=
  match args.logLevel with
  | some name => if name.isEmpty then other else name
  | none => other

/-- Whether a session that cannot load its configuration tells why; other faults end it as they
are. -/
def isReported : Fault → Bool
  | .config _ | .file _ => true
  | _ => false

/-- Whether a fault aborts a run; other faults end it as they are. -/
def isAborting : Fault → Bool
  | .config _ | .stream _ => true
  | _ => false

/-- A run before its walk: the audit log, the logs' files, the walk and its generator. -/
structure Setup where
  audit : AuditLog
  files : FileTree
  walk : Walk
  generator : Twister

/-- The file of trades of a configuration. -/
def tradesPath (c : Configuration) : Path := (Path.read c.outputDir).join (.read "trades.csv")

/-- The file of ticks of a configuration. -/
def ticksPath (c : Configuration) : Path := (Path.read c.outputDir).join (.read "ticks.csv")

/-- Whether prices are quoted in yen: the configuration says it, or the source shows it. -/
def quotedInYen (c : Configuration) (source : TickSource) : Except Fault Bool :=
  match c.jpyQuote with
  | some b => .ok b
  | none => source.isJpyQuoted

/-- The files with the directory of the audit log made and its first record written. -/
def openAuditLog (c : Configuration) (r : RunIdentity) (clock : Clock) (jpyQuote : Bool)
    (files : FileTree) : Except Fault (AuditLog × FileTree) := do
  AuditLog.note clock.record
    (← AuditLog.opened files (.read c.auditLogPath) (some r.runId) (some r.configHash))
    (.configLoaded c jpyQuote)

/-- Changes of files made one after the other up to one that fails, and its fault. -/
def inTurn (files : FileTree) : List (FileTree → Except Fault FileTree) → FileTree × Option Fault
  | [] => (files, none)
  | change :: changes => match change files with
    | .ok files => inTurn files changes
    | .error f => (files, some f)

/-- The files with the directory of the trade log made and its two files emptied, as far as that
goes. -/
def openTradeLog (c : Configuration) (files : FileTree) : FileTree × Option Fault :=
  inTurn files [(·.makeDirectory (.read c.outputDir)), (·.write (tradesPath c) ⟨#[]⟩),
    (·.write (ticksPath c) ⟨#[]⟩)]

/-- The files with a trade log written. -/
def writeTradeLog (c : Configuration) (log : TradeLog Float) (files : FileTree) :
    Except Fault FileTree := do
  (← files.write (tradesPath c) log.tradesText.toUTF8).write (ticksPath c) log.ticksText.toUTF8

/-- A run that was walked: the session, its configuration and name, and what the walk gave. -/
structure Walked where
  session : Session
  config : Configuration
  runId : String
  result : WalkResult

/-- The lines that a session prints: the scores of its steps. -/
def scoreLines (r : WalkResult) : String :=
  String.join (r.steps.map fun t => s!"{t.step}: {floatText t.score}\n")

end Session

namespace Host

open Session

/-- A session that begins to tell from a named level on; its log directory is made. -/
def begin (host : Host) (args : Arguments) (clock : Clock) (files : FileTree) (levelName : String) :
    Except Fault Session :=
  match host.level? levelName with
  | none => .error (.unknownLevel levelName)
  | some level =>
    let logDir := args.logDir.map Path.read
    let made := match logDir with
      | some dir => files.makeDirectory dir
      | none => .ok files
    made.map fun files => { clock, level, logDir, files, notices := [] }

/-- The setup of a run whose quotes are known. The tick file is read behind the logs, one of which may
take its place. -/
def setup (host : Host) (args : Arguments) (c : Configuration) (r : RunIdentity) (clock : Clock)
    (files : FileTree) (jpyQuote : Bool) : FileTree × Except Fault Setup :=
  match Strategy.ofFileWith host.script files (.read c.strategyPath) with
  | .error f => (files, .error f)
  | .ok strategy => match openAuditLog c r clock jpyQuote files with
    | .error f => (files, .error f)
    | .ok (audit, files) => match openTradeLog c files with
      | (files, some f) => (files, .error f)
      | (files, none) =>
        let made : Except Fault (Plan × TickSource × Settings Float) := do
          let plan ← c.plan
          let source ← TickSource.ofFile files (.read c.csvPath)
          let settings ← configured (c.settings (some jpyQuote))
          return (plan, source, settings)
        match made with
        | .error f => (files, .error f)
        | .ok (plan, source, settings) =>
          let seed := (args.seed <|> c.seed).getD 0
          (files, .ok { audit, files, walk := { plan, source, strategy := .ok strategy, settings },
                        generator := .ofSeed seed })

/-- The session after its walk, or its report if it ends before. -/
def walk (host : Host) (s : Session) (args : Arguments) (c : Configuration) (r : RunIdentity) :
    Except Report Walked :=
  let s := s.tell [.runStarted r.runId r.shortHash]
  let stop (s : Session) (f : Fault) : Except Report Walked :=
    if isAborting f then .error ((s.tell [.runAborted f.message]).report "" (.ok 1))
    else .error (s.report "" (.error f))
  let quoted : Except Fault Bool := do
    quotedInYen c (← TickSource.ofFile s.files (.read c.csvPath))
  match quoted with
  | .error f => stop s f
  | .ok jpyQuote =>
    let s := s.tell [.pipCalculation jpyQuote]
    match host.setup args c r s.clock s.files jpyQuote with
    | (files, .error f) => stop { s with files } f
    | (_, .ok p) =>
      let (w, result) := p.walk.run Books.new p.generator
      let written := do
        let (_, files) ← w.events.toList.foldlM (AuditLog.note s.clock.record) (p.audit, p.files)
        writeTradeLog c (w.books.tradeLog.getD .empty) files
      let s := s.tell w.books.notices.toList
      match written, result with
      | .error f, _ => stop { s with files := p.files } f
      | .ok files, .error f => stop { s with files } f
      | .ok files, .ok result =>
        .ok { session := { s with files }, config := c, runId := r.runId, result }

/-- The command after a run: what is told of it, the files that it leaves, and what it prints, or the
fault that ends the session. -/
def afterRun (host : Host) (files : FileTree) (command : String) :
    List Notice × FileTree × Except Fault String :=
  if command.toList.contains '\x00' then ([.postRun command], files, .error .zeroCharacter)
  else
    let o := host.runCommand files command
    match String.fromUTF8? o.output, String.fromUTF8? o.errors with
    | some output, some errors =>
      let warning : List Notice :=
        if o.code == 0 then [] else
          [.postRunFailed (strip (String.ofList (plainNewlines errors.toList)))]
      ([.postRun command, .postRunExit o.code] ++ warning, o.files,
        .ok (String.ofList (plainNewlines output.toList)))
    | _, _ => ([.postRun command], o.files, .error .utf8)

/-- The report of a run that was walked, so many seconds after its beginning. -/
def close (host : Host) (w : Walked) (seconds : Float) : Report :=
  match w.result.failed with
  | some (step, failure) => (w.session.tell [.runFailed step failure]).report "" (.ok 1)
  | none =>
    let s := w.session.tell [.runFinished w.runId seconds]
    let scores := scoreLines w.result
    match w.config.postRunCommand with
    | none => s.report scores (.ok 0)
    | some command =>
      let (notices, files, output) := host.afterRun s.files command
      let s := { s with files }.tell notices
      match output with
      | .ok text => s.report (scores ++ text) (.ok 0)
      | .error f => s.report scores (.error f)

/-- A session up to the end of its walk, or its report if it ends before. -/
def start (host : Host) (args : Arguments) (clock : Clock) (files : FileTree) :
    Except Report Walked :=
  let path := Path.read args.config
  let ended (f : Fault) : Except Report Walked :=
    .error { files, notices := [], output := "", result := .error f }
  match Configuration.loadWith host.readYaml files path with
  | .error f =>
    if isReported f then
      match host.begin args clock files (levelName args "INFO") with
      | .error f => ended f
      | .ok s => .error ((s.tell [.configFailed path.shown f.message]).report "" (.ok 1))
    else ended f
  | .ok c =>
    match host.begin args clock files (levelName args c.logLevel) with
    | .error f => ended f
    | .ok s => match RunIdentity.ofFile s.files path clock.run none with
      | .error f => .error (s.report "" (.error f))
      | .ok r => host.walk s args c r

/-- A session from its arguments to its report; `seconds` is how long it is said to take. -/
def run (host : Host) (args : Arguments) (clock : Clock) (files : FileTree) (seconds : Float) :
    Report :=
  match host.start args clock files with
  | .error report => report
  | .ok walked => host.close walked seconds

end Host

end Backtest
