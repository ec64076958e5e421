import Backtest.Decimal.Reading

/-!
# Arguments

The command line of a run: the configuration file, and options for the directory of log files, the
level of messages and the seed. A long option may be shortened as long as one option alone begins so;
its value is the next word or stands behind an equals sign. After two hyphens every word is a value.

* `Arguments`; `Refusal`, why a command line is not run, and its exit code;
* `Word`, a word by what it is; `Word.ofText?`, which refuses a beginning that several options share;
* `Arguments.read`, the arguments of a command line.
-/

namespace Backtest

open Decimal

/-- What a command line asks for. -/
structure Arguments where
  config : String
  logDir : Option String
  logLevel : Option String
  seed : Option Int

/-- Why a command line is not run. -/
inductive Refusal
  /-- It asks for help. -/
  | help
  /-- It is not understood. -/
  | usage
  deriving DecidableEq

/-- The exit code of a command line that is not run. -/
def Refusal.exitCode : Refusal → Nat
  | .help => 0
  | .usage => 2

/-- The options of a command line. -/
inductive Flag
  | help
  | logDir
  | logLevel
  | seed
  deriving DecidableEq

/-- The long names of the options. -/
def Flag.names : List (String × Flag) :=
  [("--help", .help), ("--log-dir", .logDir), ("--log-level", .logLevel), ("--seed", .seed)]

/-- A word of a command line, by what it is. -/
inductive Word
  | value (text : String)
  /-- The two hyphens after which every word is a value. -/
  | divider
  /-- An option, with the text behind its equals sign. -/
  | option (flag : Flag) (text : Option String)
  /-- The letters behind a hyphen and the letter of help. -/
  | letters (rest : List Char)
  | unknown

namespace Word

/-- The characters without a newline at their end. -/
def dropNewline (cs : List Char) : List Char :=
  if cs.getLast? == some '\n' then cs.dropLast else cs

/-- A number below zero; a newline may follow it. -/
def isNegative (cs : List Char) : Bool :=
  match dropNewline cs with
  | '-' :: cs =>
    match cs.dropWhile Text.isDecimalDigit with
    | [] => !cs.isEmpty
    | '.' :: ds => !ds.isEmpty && ds.all Text.isDecimalDigit
    | _ => false
  | _ => false

/-- A word that is none of the options. -/
def plain (cs : List Char) : Word :=
  if isNegative cs || cs.contains ' ' then .value (String.ofList cs) else .unknown

/-- The parts of a word before its first equals sign and behind it. -/
def cut (cs : List Char) : List Char × Option String :=
  match cs.dropWhile (· != '=') with
  | [] => (cs, none)
  | _ :: text => (cs.takeWhile (· != '='), some (String.ofList text))

/-- The options whose names begin so. -/
def named (start : List Char) : List Flag :=
  match Flag.names.find? fun n => n.1.toList == start with
  | some (_, flag) => [flag]
  | none => (Flag.names.filter fun n => start.isPrefixOf n.1.toList).map (·.2)

/-- A word before the divider; nothing if several options begin so. -/
def ofText? (s : String) : Option Word :=
  match s.toList with
  | '-' :: '-' :: cs =>
    let (start, text) := cut ('-' :: '-' :: cs)
    match named start with
    | [flag] => some (.option flag text)
    | [] => some (plain ('-' :: '-' :: cs))
    | _ => none
  | '-' :: 'h' :: rest => some (.letters rest)
  | '-' :: c :: cs => some (plain ('-' :: c :: cs))
  | _ => some (.value s)

/-- Whether the letters behind the letter of help leave it so: each asks for help again. Behind an
equals sign there must be one. -/
def askHelp : List Char → Bool
  | '=' :: cs => !cs.isEmpty && cs.all (· == 'h')
  | cs => cs.all (· == 'h')

/-- The words of a command line. -/
def ofTexts? : List String → Option (List Word)
  | [] => some []
  | s :: ss =>
    if s == "--" then some (.divider :: ss.map .value)
    else do
      let w ← ofText? s
      let ws ← ofTexts? ss
      return w :: ws

end Word

/-- What has been read of a command line; `extra` says whether a word was left over. -/
structure ArgumentsSoFar where
  config : Option String
  logDir : Option String
  logLevel : Option String
  seed : Option Int
  extra : Bool

namespace ArgumentsSoFar

/-- Nothing has been read. -/
def none : ArgumentsSoFar := ⟨.none, .none, .none, .none, false⟩

/-- The arguments at the end of a command line. -/
def finish (r : ArgumentsSoFar) : Except Refusal Arguments :=
  match r.config with
  | some config =>
    if r.extra then .error .usage
    else .ok { config, logDir := r.logDir, logLevel := r.logLevel, seed := r.seed }
  | .none => .error .usage

/-- The value of an option. -/
def set (r : ArgumentsSoFar) (text : String) : Flag → Except Refusal ArgumentsSoFar
  | .help => .error .usage
  | .logDir => .ok { r with logDir := some text }
  | .logLevel => .ok { r with logLevel := some text }
  | .seed => match readInt? text with
    | some n => .ok { r with seed := some n }
    | .none => .error .usage

/-- A value that belongs to no option: the first is the configuration file. -/
def place (r : ArgumentsSoFar) (text : String) : ArgumentsSoFar :=
  match r.config with
  | .none => { r with config := some text }
  | some _ => { r with extra := true }

/-- The words that are left. A divider beside the configuration file goes with it. -/
def readWords (r : ArgumentsSoFar) : List Word → Except Refusal Arguments
  | [] => r.finish
  | .value s :: .divider :: ws => (r.place s).readWords ws
  | .value s :: ws => (r.place s).readWords ws
  | .divider :: .value s :: ws => (r.place s).readWords ws
  | .divider :: ws => { r with extra := true }.readWords ws
  | .option .help .none :: _ => .error .help
  | .letters cs :: _ => .error (if Word.askHelp cs then .help else .usage)
  | .option flag (some text) :: ws => do (← r.set text flag).readWords ws
  | .option flag .none :: .value text :: ws => do (← r.set text flag).readWords ws
  | .option _ .none :: _ => .error .usage
  | .unknown :: ws => { r with extra := true }.readWords ws

end ArgumentsSoFar

/-- The arguments of a command line. -/
def Arguments.read (texts : List String) : Except Refusal Arguments :=
  match Word.ofTexts? texts with
  | none => .error .usage
  | some ws => ArgumentsSoFar.none.readWords ws

end Backtest
