import Backtest.Text.Quoted
import Backtest.Decimal.FloatText

/-!
# Faults

Everything that can go wrong, by cause. The causes of one part of the library form one type; `Fault`
joins them, and `Fault.message` is the wording of each.
-/

namespace Backtest

open Text Decimal

/-- Why the text of a tick is refused. -/
inductive TickFault
  /-- The line has fewer than three fields. -/
  | tooFewFields (line : String)
  /-- The time does not have the form month/day/year hour:minute:second. -/
  | timeMismatch (text : String)
  /-- The time is followed by more text. -/
  | timeTrailing (rest : String)
  | yearZero
  | dayOutOfRange
  | secondOutOfRange
  /-- A price is not a number. -/
  | notANumber (text : String)
  deriving DecidableEq

/-- The wording of a tick fault. -/
def TickFault.message : TickFault → String
  | .tooFewFields line => s!"Malformed tick line: {quoted line}"
  | .timeMismatch text => s!"time data {quoted text} does not match format '%m/%d/%Y %H:%M:%S'"
  | .timeTrailing rest => s!"unconverted data remains: {rest}"
  | .yearZero => "year 0 is out of range"
  | .dayOutOfRange => "day is out of range for month"
  | .secondOutOfRange => "second must be in 0..59"
  | .notANumber text => s!"could not convert string to float: {quoted text}"

/-- The bounds of a variable, as they are shown. -/
inductive Bound
  | whole (n : Int)
  | real (x : Float)

/-- The text of a bound. -/
def Bound.text : Bound → String
  | .whole n => toString n
  | .real x => floatText x

/-- The three kinds of variables. -/
inductive VariableKind
  | bool
  | real
  | whole
  deriving DecidableEq

/-- The kind with its article, as messages name it. -/
def VariableKind.named : VariableKind → String
  | .bool => "a bool"
  | .real => "a float"
  | .whole => "an integer"

/-- The kind at the start of a sentence. -/
def VariableKind.Named : VariableKind → String
  | .bool => "A bool"
  | .real => "A float"
  | .whole => "An integer"

/-- The word that declares a kind. -/
def VariableKind.word : VariableKind → String
  | .bool => "bool"
  | .real => "float"
  | .whole => "int"

/-- Why a configuration, a definition or a file named by one is refused. -/
inductive ConfigFault
  | tickFileNotFound (path : String)
  | tickFileNotUtf8 (path : String)
  | tickFileEmpty (path : String)
  | decimalPlaces (places : Nat) (field : String)
  | scriptNotFound (path : String)
  | scriptNotLoadable (path : String)
  | scriptWithoutOnTick (path : String)
  | unknownPeriod (text : String)
  | drawdownLimit (x : Float)
  | deposit (x : Float)
  | bounds (lower upper : Bound)
  | duplicateVariable (kind : VariableKind) (name : String)
  | emptyName
  | nameCharacter (name : String)
  | sampleFormat
  | notAnInteger (label text : String)
  | notANumber (label text : String)
  | periodCount
  | unknownUnit (text : String)
  | chartParts (line : String)
  | chartCandles
  | unknownChartType (text : String)
  | indicatorParts (text : String)
  | indicatorCandles
  | lookbackTooLong (lookback candles : Int)
  | unknownIndicatorType (text : String)
  | variableParts (line : String)
  | variableBounds (kind : VariableKind) (name : String)
  | unknownVariableType (text : String)
  | jpyQuote (shown : String)
  | steps
  | iterations
  | noCharts
  | configNotFound (path : String)
  | notAMapping
  | missingKey (key : String)
  | invalidValue (key shown : String)

/-- The wording of a configuration fault. -/
def ConfigFault.message : ConfigFault → String
  | .tickFileNotFound path => s!"Tick file not found: {path}"
  | .tickFileNotUtf8 path => s!"Tick file is not valid UTF-8: {path}"
  | .tickFileEmpty path => s!"Tick file is empty: {path}"
  | .decimalPlaces places field =>
    s!"Expected 3 or 5 decimal places, got {places} ({quoted field})"
  | .scriptNotFound path => s!"Strategy script not found: {path}"
  | .scriptNotLoadable path => s!"Cannot load strategy script: {path}"
  | .scriptWithoutOnTick path => s!"Strategy script {path} does not define on_tick(view, tick)"
  | .unknownPeriod text => s!"Unknown chart period: {text}"
  | .drawdownLimit x => s!"drawdown_limit must be negative, got {floatText x}"
  | .deposit x => s!"deposit must be > 0, got {floatText x}"
  | .bounds lower upper => s!"lower ({lower.text}) must be < upper ({upper.text})"
  | .duplicateVariable kind name => s!"{kind.Named} already exists with the name \"{name}\""
  | .emptyName => "Variable name must not be empty"
  | .nameCharacter name => s!"Invalid character in name: {quoted name}"
  | .sampleFormat => "Sample format must be something like \"2 weeks\""
  | .notAnInteger label text => s!"Invalid integer for {label}: {quoted text}"
  | .notANumber label text => s!"Invalid number for {label}: {quoted text}"
  | .periodCount => "Number of periods must be > 0"
  | .unknownUnit text => s!"Unknown period specified: \"{text}\""
  | .chartParts line => s!"Chart definition must have 3 parts: {quoted line}"
  | .chartCandles => "Number of candles for chart must be > 0"
  | .unknownChartType text => s!"Unknown chart type: {text}"
  | .indicatorParts text => s!"Indicator definition must have 2 parts: {quoted text}"
  | .indicatorCandles => "Number of candles for indicator must be > 0"
  | .lookbackTooLong lookback candles =>
    s!"Number of indicator candles ({lookback}) can't exceed number of chart candles ({candles})"
  | .unknownIndicatorType text => s!"Unknown indicator type: {text}"
  | .variableParts line => s!"Variable definition must have a name and a type: {quoted line}"
  | .variableBounds kind name => s!"{kind.word} variable {name} needs lower and upper bounds"
  | .unknownVariableType text => s!"Unknown variable type: {text}"
  | .jpyQuote shown => s!"Invalid jpy_quote: {shown} (expected true or false)"
  | .steps => "steps must be > 0"
  | .iterations => "iterations must be > 0"
  | .noCharts => "At least one chart must be defined"
  | .configNotFound path => s!"Config file not found: {path}"
  | .notAMapping => "Config must be a mapping"
  | .missingKey key => s!"Missing required config key: {key}"
  | .invalidValue key shown => s!"Invalid {key}: {shown}"

/-- The halves of a walk-forward step, as messages name them. -/
inductive Sample
  | inSample
  | outOfSample
  deriving DecidableEq

/-- The name of a sample. -/
def Sample.label : Sample → String
  | .inSample => "in-sample"
  | .outOfSample => "out-of-sample"

/-- Why a stream of ticks does not serve. -/
inductive StreamFault
  | malformed (position : Nat) (path : String) (line : List UInt8)
  | chartsNotFilled
  | noSunday
  | emptyPass (sample : Sample)
  | emptyWindow (sample : Sample) (step : Nat)
  deriving DecidableEq

/-- The wording of a stream fault. -/
def StreamFault.message : StreamFault → String
  | .malformed position path line =>
    s!"Malformed tick at byte {position} of {path}: {quotedBytes line}"
  | .chartsNotFilled => "Reached end of tick data before all charts were filled"
  | .noSunday => "Advanced to end of tick data but did not find a Sunday"
  | .emptyPass sample => s!"No ticks supplied for {sample.label} simulation"
  | .emptyWindow sample step =>
    s!"No ticks available for the {sample.label} window of step {step}"

/-- How a caller can break the contract of a trade or a simulation. -/
inductive TradeFault
  | alreadyClosed (id : Int)
  | openTrades
  deriving DecidableEq

/-- The wording of a trade fault. -/
def TradeFault.message : TradeFault → String
  | .alreadyClosed id => s!"Trade {id} is already closed"
  | .openTrades => "pip expectancy can only be determined when no trades are open"

/-- Why a file or a directory does not serve. -/
inductive FileFault
  | notFound (path : String)
  /-- A file stands where a directory should be made. -/
  | exists (path : String)
  /-- A path leads through a file. -/
  | notADirectory (path : String)
  | isDirectory (path : String)
  | nameTooLong (path : String)
  /-- A cursor lies before the start of a file. -/
  | invalidCursor
  deriving DecidableEq

/-- The wording of a file fault, with its number. -/
def FileFault.message : FileFault → String
  | .notFound path => s!"[Errno 2] No such file or directory: {quoted path}"
  | .exists path => s!"[Errno 17] File exists: {quoted path}"
  | .notADirectory path => s!"[Errno 20] Not a directory: {quoted path}"
  | .isDirectory path => s!"[Errno 21] Is a directory: {quoted path}"
  | .nameTooLong path => s!"[Errno 36] File name too long: {quoted path}"
  | .invalidCursor => "[Errno 22] Invalid argument"

/-- Why a text that is YAML has no value, or why it is no YAML. -/
inductive YamlFault
  /-- The text is no YAML, or a value has no meaning. -/
  | malformed
  /-- An escape names no character. -/
  | character
  /-- An escape names a number beyond 31 bits. -/
  | characterTooLarge
  /-- A whole number that cannot be read in its base. -/
  | digits (base : Nat) (text : String)
  | notANumber (text : String)
  /-- A number without digits. -/
  | emptyNumber
  /-- A power of sixty beyond every finite float. -/
  | unitTooLarge
  /-- A word marked as a truth value that is none. -/
  | truthWord (word : String)
  /-- A text marked as a time that is none. -/
  | notATime
  | yearZero
  | month
  | day
  | hour
  | minute
  | second
  /-- An offset from universal time of a day or more. -/
  | offset (shown : String)
  deriving DecidableEq

/-- The wording of a YAML fault; a fault of syntax has none. -/
def YamlFault.message? : YamlFault → Option String
  | .malformed => none
  | .character => some "chr() arg not in range(0x110000)"
  | .characterTooLarge => some "Python int too large to convert to C int"
  | .digits base text => some s!"invalid literal for int() with base {base}: {quoted text}"
  | .notANumber text => some s!"could not convert string to float: {quoted text}"
  | .emptyNumber => some "string index out of range"
  | .unitTooLarge => some "int too large to convert to float"
  | .truthWord word => some word
  | .notATime => some "'NoneType' object has no attribute 'groupdict'"
  | .yearZero => some "year 0 is out of range"
  | .month => some "month must be in 1..12"
  | .day => some "day is out of range for month"
  | .hour => some "hour must be in 0..23"
  | .minute => some "minute must be in 0..59"
  | .second => some "second must be in 0..59"
  | .offset shown =>
    some ("offset must be a timedelta strictly between -timedelta(hours=24) and " ++
      s!"timedelta(hours=24), not {shown}.")

/-- Numbers that do not fit where they are used. -/
inductive RangeFault
  /-- More candles than can be counted. -/
  | tooManyCandles
  /-- An infinite number where a whole number is needed. -/
  | infiniteInteger
  /-- A whole number beyond every finite float. -/
  | integerTooLarge
  /-- A date outside the calendar. -/
  | date
  /-- A whole number with more digits than are written. -/
  | tooManyDigits
  deriving DecidableEq

/-- The wording of a range fault. -/
def RangeFault.message : RangeFault → String
  | .tooManyCandles => "Python int too large to convert to C ssize_t"
  | .infiniteInteger => "cannot convert float infinity to integer"
  | .integerTooLarge => "int too large to convert to float"
  | .date => "date value out of range"
  | .tooManyDigits =>
    "Exceeds the limit (4300 digits) for integer string conversion; " ++
      "use sys.set_int_max_str_digits() to increase the limit"

/-- What is done with a value that its kind does not allow, or with a call. -/
inductive Misuse
  /-- An order of two kinds that have none. -/
  | incomparable (sign left right : String)
  /-- A key of a kind that cannot be one. -/
  | unhashable (kind : String)
  /-- A call of what is no function. -/
  | notCallable (kind : String)
  /-- A change of what cannot be changed. -/
  | readOnly
  /-- A class that is none. -/
  | notAClass (kind : String)
  /-- A parameter of a call that is given twice. -/
  | givenTwice (call parameter : String)
  deriving DecidableEq

/-- The wording of a misuse. -/
def Misuse.message : Misuse → String
  | .incomparable sign left right =>
    s!"'{sign}' not supported between instances of '{left}' and '{right}'"
  | .unhashable kind => s!"unhashable type: '{kind}'"
  | .notCallable kind => s!"'{kind}' object is not callable"
  | .readOnly => "readonly attribute"
  | .notAClass kind => s!"__class__ must be set to a class, not '{kind}' object"
  | .givenTwice call parameter => s!"{call} got multiple values for argument '{parameter}'"

/-- Everything that can go wrong. -/
inductive Fault
  | tick (fault : TickFault)
  | config (fault : ConfigFault)
  | stream (fault : StreamFault)
  | trade (fault : TradeFault)
  | range (fault : RangeFault)
  | file (fault : FileFault)
  | yaml (fault : YamlFault)
  /-- A number of candles below zero. -/
  | negativeCapacity
  /-- A cursor beyond the signed numbers of 64 bits. -/
  | cursorTooLarge
  /-- What a strategy answered is no decision; it is given as it is shown. -/
  | unknownDecision (shown : String)
  /-- No message level has this name; it is given as it is written. -/
  | unknownLevel (name : String)
  | variableNotFound (kind : VariableKind) (name : String)
  /-- A record lacks an entry. -/
  | missingEntry (key : String)
  /-- A strategy was asked before it was set up. -/
  | notSetUp
  /-- A value or a call was used for what it does not allow. -/
  | misuse (fault : Misuse)
  /-- A strategy read a variable that was never set. -/
  | unsetVariable (name : String)
  | indexOutOfRange
  /-- A number that counts no month. -/
  | noMonth
  /-- A text with the character zero where it ends texts. -/
  | zeroCharacter
  /-- A text that should be JSON is not. -/
  | json
  /-- Bytes that should be UTF-8 are not. -/
  | utf8

/-- The wording of a fault. A fault in the syntax of a file has none. -/
def Fault.message? : Fault → Option String
  | .tick f => some f.message
  | .config f => some f.message
  | .stream f => some f.message
  | .trade f => some f.message
  | .range f => some f.message
  | .file f => some f.message
  | .yaml f => f.message?
  | .negativeCapacity => some "maxlen must be non-negative"
  | .cursorTooLarge => some "cannot fit 'int' into an offset-sized integer"
  | .unknownDecision shown => some s!"Unknown strategy decision: {shown}"
  | .unknownLevel name => some s!"Level '{name}' does not exist"
  | .variableNotFound kind name =>
    some s!"Could not find {kind.named} with the name \"{name}\""
  | .missingEntry key => some key
  | .notSetUp => some "setup() must be called before on_tick()"
  | .misuse f => some f.message
  | .unsetVariable name => some s!"name '{name}' is not defined"
  | .indexOutOfRange => some "list index out of range"
  | .noMonth => some "tuple index out of range"
  | .zeroCharacter => some "embedded null byte"
  | .json => none
  | .utf8 => none

/-- The wording of a fault, empty where it has none. -/
def Fault.message (f : Fault) : String := f.message?.getD ""

end Backtest
