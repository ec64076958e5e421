import Backtest.Arguments
import Backtest.AuditEvent
import Backtest.AuditLog
import Backtest.Books
import Backtest.Candle
import Backtest.Chart
import Backtest.Chart.Definition
import Backtest.Configuration
import Backtest.Configuration.File
import Backtest.Decimal.Binary
import Backtest.Decimal.FloatText
import Backtest.Decimal.Reading
import Backtest.Decimal.Shortest
import Backtest.Decision
import Backtest.Definition
import Backtest.Digest
import Backtest.Drawdown
import Backtest.Fault
import Backtest.FileTree
import Backtest.Generator
import Backtest.Host
import Backtest.Ids
import Backtest.Indicator
import Backtest.Json.Reading
import Backtest.Json.Writing
import Backtest.Main
import Backtest.MarketView
import Backtest.Moment
import Backtest.Moment.Instant
import Backtest.Moment.Reading
import Backtest.Notice
import Backtest.Parameter
import Backtest.Pass
import Backtest.Path
import Backtest.Price
import Backtest.Proofs.Abreast
import Backtest.Proofs.Accepted
import Backtest.Proofs.Alternation
import Backtest.Proofs.AuditRecords
import Backtest.Proofs.AuditTrail
import Backtest.Proofs.Averages
import Backtest.Proofs.Bars
import Backtest.Proofs.Bounds
import Backtest.Proofs.Breach
import Backtest.Proofs.Calendar
import Backtest.Proofs.ChartFeed
import Backtest.Proofs.ChartSteps
import Backtest.Proofs.ChartText
import Backtest.Proofs.Conservation
import Backtest.Proofs.Consultation
import Backtest.Proofs.Contracts
import Backtest.Proofs.Course
import Backtest.Proofs.Crossings
import Backtest.Proofs.DayBoundaries
import Backtest.Proofs.DayWalk
import Backtest.Proofs.DecimalReading
import Backtest.Proofs.Declarations
import Backtest.Proofs.DefinitionLines
import Backtest.Proofs.DrawnParameters
import Backtest.Proofs.Draws
import Backtest.Proofs.FileLines
import Backtest.Proofs.Filling
import Backtest.Proofs.FloatArithmetic
import Backtest.Proofs.FloatNearest
import Backtest.Proofs.FloatOrder
import Backtest.Proofs.Foresight
import Backtest.Proofs.Generators
import Backtest.Proofs.Guarantees
import Backtest.Proofs.HighWater
import Backtest.Proofs.Interchange
import Backtest.Proofs.Itinerary
import Backtest.Proofs.JsonNumbers
import Backtest.Proofs.JsonRoundTrip
import Backtest.Proofs.Ledger
import Backtest.Proofs.LifeCycle
import Backtest.Proofs.LogAgreement
import Backtest.Proofs.Memory
import Backtest.Proofs.Numbering
import Backtest.Proofs.OpenTrades
import Backtest.Proofs.ParameterTable
import Backtest.Proofs.PassSequence
import Backtest.Proofs.PassesMade
import Backtest.Proofs.Pieces
import Backtest.Proofs.Published
import Backtest.Proofs.ReadAhead
import Backtest.Proofs.Refusals
import Backtest.Proofs.Renumbering
import Backtest.Proofs.Reproduction
import Backtest.Proofs.Resumption
import Backtest.Proofs.Rewinding
import Backtest.Proofs.Schedule
import Backtest.Proofs.SearchAnswer
import Backtest.Proofs.Selection
import Backtest.Proofs.Settlement
import Backtest.Proofs.SharedAudit
import Backtest.Proofs.ShortestDecimal
import Backtest.Proofs.ShownPaths
import Backtest.Proofs.StoredConfiguration
import Backtest.Proofs.Stream
import Backtest.Proofs.Sundays
import Backtest.Proofs.Tiling
import Backtest.Proofs.TradeKeeping
import Backtest.Proofs.TradingWeeks
import Backtest.Proofs.Turns
import Backtest.Proofs.UniversalDays
import Backtest.Proofs.Views
import Backtest.Proofs.Weekdays
import Backtest.Proofs.WholeParts
import Backtest.Proofs.WrittenFiles
import Backtest.Proofs.YenQuotes
import Backtest.RunIdentity
import Backtest.Search
import Backtest.SearchSpace
import Backtest.SearchSpace.Definition
import Backtest.Session
import Backtest.Session.Hosted
import Backtest.Settings
import Backtest.Shell
import Backtest.Shell.Arithmetic
import Backtest.Shell.Braces
import Backtest.Shell.Builtin
import Backtest.Shell.CommandReading
import Backtest.Shell.Directive
import Backtest.Shell.Escape
import Backtest.Shell.Expansion
import Backtest.Shell.Extended
import Backtest.Shell.Globbing
import Backtest.Shell.Invocation
import Backtest.Shell.Machine
import Backtest.Shell.Number
import Backtest.Shell.Octets
import Backtest.Shell.Pattern
import Backtest.Shell.Printing
import Backtest.Shell.Quoting
import Backtest.Shell.Reader
import Backtest.Shell.Reckoning
import Backtest.Shell.Running
import Backtest.Shell.Streams
import Backtest.Shell.Syntax
import Backtest.Shell.Testing
import Backtest.Shell.Timestamp
import Backtest.Shell.WordReading
import Backtest.Simulation
import Backtest.Strategy
import Backtest.Strategy.File
import Backtest.Strategy.Rules
import Backtest.Strategy.Script
import Backtest.SyntheticFeed
import Backtest.Table
import Backtest.Text.Base64
import Backtest.Text.Blank
import Backtest.Text.DecimalDigit
import Backtest.Text.Newline
import Backtest.Text.Printable
import Backtest.Text.Quoted
import Backtest.Text.UpperCase
import Backtest.Tick
import Backtest.TickSource
import Backtest.Trade
import Backtest.TradeLog
import Backtest.Value
import Backtest.Walk
import Backtest.Window
import Backtest.Yaml.BlockText
import Backtest.Yaml.Cursor
import Backtest.Yaml.Kind
import Backtest.Yaml.Mark
import Backtest.Yaml.Node
import Backtest.Yaml.Plain
import Backtest.Yaml.QuotedText
import Backtest.Yaml.Reading
import Backtest.Yaml.Scalar
import Backtest.Yaml.Token
