import TradingDesk.Allocation.Allocator
import TradingDesk.Allocation.Plan
import TradingDesk.Allocation.Portfolio
import TradingDesk.Allocation.Target
import TradingDesk.Allocation.Weights
import TradingDesk.Backtest.Replay
import TradingDesk.Backtest.Report
import TradingDesk.Backtest.Settings
import TradingDesk.Binary64.Basic
import TradingDesk.Binary64.Fixed
import TradingDesk.Binary64.Reading
import TradingDesk.Binary64.Shortest
import TradingDesk.Bot.Session
import TradingDesk.Bot.Settings
import TradingDesk.Bot.Tally
import TradingDesk.Broker.Basic
import TradingDesk.Broker.Paper
import TradingDesk.Broker.Script
import TradingDesk.Calendar.Date
import TradingDesk.Calendar.Instant
import TradingDesk.Candle
import TradingDesk.Catalogue
import TradingDesk.CommandLine.Command
import TradingDesk.CommandLine.Display
import TradingDesk.CommandLine.Files
import TradingDesk.CommandLine.Program
import TradingDesk.CommandLine.Word
import TradingDesk.Configuration.Assignments
import TradingDesk.Configuration.Basic
import TradingDesk.Configuration.Layer
import TradingDesk.Configuration.Loading
import TradingDesk.Configuration.Variable
import TradingDesk.Decimal.Arithmetic
import TradingDesk.Decimal.Basic
import TradingDesk.Decimal.Binary
import TradingDesk.Decimal.Rounding
import TradingDesk.Decimal.Text
import TradingDesk.Execution.Book
import TradingDesk.Execution.Desk
import TradingDesk.Execution.Engine
import TradingDesk.Execution.Error
import TradingDesk.Execution.KillSwitch
import TradingDesk.Execution.Ladder
import TradingDesk.Execution.Settings
import TradingDesk.Gateway.Address
import TradingDesk.Gateway.Connection
import TradingDesk.Gateway.Settings
import TradingDesk.Gateway.Status
import TradingDesk.Identifier
import TradingDesk.Json.Reader
import TradingDesk.Json.Value
import TradingDesk.Json.Writer
import TradingDesk.Ledger.Basic
import TradingDesk.Ledger.Location
import TradingDesk.Ledger.Row
import TradingDesk.Ledger.Statistics
import TradingDesk.Ledger.Storage
import TradingDesk.Main
import TradingDesk.Order.Complaint
import TradingDesk.Order.Confirmation
import TradingDesk.Order.Request
import TradingDesk.Order.Response
import TradingDesk.Order.Side
import TradingDesk.Performance
import TradingDesk.Position
import TradingDesk.Power
import TradingDesk.Record.Reader
import TradingDesk.Record.Typing
import TradingDesk.Risk.Manager
import TradingDesk.Risk.Settings
import TradingDesk.Risk.State
import TradingDesk.Rounding
import TradingDesk.Signal.Candlestick
import TradingDesk.Signal.Indicator
import TradingDesk.Signal.Regime
import TradingDesk.Signal.Scorer
import TradingDesk.Sizing
import TradingDesk.Table
import TradingDesk.Text.Blank
import TradingDesk.Text.CaseTables
import TradingDesk.Text.Layout
import TradingDesk.Text.Lowercase
import TradingDesk.Toml.Document
import TradingDesk.Toml.Literal
import TradingDesk.Toml.Reader
import TradingDesk.Trade
import TradingDesk.Proofs.Decimal.Quotient
import TradingDesk.Proofs.Execution.Booking
import TradingDesk.Proofs.Execution.Gate
import TradingDesk.Proofs.Execution.Mirror
import TradingDesk.Proofs.Broker.Fills
import TradingDesk.Proofs.Execution.Sale
import TradingDesk.Proofs.Execution.Liquidation
import TradingDesk.Proofs.Execution.Results
import TradingDesk.Proofs.Bot.Run
import TradingDesk.Proofs.Bot.Accounting
import TradingDesk.Proofs.Risk.Latch
import TradingDesk.Proofs.Allocation.Moves
import TradingDesk.Proofs.Binary64.Rounding
import TradingDesk.Proofs.Binary64.Value
import TradingDesk.Proofs.Binary64.Order
import TradingDesk.Proofs.Allocation.Planning
import TradingDesk.Proofs.Binary64.Parts
import TradingDesk.Proofs.Decimal.Conversion
import TradingDesk.Proofs.Allocation.Weights
import TradingDesk.Proofs.Decimal.Portion
import TradingDesk.Proofs.Allocation.Budget
import TradingDesk.Proofs.Allocation.Names
import TradingDesk.Proofs.Allocation.Operations
import TradingDesk.Proofs.Allocation.Atomicity
import TradingDesk.Proofs.Allocation.Window
import TradingDesk.Proofs.Decimal.Exact
import TradingDesk.Proofs.Decimal.Sums
import TradingDesk.Proofs.Table
import TradingDesk.Proofs.Broker.Books
import TradingDesk.Proofs.Broker.Solvency
import TradingDesk.Proofs.Ledger.Lots
import TradingDesk.Proofs.Execution.Play
import TradingDesk.Proofs.Execution.Accounts
import TradingDesk.Proofs.Execution.Service
import TradingDesk.Proofs.Execution.Life
import TradingDesk.Proofs.Execution.Ladder
import TradingDesk.Proofs.Execution.Levels
import TradingDesk.Proofs.Execution.Nets
import TradingDesk.Proofs.Execution.Funds
import TradingDesk.Proofs.Bot.Balance
import TradingDesk.Proofs.Calendar.Week
import TradingDesk.Proofs.Risk.Step
import TradingDesk.Proofs.Risk.Consistency
import TradingDesk.Proofs.Risk.DailyCount
import TradingDesk.Proofs.Risk.Rollover
import TradingDesk.Proofs.Execution.Openings
import TradingDesk.Proofs.Bot.Limits
import TradingDesk.Proofs.Risk.Isolation
import TradingDesk.Proofs.Risk.Operations
import TradingDesk.Proofs.Risk.Trips
import TradingDesk.Proofs.Risk.Baselines
import TradingDesk.Proofs.Risk.ManualHalt
import TradingDesk.Proofs.Text.Digits
import TradingDesk.Proofs.Json.Text
import TradingDesk.Proofs.Calendar.Civil
import TradingDesk.Proofs.Calendar.Text
import TradingDesk.Proofs.Record.Fields
import TradingDesk.Proofs.Risk.StoredState
import TradingDesk.Proofs.Risk.Restart
import TradingDesk.Proofs.Binary64.Nearest
import TradingDesk.Proofs.Binary64.Reading
import TradingDesk.Proofs.Binary64.Shortest
import TradingDesk.Proofs.Json.Reals
import TradingDesk.Proofs.Allocation.StoredPlan
import TradingDesk.Proofs.Ledger.Plans
import TradingDesk.Proofs.Execution.Halt
import TradingDesk.Proofs.Execution.Retry
import TradingDesk.Proofs.Execution.Times
import TradingDesk.Proofs.Bot.Times
import TradingDesk.Proofs.Backtest.LookAhead
import TradingDesk.Proofs.Order.Checks
import TradingDesk.Proofs.Execution.ReportedVolume
import TradingDesk.Proofs.Gateway.FailedReplies
import TradingDesk.Proofs.Decimal.FractionDigits
import TradingDesk.Proofs.Decimal.QuotientRange
import TradingDesk.Proofs.Decimal.Negation
import TradingDesk.Proofs.Signal.LaterBars
import TradingDesk.Proofs.Signal.Alignment
import TradingDesk.Proofs.Signal.UpsideDown
import TradingDesk.Proofs.Sizing.Limits
import TradingDesk.Proofs.Execution.ForcedExit
import TradingDesk.Proofs.Execution.FullExit
import TradingDesk.Proofs.Execution.OrderQuantities
