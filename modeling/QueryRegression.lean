import QueryRegression.Calendar.Date
import QueryRegression.Calendar.Instant
import QueryRegression.Calendar.TimeOfDay
import QueryRegression.Compare.Cell
import QueryRegression.Compare.Columns
import QueryRegression.Compare.Exception
import QueryRegression.Compare.Excerpt
import QueryRegression.Compare.Grid
import QueryRegression.Compare.Normal
import QueryRegression.Compare.RowOrder
import QueryRegression.Compare.Tolerance
import QueryRegression.Comparison
import QueryRegression.Comparison.Json
import QueryRegression.Error
import QueryRegression.Failure
import QueryRegression.Failure.Json
import QueryRegression.Failure.Log
import QueryRegression.Json
import QueryRegression.Json.Printer
import QueryRegression.Json.Reader
import QueryRegression.Json.Record
import QueryRegression.LargeObject
import QueryRegression.Number.Binary
import QueryRegression.Number.Binary.Reader
import QueryRegression.Number.Binary.Shortest
import QueryRegression.Number.Binary.Text
import QueryRegression.Number.Decimal
import QueryRegression.Number.Decimal.Binary
import QueryRegression.Number.Decimal.Text
import QueryRegression.Number.Integer
import QueryRegression.Number.Power
import QueryRegression.Number.Rounding
import QueryRegression.Outcome
import QueryRegression.Policy
import QueryRegression.Policy.Settings
import QueryRegression.Policy.Settings.Document
import QueryRegression.Policy.Settings.Json
import QueryRegression.Proofs.BinaryRounding
import QueryRegression.Proofs.CellMatch
import QueryRegression.Proofs.CollaboratorCalls
import QueryRegression.Proofs.ComparisonVerdict
import QueryRegression.Proofs.EngineCalls
import QueryRegression.Proofs.FailureLog
import QueryRegression.Proofs.GenerateThenCompare
import QueryRegression.Proofs.Grid
import QueryRegression.Proofs.GridReport
import QueryRegression.Proofs.ResultConsistency
import QueryRegression.Proofs.RowOrder
import QueryRegression.Proofs.RowReordering
import QueryRegression.Proofs.RunInvariant
import QueryRegression.Proofs.RunShape
import QueryRegression.Proofs.RunView
import QueryRegression.Proofs.SelfComparison
import QueryRegression.Proofs.SingleExecution
import QueryRegression.Proofs.StableSort
import QueryRegression.Proofs.TableShape
import QueryRegression.Proofs.TestCalls
import QueryRegression.Proofs.TestTrace
import QueryRegression.Proofs.ValueOrder
import QueryRegression.Proofs.ValueTransitivity
import QueryRegression.Regex
import QueryRegression.Regex.AgeTable
import QueryRegression.Regex.BreakTable
import QueryRegression.Regex.CategoryTable
import QueryRegression.Regex.Class
import QueryRegression.Regex.Escape
import QueryRegression.Regex.Flags
import QueryRegression.Regex.Fold
import QueryRegression.Regex.FoldTable
import QueryRegression.Regex.Library
import QueryRegression.Regex.Limits
import QueryRegression.Regex.Parser
import QueryRegression.Regex.Property
import QueryRegression.Regex.PropertyTable
import QueryRegression.Regex.ScriptTable
import QueryRegression.Regex.SetTable
import QueryRegression.Regex.WordTable
import QueryRegression.Run.Collaborators
import QueryRegression.Run.Engine
import QueryRegression.Run.Handler
import QueryRegression.Run.Interrupt
import QueryRegression.Run.Json
import QueryRegression.Run.Log
import QueryRegression.Run.Report
import QueryRegression.Run.Runner
import QueryRegression.Run.Scenario
import QueryRegression.Run.Store
import QueryRegression.Run.Summary
import QueryRegression.Sorting.Runs
import QueryRegression.Sorting.Short
import QueryRegression.Sorting.Stable
import QueryRegression.Table
import QueryRegression.Test
import QueryRegression.Test.Counts
import QueryRegression.Test.Json
import QueryRegression.Test.Mode
import QueryRegression.Test.Result
import QueryRegression.Text.Ascii
import QueryRegression.Text.Base64
import QueryRegression.Text.Blank
import QueryRegression.Text.CharSet
import QueryRegression.Text.Clip
import QueryRegression.Text.Hex
import QueryRegression.Text.LowerCase
import QueryRegression.Text.LowerCase.Table
import QueryRegression.Text.Search
import QueryRegression.Text.Utf8
import QueryRegression.Toml
import QueryRegression.Toml.Printer
import QueryRegression.Toml.Reader
import QueryRegression.Value
import QueryRegression.Value.Order
import QueryRegression.Value.Text
import QueryRegression.Yaml
import QueryRegression.Yaml.Cursor
import QueryRegression.Yaml.Printer
import QueryRegression.Yaml.Reader
import QueryRegression.Yaml.Token
import QueryRegression.Yaml.Token.Scalar
import QueryRegression.Yaml.Token.Stream
import QueryRegression.Yaml.Token.Tag
import QueryRegression.Proofs.FailureReports
import QueryRegression.Proofs.PassedComparisons
import QueryRegression.Proofs.AbortAttribution
import QueryRegression.Proofs.InterruptedRuns
import QueryRegression.Proofs.SummaryAccounts
import QueryRegression.Proofs.ComparisonErrors
import QueryRegression.Proofs.DecimalRounding
import QueryRegression.Proofs.LooserTolerance
import QueryRegression.Proofs.JsonRoundTrip
import QueryRegression.Proofs.SettingsRoundTrip
import QueryRegression.Proofs.TimeBudget
import QueryRegression.Proofs.ToleranceBand
import QueryRegression.Proofs.CellDecision
import QueryRegression.Proofs.Base64Encoding
import QueryRegression.Proofs.BinaryCells
import QueryRegression.Proofs.DateTimeCells
import QueryRegression.Proofs.MismatchExcerpts
import QueryRegression.Proofs.ComparisonOrder
import QueryRegression.Proofs.FailureAccounts
import QueryRegression.Proofs.MessageLines
import QueryRegression.Proofs.ExceptionMessages
import QueryRegression.Proofs.PatternSearch
import QueryRegression.Proofs.PatternReading
import QueryRegression.Proofs.PatternSpelling
import QueryRegression.Proofs.RespelledGroups
import QueryRegression.Proofs.RespelledPatterns
import QueryRegression.Proofs.PatternMessages
import QueryRegression.Proofs.DeclaredCounts
import QueryRegression.Proofs.RecordedOutcomes
import QueryRegression.Proofs.ColumnAgreement
import QueryRegression.Proofs.ElapsedTimes
import QueryRegression.Proofs.SmallLetters
import QueryRegression.Proofs.OrderingClauses
import QueryRegression.Proofs.NumberTexts
import QueryRegression.Proofs.DecimalTexts
import QueryRegression.Proofs.DecimalNumerals
import QueryRegression.Proofs.PolicySettings
import QueryRegression.Proofs.TimeExcess
