import FleetSizing.Action
import FleetSizing.Calendar.Day
import FleetSizing.Calendar.Instant
import FleetSizing.Calendar.Scan
import FleetSizing.Calendar.TimeOfDay
import FleetSizing.Calendar.Weekday
import FleetSizing.Catalog
import FleetSizing.Cluster.KMeans
import FleetSizing.Cluster.Knee
import FleetSizing.Cluster.Model
import FleetSizing.Configuration.Format
import FleetSizing.Configuration.Ini
import FleetSizing.Configuration.Items
import FleetSizing.Configuration.Json5
import FleetSizing.Configuration.Options
import FleetSizing.Configuration.Ron
import FleetSizing.Configuration.Settings
import FleetSizing.Configuration.Toml.Document
import FleetSizing.Configuration.Toml.Item
import FleetSizing.Configuration.Toml.Scalar
import FleetSizing.Configuration.Toml.Text
import FleetSizing.Configuration.Yaml.Cursor
import FleetSizing.Configuration.Yaml.Document
import FleetSizing.Configuration.Yaml.Node
import FleetSizing.Configuration.Yaml.Scalar
import FleetSizing.Configuration.Yaml.Tag
import FleetSizing.Configuration.Yaml.Token
import FleetSizing.Counters
import FleetSizing.Direction
import FleetSizing.Document.History
import FleetSizing.Document.Job
import FleetSizing.Document.Policy
import FleetSizing.Document.Report
import FleetSizing.Document.Shape
import FleetSizing.Error
import FleetSizing.Event
import FleetSizing.Group
import FleetSizing.History
import FleetSizing.Job
import FleetSizing.Json.Reader
import FleetSizing.Json.Value
import FleetSizing.Json.Writer
import FleetSizing.Keyed
import FleetSizing.Main
import FleetSizing.Pattern.Automaton
import FleetSizing.Pattern.Basic
import FleetSizing.Pattern.Build
import FleetSizing.Pattern.Class
import FleetSizing.Pattern.Compiler
import FleetSizing.Pattern.Reader
import FleetSizing.Pipeline
import FleetSizing.Policy
import FleetSizing.Postponement
import FleetSizing.Powers
import FleetSizing.Program
import FleetSizing.Report
import FleetSizing.Rule
import FleetSizing.Sample
import FleetSizing.Savings
import FleetSizing.Scalar
import FleetSizing.Schedule.Grid
import FleetSizing.Schedule.Merge
import FleetSizing.Schedule.Run
import FleetSizing.Schedule.Synthesis
import FleetSizing.Selection.Ranking
import FleetSizing.Selection.Requirement
import FleetSizing.Selection.Series
import FleetSizing.Selection.Vendor
import FleetSizing.Settings
import FleetSizing.Shape
import FleetSizing.Sink
import FleetSizing.Source
import FleetSizing.Stats
import FleetSizing.Storage
import FleetSizing.Text.Blank
import FleetSizing.Text.Decimal
import FleetSizing.Text.Integer
import FleetSizing.Text.Nearest
import FleetSizing.Trend
import FleetSizing.Unicode.AddedTable
import FleetSizing.Unicode.AgeTable
import FleetSizing.Unicode.BreakTable
import FleetSizing.Unicode.ByteRanges
import FleetSizing.Unicode.Case
import FleetSizing.Unicode.CaseTable
import FleetSizing.Unicode.Category
import FleetSizing.Unicode.CategoryTable
import FleetSizing.Unicode.CodeSet
import FleetSizing.Unicode.Property
import FleetSizing.Unicode.PropertyTable
import FleetSizing.Unicode.Runs
import FleetSizing.Unicode.Script
import FleetSizing.Unicode.ScriptTable
import FleetSizing.Window
import FleetSizing.Proofs.Calendar.Civil
import FleetSizing.Proofs.Calendar.Epoch
import FleetSizing.Proofs.Calendar.Text
import FleetSizing.Proofs.Catalog
import FleetSizing.Proofs.Cluster.Descent
import FleetSizing.Proofs.Cluster.Division
import FleetSizing.Proofs.Cluster.Elbow
import FleetSizing.Proofs.Cluster.Knee
import FleetSizing.Proofs.Cluster.Loop
import FleetSizing.Proofs.Cluster.Shares
import FleetSizing.Proofs.Distinct
import FleetSizing.Proofs.Document.Policy
import FleetSizing.Proofs.Document.Report
import FleetSizing.Proofs.Document.Rows
import FleetSizing.Proofs.Document.Shape
import FleetSizing.Proofs.Group.Frame
import FleetSizing.Proofs.Group.Passes
import FleetSizing.Proofs.Group.Places
import FleetSizing.Proofs.Group.Settled
import FleetSizing.Proofs.History.Latest
import FleetSizing.Proofs.History.Restored
import FleetSizing.Proofs.History.Sync
import FleetSizing.Proofs.History.Writes
import FleetSizing.Proofs.Job.Account
import FleetSizing.Proofs.Job.Barrier
import FleetSizing.Proofs.Job.Entries
import FleetSizing.Proofs.Job.Groups
import FleetSizing.Proofs.Job.Isolation
import FleetSizing.Proofs.Job.Offers
import FleetSizing.Proofs.Job.Order
import FleetSizing.Proofs.Job.Tasks
import FleetSizing.Proofs.Json.Kept
import FleetSizing.Proofs.Json.Values
import FleetSizing.Proofs.Keyed
import FleetSizing.Proofs.Pattern.Build
import FleetSizing.Proofs.Pattern.Matching
import FleetSizing.Proofs.Pattern.Plain
import FleetSizing.Proofs.Pattern.Reading
import FleetSizing.Proofs.Pattern.Wildcard
import FleetSizing.Proofs.Placed
import FleetSizing.Proofs.Postponement.Kinds
import FleetSizing.Proofs.Postponement.Tags
import FleetSizing.Proofs.Report.Decision
import FleetSizing.Proofs.Report.Entries
import FleetSizing.Proofs.Report.Offers
import FleetSizing.Proofs.Report.Postponed
import FleetSizing.Proofs.Report.Reordered
import FleetSizing.Proofs.Report.Steady
import FleetSizing.Proofs.Report.WellFormed
import FleetSizing.Proofs.Savings.Amounts
import FleetSizing.Proofs.Savings.Estimate
import FleetSizing.Proofs.Savings.Withdrawn
import FleetSizing.Proofs.Scalar.Numbers
import FleetSizing.Proofs.Scalar.Order
import FleetSizing.Proofs.Scalar.Rational
import FleetSizing.Proofs.Scalar.Share
import FleetSizing.Proofs.Scalar.WholeNumbers
import FleetSizing.Proofs.Schedule.Busy
import FleetSizing.Proofs.Schedule.Cells
import FleetSizing.Proofs.Schedule.Counts
import FleetSizing.Proofs.Schedule.Coverage
import FleetSizing.Proofs.Schedule.Families
import FleetSizing.Proofs.Schedule.Idempotent
import FleetSizing.Proofs.Schedule.Maximal
import FleetSizing.Proofs.Schedule.Merged
import FleetSizing.Proofs.Schedule.Minutes
import FleetSizing.Proofs.Schedule.Overlap
import FleetSizing.Proofs.Schedule.Partition
import FleetSizing.Proofs.Schedule.Patterns
import FleetSizing.Proofs.Schedule.Quiet
import FleetSizing.Proofs.Schedule.Runs
import FleetSizing.Proofs.Schedule.Step
import FleetSizing.Proofs.Schedule.Week
import FleetSizing.Proofs.Schedule.Weekdays
import FleetSizing.Proofs.Selection.Candidates
import FleetSizing.Proofs.Selection.Order
import FleetSizing.Proofs.Selection.Stricter
import FleetSizing.Proofs.Settings
import FleetSizing.Proofs.Stats.Bounds
import FleetSizing.Proofs.Stats.MovingAverage
import FleetSizing.Proofs.Stats.Percentiles
import FleetSizing.Proofs.Stats.Ranks
import FleetSizing.Proofs.Text.Spelled
import FleetSizing.Proofs.Trend.Distinct
import FleetSizing.Proofs.Trend.Monotone
import FleetSizing.Proofs.Trend.Regimes
import FleetSizing.Proofs.Trend.Uniform
import FleetSizing.Proofs.Words
