import Forecast.Aggregation.Project
import Forecast.Aggregation.Resolution
import Forecast.Aggregation.ShapeGroup
import Forecast.Binary64.Basic
import Forecast.Binary64.Reader
import Forecast.Binary64.Shortest
import Forecast.Binary64.Text
import Forecast.Collection.Bisection
import Forecast.Collection.SortedMap
import Forecast.Collectors
import Forecast.Error
import Forecast.Output.BoxPlots
import Forecast.Output.Catalogue
import Forecast.Output.Matrix
import Forecast.Output.Metadata
import Forecast.Output.MultiStore
import Forecast.Output.Order
import Forecast.Output.Shape
import Forecast.Output.Store
import Forecast.Pattern.Basic
import Forecast.Pattern.CharClass
import Forecast.Pattern.ClassReader
import Forecast.Pattern.Escape
import Forecast.Pattern.Flags
import Forecast.Pattern.Reader
import Forecast.Proofs.Aggregation.Accounting
import Forecast.Proofs.Aggregation.Bulk
import Forecast.Proofs.Aggregation.Filing
import Forecast.Proofs.Aggregation.Reference
import Forecast.Proofs.Aggregation.Registration
import Forecast.Proofs.Aggregation.Resolution
import Forecast.Proofs.Aggregation.Runs
import Forecast.Proofs.Aggregation.Settling
import Forecast.Proofs.Binary64.Numerals
import Forecast.Proofs.Binary64.Order
import Forecast.Proofs.Binary64.Rounding
import Forecast.Proofs.Binary64.Text
import Forecast.Proofs.Collection.Bisection
import Forecast.Proofs.Collection.Groups
import Forecast.Proofs.Collection.SortedMap
import Forecast.Proofs.Collection.Traversal
import Forecast.Proofs.Output.Agreement
import Forecast.Proofs.Output.BoxPlots
import Forecast.Proofs.Output.Calls
import Forecast.Proofs.Output.Combination
import Forecast.Proofs.Output.Comparison
import Forecast.Proofs.Output.Consistency
import Forecast.Proofs.Output.Filing
import Forecast.Proofs.Output.Matrix
import Forecast.Proofs.Output.MatrixOverflow
import Forecast.Proofs.Output.MetricSlices
import Forecast.Proofs.Output.MultiStore
import Forecast.Proofs.Output.Slices
import Forecast.Proofs.Output.Store
import Forecast.Proofs.Sample.Independence
import Forecast.Proofs.Sample.Sources
import Forecast.Proofs.Sample.Union
import Forecast.Proofs.Series.Acceptance
import Forecast.Proofs.Series.Assembly
import Forecast.Proofs.Series.BasisRoundTrip
import Forecast.Proofs.Series.Bounded
import Forecast.Proofs.Series.Contributions
import Forecast.Proofs.Series.Filters
import Forecast.Proofs.Series.Gathering
import Forecast.Proofs.Series.Items
import Forecast.Proofs.Series.Layout
import Forecast.Proofs.Series.LeadFilters
import Forecast.Proofs.Series.LeadLookup
import Forecast.Proofs.Series.LeadRoundTrip
import Forecast.Proofs.Series.Members
import Forecast.Proofs.Series.Merging
import Forecast.Proofs.Series.Multiples
import Forecast.Proofs.Series.Reachable
import Forecast.Proofs.Series.Regathering
import Forecast.Proofs.Series.Regularity
import Forecast.Proofs.Series.Representation
import Forecast.Proofs.Series.Selection
import Forecast.Proofs.Series.SharedLeads
import Forecast.Proofs.Series.Sound
import Forecast.Proofs.Series.Spacing
import Forecast.Proofs.Series.Stages
import Forecast.Proofs.Series.Steady
import Forecast.Proofs.Series.StepFaults
import Forecast.Proofs.Series.Traces
import Forecast.Proofs.Series.Transposition
import Forecast.Proofs.Series.Uniform
import Forecast.Proofs.Series.Views
import Forecast.Proofs.Series.Walk
import Forecast.Proofs.Text.Digits
import Forecast.Proofs.Text.Replacement
import Forecast.Proofs.Threshold.Acceptance
import Forecast.Proofs.Threshold.AllData
import Forecast.Proofs.Threshold.Comparison
import Forecast.Proofs.Threshold.FileNames
import Forecast.Proofs.Threshold.Tiling
import Forecast.Proofs.Time.Bounded
import Forecast.Proofs.Time.Union
import Forecast.Sample.Climatology
import Forecast.Sample.Metadata
import Forecast.Sample.MetadataUnion
import Forecast.Sample.Record
import Forecast.Sample.Value
import Forecast.Series.AnySeries
import Forecast.Series.Basic
import Forecast.Series.Builder
import Forecast.Series.Cursor
import Forecast.Series.Ensemble
import Forecast.Series.Measured
import Forecast.Series.Regular
import Forecast.Series.Storage
import Forecast.Series.Trail
import Forecast.Settings.Basic
import Forecast.Settings.Document
import Forecast.Settings.LogDirective
import Forecast.Settings.LogField
import Forecast.Settings.LogFilter
import Forecast.Settings.LogLevel
import Forecast.Settings.Reader
import Forecast.Settings.Scalar
import Forecast.Settings.Writer
import Forecast.Text.Alphanumeric
import Forecast.Text.Blank
import Forecast.Text.ByteRange
import Forecast.Text.CharacterSet
import Forecast.Text.Digits
import Forecast.Text.Printable
import Forecast.Text.Quoted
import Forecast.Text.Replace
import Forecast.Threshold.Basic
import Forecast.Threshold.Order
import Forecast.Threshold.Text
import Forecast.Threshold.Validation
import Forecast.Time.Basic
import Forecast.Time.Calendar
import Forecast.Time.Reader
import Forecast.Time.Text
import Forecast.Time.Window
import Forecast.Time.WindowUnion
