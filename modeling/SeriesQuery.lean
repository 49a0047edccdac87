import SeriesQuery.Catalog.Standard
import SeriesQuery.Query.Command
import SeriesQuery.Query.Request
import SeriesQuery.Settings.Toml
import SeriesQuery.Proofs.Query.Atomicity
import SeriesQuery.Proofs.Catalog.Binding
import SeriesQuery.Proofs.Query.Coherence
import SeriesQuery.Proofs.Json.IntegerLiteral
import SeriesQuery.Proofs.Json.Printed
import SeriesQuery.Proofs.Template.Scanning
import SeriesQuery.Proofs.Template.Leafwise
import SeriesQuery.Proofs.Filter.Coding
import SeriesQuery.Proofs.Aggregator.Coding
import SeriesQuery.Proofs.Target.Coding
import SeriesQuery.Proofs.Template.Substitution
import SeriesQuery.Proofs.Filter.Tags
import SeriesQuery.Proofs.Query.FilterShape
import SeriesQuery.Proofs.Json.Reading
import SeriesQuery.Proofs.Json.Records
import SeriesQuery.Proofs.GroupBy.Order
import SeriesQuery.Proofs.Query.ClauseOrder
import SeriesQuery.Proofs.Query.Reload
import SeriesQuery.Proofs.Catalog.Rendering
import SeriesQuery.Proofs.Query.PlainRender
import SeriesQuery.Proofs.Query.Dependence
import SeriesQuery.Proofs.Catalog.Registration
import SeriesQuery.Proofs.Json.NumberLiteral
import SeriesQuery.Proofs.Query.FilterNumber
import SeriesQuery.Proofs.Query.GroupingTags
import SeriesQuery.Proofs.Json.FieldReading
import SeriesQuery.Proofs.Query.PipelineEdits
import SeriesQuery.Proofs.Target.Reading
import SeriesQuery.Proofs.Query.RequestText
import SeriesQuery.Proofs.Query.DefaultRender
import SeriesQuery.Proofs.Filter.Conjuncts
import SeriesQuery.Proofs.Query.ClauseAddition
import SeriesQuery.Proofs.Template.SinglePass
import SeriesQuery.Proofs.Query.Accounting
import SeriesQuery.Proofs.Query.ClauseRemoval
import SeriesQuery.Proofs.Query.Reshaping
import SeriesQuery.Proofs.Catalog.Slots
import SeriesQuery.Proofs.Catalog.Spilling
import SeriesQuery.Proofs.Target.FirstParam
import SeriesQuery.Proofs.Query.AutomaticWindow
import SeriesQuery.Proofs.Query.Validation
import SeriesQuery.Proofs.Interval.Grammar
import SeriesQuery.Proofs.Number.Rounding
import SeriesQuery.Proofs.Query.WholeWindow
import SeriesQuery.Proofs.GroupBy.Expression
import SeriesQuery.Proofs.Query.FilterLiteral
import SeriesQuery.Proofs.Query.MeasurementKey
import SeriesQuery.Proofs.Catalog.Edits
