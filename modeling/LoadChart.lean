import LoadChart.Application.State
import LoadChart.Application.Step
import LoadChart.Calendar.Day
import LoadChart.Calendar.Text
import LoadChart.Collection.OrderedMap
import LoadChart.Collection.OrderedSet
import LoadChart.Export
import LoadChart.Filter
import LoadChart.Identifier
import LoadChart.Json.Fault
import LoadChart.Json.Form
import LoadChart.Json.Number
import LoadChart.Json.Reader
import LoadChart.Json.Record
import LoadChart.Json.Scan
import LoadChart.Json.Value
import LoadChart.Layout
import LoadChart.Leveling.Basic
import LoadChart.Leveling.State
import LoadChart.Logging.Filter
import LoadChart.Logging.Pattern
import LoadChart.Notice
import LoadChart.Panel.Bars
import LoadChart.Panel.Chart
import LoadChart.Panel.DatePicker
import LoadChart.Panel.Desktop
import LoadChart.Panel.Sidebar
import LoadChart.Panel.Windows
import LoadChart.Proofs.Application.AppliedShifts
import LoadChart.Proofs.Application.AssignmentQueries
import LoadChart.Proofs.Application.ConfirmedDeletion
import LoadChart.Proofs.Application.Deletion
import LoadChart.Proofs.Application.DistinctRecords
import LoadChart.Proofs.Application.GridFreshness
import LoadChart.Proofs.Application.HistogramSelection
import LoadChart.Proofs.Application.History
import LoadChart.Proofs.Application.LaneRecords
import LoadChart.Proofs.Application.LocalDeletion
import LoadChart.Proofs.Application.Records
import LoadChart.Proofs.Application.RefusedDeletion
import LoadChart.Proofs.Application.RemainingRecords
import LoadChart.Proofs.Application.Stretch
import LoadChart.Proofs.Application.Writes
import LoadChart.Proofs.Calendar.Civil
import LoadChart.Proofs.Calendar.Month
import LoadChart.Proofs.Calendar.MonthKey
import LoadChart.Proofs.Collection
import LoadChart.Proofs.Export.Delimited
import LoadChart.Proofs.Export.Utilization
import LoadChart.Proofs.Filter.Counts
import LoadChart.Proofs.Filter.Edits
import LoadChart.Proofs.Filter.Search
import LoadChart.Proofs.Identifier
import LoadChart.Proofs.Json.Extension
import LoadChart.Proofs.Json.Fits
import LoadChart.Proofs.Json.FormExtension
import LoadChart.Proofs.Json.FormUnused
import LoadChart.Proofs.Json.Leaf
import LoadChart.Proofs.Json.Outcome
import LoadChart.Proofs.Json.ReaderExtension
import LoadChart.Proofs.Json.Reading
import LoadChart.Proofs.Json.Record
import LoadChart.Proofs.Json.Steps
import LoadChart.Proofs.Json.Unused
import LoadChart.Proofs.Json.Written
import LoadChart.Proofs.Layout.BarColumns
import LoadChart.Proofs.Layout.Overallocation
import LoadChart.Proofs.Layout.Stacking
import LoadChart.Proofs.Layout.SubRows
import LoadChart.Proofs.Leveling.NewestRequest
import LoadChart.Proofs.Leveling.Operations
import LoadChart.Proofs.Leveling.Selection
import LoadChart.Proofs.Notice
import LoadChart.Proofs.Query.Arrivals
import LoadChart.Proofs.Query.Failure
import LoadChart.Proofs.Query.Keys
import LoadChart.Proofs.Query.Operations
import LoadChart.Proofs.Query.Outstanding
import LoadChart.Proofs.Query.Runs
import LoadChart.Proofs.Query.Superseded
import LoadChart.Proofs.Resource.Buckets
import LoadChart.Proofs.Resource.FloatOrder
import LoadChart.Proofs.Resource.LostRecord
import LoadChart.Proofs.Resource.Peak
import LoadChart.Proofs.Service.Acceptance
import LoadChart.Proofs.Service.Address
import LoadChart.Proofs.Service.Envelope
import LoadChart.Proofs.Service.ErrorMessage
import LoadChart.Proofs.Service.Letters
import LoadChart.Proofs.Service.ScannedForm
import LoadChart.Proofs.Service.ScannedNumber
import LoadChart.Proofs.Service.ScannedString
import LoadChart.Proofs.Service.ScannedValue
import LoadChart.Proofs.Service.Transparency
import LoadChart.Proofs.Session
import LoadChart.Proofs.Settings.FirstRange
import LoadChart.Proofs.Settings.RoundTrip
import LoadChart.Proofs.Text.Digits
import LoadChart.Proofs.Text.LowerCase
import LoadChart.Proofs.Timeline.ColumnOrder
import LoadChart.Proofs.Timeline.Coverage
import LoadChart.Proofs.Timeline.MonthHeaders
import LoadChart.Proofs.Timeline.Tiling
import LoadChart.Proofs.Timeline.Touching
import LoadChart.Proofs.Timeline.Unit
import LoadChart.Proofs.Timeline.WholeUnit
import LoadChart.Proofs.View.Choice
import LoadChart.Proofs.View.Revision
import LoadChart.Proofs.View.VisibleRange
import LoadChart.Report
import LoadChart.Resource.Basic
import LoadChart.Resource.Lane
import LoadChart.Resource.Utilization
import LoadChart.Screen.Block
import LoadChart.Screen.Box
import LoadChart.Screen.Control
import LoadChart.Screen.Focus
import LoadChart.Screen.Memory
import LoadChart.Screen.Pointer
import LoadChart.Screen.Pointing
import LoadChart.Screen.Reaction
import LoadChart.Screen.Scene
import LoadChart.Screen.Shape
import LoadChart.Script
import LoadChart.Service.Answer
import LoadChart.Service.Body
import LoadChart.Service.Decoding
import LoadChart.Service.Failure
import LoadChart.Service.Form
import LoadChart.Service.Query
import LoadChart.Service.Request
import LoadChart.Service.RequestTarget
import LoadChart.Session
import LoadChart.Settings
import LoadChart.Text.AlphanumericTable
import LoadChart.Text.Decimal
import LoadChart.Text.Digits
import LoadChart.Text.Escape
import LoadChart.Text.HiddenTable
import LoadChart.Text.LetterCaseTable
import LoadChart.Text.Letters
import LoadChart.Text.Passage
import LoadChart.Timeline.Column
import LoadChart.Timeline.Range
import LoadChart.Timeline.Scale
import LoadChart.View
