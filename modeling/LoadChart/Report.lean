import LoadChart.Application.State
import LoadChart.Calendar.Text
import LoadChart.Collection.OrderedSet
import LoadChart.Filter
import LoadChart.Identifier
import LoadChart.Json.Value
import LoadChart.Layout
import LoadChart.Leveling.State
import LoadChart.Screen.Shape
import LoadChart.Service.Decoding
import LoadChart.Settings
import LoadChart.Timeline.Column
import LoadChart.View

/-!
# Reports

Values as JSON for programs that read them.  Floats are reported by the hexadecimal digits of their
bits, so that nothing of them is lost.
-/

namespace LoadChart

/-- A type whose values can be reported. -/
class Reportable (α : Type) where
  report : α → Json

namespace Report

open Reportable (report)

scoped instance {α : Type} [Reportable α] (value : α) : CoeDep α value Json := ⟨report value⟩

def fields (members : List (String × Json)) : Json := .object members

def row (items : List Json) : Json := .array items

def each {α : Type} (items : List α) (write : α → Json) : Json := .array (items.map write)

def hexText (width number : Nat) : Json := .string (String.ofList (hexDigits width number))

/-- The text for a float that is not a number. -/
def notNumber : Json := .string "nan"

end Report

open Reportable (report)

instance : Reportable Json := ⟨id⟩

instance : Reportable String := ⟨.string⟩

instance : Reportable Nat := ⟨fun value => .integer value⟩

instance : Reportable Int := ⟨.integer⟩

instance : Reportable Bool := ⟨.bool⟩

instance : Reportable Float where
  report value := if value.isNaN then Report.notNumber else Report.hexText 16 value.toBits.toNat

instance : Reportable Float32 where
  report value := if value.isNaN then Report.notNumber else Report.hexText 8 value.toBits.toNat

instance : Reportable Day := ⟨fun day => .string day.isoText⟩

instance : Reportable Identifier := ⟨fun identifier => .string identifier.text⟩

instance {α : Type} [Reportable α] : Reportable (Option α) :=
  ⟨fun value => value.elim .null report⟩

instance {α : Type} [Reportable α] : Reportable (List α) :=
  ⟨fun items => .array (items.map report)⟩

instance {α : Type} [Reportable α] [Ranked α] : Reportable (OrderedSet α) :=
  ⟨fun set => report set.toList⟩

open scoped Report
open Report (fields row each)

instance : Reportable Scale := ⟨fun scale => .string scale.label⟩

instance : Reportable DayRange := ⟨fun range => row [range.first, range.last]⟩

instance : Reportable Column := ⟨fun column =>
  row [column.first, column.last, column.label, column.isWeekend, column.monthKey]⟩

instance : Reportable MonthGroup := ⟨fun group =>
  row [group.key, group.label, group.firstColumn, group.span]⟩

instance : Reportable Settings := ⟨fun settings =>
  fields [("api_base_url", settings.serviceAddress), ("program_id", settings.program),
    ("default_scale", settings.scale), ("default_range_days", settings.rangeDays),
    ("request_timeout_secs", settings.timeoutSeconds), ("log_filter", settings.logFilter)]⟩

instance : Reportable SettingsError where
  report
    | .readFile => fields [("error", "ReadFile")]
    | .writeFile => fields [("error", "WriteFile")]
    | .parse => fields [("error", "Parse")]
    | .invalidValue field reason =>
        fields
          [("error", "InvalidValue"), ("message", SettingsError.invalidText field reason)]

instance : Reportable LevelingMetrics := ⟨fun metrics =>
  row [metrics.milliseconds, metrics.shifted, metrics.extension, metrics.remaining]⟩

instance : Reportable ActivityShift := ⟨fun shift =>
  fields [("activity", shift.activity), ("code", shift.code), ("name", shift.name),
    ("original", row [shift.oldStart, shift.oldFinish]),
    ("new", row [shift.newStart, shift.newFinish]), ("delay", shift.delay),
    ("reason", shift.reason)]⟩

instance : Reportable LevelingResult := ⟨fun result =>
  fields [("success", result.success), ("iterations", result.iterations),
    ("remaining", result.remaining), ("new_finish", result.newFinish),
    ("extension", result.extension), ("time_ms", result.milliseconds),
    ("warnings", result.warnings), ("threads", result.threads),
    ("own_metrics", result.ownMetrics), ("metrics", result.metrics), ("shifts", result.shifts)]⟩

instance : Reportable LevelingComparison := ⟨fun comparison =>
  fields [("serial", comparison.serial), ("parallel", comparison.parallel),
    ("recommendation", comparison.recommendation)]⟩

instance : Reportable LevelingOptions := ⟨fun options =>
  fields [("preserve_critical_path", options.preserveCriticalPath),
    ("level_within_float", options.levelWithinFloat), ("max_iterations", options.maxIterations),
    ("targets", options.targets)]⟩

instance : Reportable LevelingTicket := ⟨fun ticket => row [ticket.request.label, ticket.number]⟩

/-- The status of a request; of an answer only some part is told. -/
def RequestStatus.report {α : Type} (status : RequestStatus α) (part : α → Json) : Json :=
  match status with
  | .idle => "idle"
  | .loading => "loading"
  | .failed message => fields [("failed", message)]
  | .loaded value => fields [("loaded", part value)]

instance : Reportable LevelingState := ⟨fun state =>
  fields [("open", state.isOpen), ("options", state.options),
    ("serial", state.serial.report fun result => result.activities),
    ("parallel", state.parallel.report fun result => result.activities),
    ("comparison", state.comparison.report fun comparison => comparison.recommendation),
    ("apply", state.apply.report fun count => count),
    ("loading", row [state.serial.isLoading, state.parallel.isLoading,
      state.comparison.isLoading, state.apply.isLoading]),
    ("selected", state.selected), ("source", state.shiftSource.map (·.label)),
    ("shift_result", state.shiftResult?.map (·.activities))]⟩

instance : Reportable Category := ⟨fun category => .string category.label⟩

instance : Reportable UtilizationPoint := ⟨fun point =>
  row [point.day, point.available, point.assigned, point.percent, point.isOverallocated]⟩

instance : Reportable UtilizationSummary := ⟨fun summary =>
  fields [("points", summary.points), ("peak", summary.peak), ("peak_date", summary.peakDay),
    ("average", summary.average), ("available", summary.available),
    ("assigned", summary.assigned), ("overallocated", summary.overallocated)]⟩

instance : Reportable Histogram := ⟨fun histogram =>
  fields [("points", histogram.points), ("peak", histogram.peak), ("peak_date", histogram.peakDay),
    ("average", histogram.average), ("overallocated", histogram.overallocated),
    ("available", histogram.available), ("assigned", histogram.assigned)]⟩

instance : Reportable Assignment := ⟨fun assignment =>
  fields [("id", assignment.identifier), ("activity_id", assignment.activityIdentifier),
    ("code", assignment.code), ("name", assignment.name), ("start", assignment.start),
    ("finish", assignment.finish), ("units", assignment.units),
    ("critical", assignment.isCritical), ("early_start", assignment.earlyStart),
    ("late_finish", assignment.lateFinish), ("total_float", assignment.totalFloat)]⟩

instance : Reportable Lane := ⟨fun lane =>
  fields [("id", lane.identifier), ("code", lane.code), ("name", lane.name),
    ("type", lane.category), ("capacity", lane.capacity), ("pools", lane.pools),
    ("assignments", lane.assignments), ("daily", lane.daily),
    ("overallocated", lane.isOverallocated), ("assigned", lane.hasAssignments),
    ("peak", lane.peak)]⟩

instance : Reportable WorkCalendar := ⟨fun calendar =>
  fields [("working_days", calendar.workingDays), ("holidays", calendar.holidays)]⟩

instance : Reportable Resource := ⟨fun resource =>
  fields [("id", resource.identifier), ("code", resource.code), ("name", resource.name),
    ("type", resource.category), ("capacity", resource.capacity), ("pools", resource.pools),
    ("calendar", resource.calendar)]⟩

instance : Reportable ActivitySummary := ⟨fun activity =>
  fields [("code", activity.code), ("name", activity.name), ("critical", activity.isCritical),
    ("early_start", activity.earlyStart), ("late_finish", activity.lateFinish),
    ("total_float", activity.totalFloat)]⟩

instance : Reportable AssignmentRecord := ⟨fun record =>
  fields [("id", record.identifier), ("activity_id", record.activityIdentifier),
    ("resource_id", record.resourceIdentifier), ("units", record.units), ("start", record.start),
    ("finish", record.finish), ("activity", record.activity)]⟩

instance : Reportable Filter := ⟨fun filter =>
  fields [("search", filter.search), ("types", filter.categories),
    ("only_overallocated", filter.onlyOverallocated), ("only_assigned", filter.onlyAssigned),
    ("pools", filter.pools), ("active", filter.isActive)]⟩

instance : Reportable FilterStats := ⟨fun stats =>
  fields [("total", stats.total), ("labor", stats.labor), ("equipment", stats.equipment),
    ("material", stats.material), ("overallocated", stats.overallocated),
    ("with_assignments", stats.assigned)]⟩

instance : Reportable StackedAssignment := ⟨fun stacked => row [stacked.identifier, stacked.subRow]⟩

instance : Reportable LaneRows := ⟨fun rows =>
  fields [("id", rows.identifier), ("top", rows.top), ("bars_height", rows.barsHeight),
    ("height", rows.height), ("stacked", rows.stacked)]⟩

instance : Reportable Effect where
  report
    | .fetchAssignments => "fetch_assignments"
    | .fetchHistogram => "fetch_histogram"
    | .refetch => "refetch"
    | .deleteAssignment assignment => fields [("delete", assignment)]
    | .leveling ticket => fields [("leveling", ticket)]
    | .exportUtilization => "export"
    | .openSettingsFolder => "open_settings"
    | .showAbout => "about"
    | .notify message => fields [("notify", message)]

instance : Reportable ViewState := ⟨fun view =>
  fields [("start", view.range.first), ("end", view.range.last), ("scale", view.scale),
    ("column_width", view.scale.columnWidth),
    ("sizes", row [ViewState.rowHeight, ViewState.headerHeight, ViewState.sidebarWidth]),
    ("show_utilization", view.showUtilization), ("highlight", view.highlightOverallocations),
    ("filter", view.filter), ("resource", view.selectedResource),
    ("assignment", view.selectedAssignment), ("leveling", view.leveling),
    ("revision", view.revision)]⟩

instance : Reportable Command where
  report
    | .setScale scale => row ["set_scale", scale]
    | .setRange first last => row ["set_range", first, last]
    | .shiftRange days => row ["shift_range", days]
    | .toggleUtilization => row ["toggle_utilization"]
    | .toggleHighlight => row ["toggle_highlight"]
    | .setFilter filter => row ["set_filter", filter]
    | .clearFilters => row ["clear_filters"]
    | .selectResource resource => row ["select_resource", resource]
    | .bar (.select assignment) => row ["select_bar", assignment]
    | .bar (.delete assignment) => row ["delete_bar", assignment]
    | .retry => row ["retry"]
    | .leveling .openWindow => row ["leveling_open"]
    | .leveling .closeWindow => row ["leveling_close"]
    | .leveling (.setOptions options) => row ["leveling_options", options]
    | .leveling (.request request) => row ["leveling_request", request.label]
    | .leveling (.toggleShift activity) => row ["leveling_toggle", activity]
    | .exportUtilization => row ["export"]
    | .openSettingsFolder => row ["open_settings"]
    | .showAbout => row ["about"]

variable {α κ τ : Type}

instance : Reportable HttpRequest := ⟨fun request =>
  fields [("body", request.body), ("content_type", request.contentType),
    ("method", request.method), ("target", request.target)]⟩

instance : Reportable Answer where
  report
    | .resources value => value
    | .assignments value => value
    | .histogram value => value
    | .leveling (.result value) => value
    | .leveling (.comparison value) => value
    | .leveling (.applied count) => fields [("applied", count)]
    | .deleted => .null

instance : Reportable (Notices τ) := ⟨fun notices => each notices.items fun notice =>
  row [match notice.level with | .info => "info" | .error => "error", notice.text]⟩

/-- The state of a query; of its data only some part is told. -/
def Query.report [DecidableEq κ] (query : Query κ α) (part : α → Json) : Json :=
  fields [("data", query.value?.map part), ("error", query.error), ("fetching", query.isFetching),
    ("initial", query.isInitialLoad), ("stale", query.isStale), ("revision", query.revision)]

instance : Reportable Task where
  report
    | .resources program => row ["resources", program]
    | .assignments key => row ["assignments", key.resource, key.range]
    | .histogram key =>
        row ["histogram", key.resource, key.range, key.granularity.word]
    | .leveling ticket _ _ _ => row ["leveling", ticket]
    | .delete resource assignment => row ["delete", resource, assignment]

/-- The state of the application, with tasks that it handed to the service. -/
def Application.report (app : Application) (issued : Json) : Json :=
  fields [("issued", issued), ("status", app.status), ("toasts", app.notices),
    ("data_revision", app.dataRevision), ("fetching", app.isFetching), ("about", app.showAbout),
    ("resources", app.resources.report fun resources => resources.map (·.identifier)),
    ("assignments", each app.assignments.entries fun (resource, query) =>
      row [resource, query.report fun records => records.map (·.identifier)]),
    ("histogram", app.histogram.report fun histogram => histogram),
    ("pending", each app.pending.entries fun (assignment, pending) =>
      row [assignment, pending.resource, pending.index, pending.record.identifier]),
    ("view", app.view)]

instance : Reportable Grid := ⟨fun grid =>
  fields [("columns", grid.columns.length), ("groups", grid.groups),
    ("lanes", each grid.lanes fun lane =>
      row [lane.code, lane.assignments.length, lane.peak, lane.isOverallocated]),
    ("filtered", grid.filtered.map (·.code)), ("rows", grid.rows), ("stats", grid.stats),
    ("pools", grid.pools)]⟩

instance : Reportable Color := ⟨fun color => .string color.text⟩

instance : Reportable Point := ⟨fun point => row [point.x, point.y]⟩

instance : Reportable Stroke := ⟨fun stroke => row [stroke.width, stroke.color]⟩

instance : Reportable Corners := ⟨fun corners =>
  row [corners.topLeft, corners.topRight, corners.bottomLeft, corners.bottomRight]⟩

instance : Reportable Shape where
  report
    | .box box corners fill stroke =>
        row ["rect", box.topLeft, box.bottomRight, corners, fill, stroke]
    | .line start finish stroke => row ["line", start, finish, stroke]
    | .text text color _ => row ["text", text, color]

end LoadChart
