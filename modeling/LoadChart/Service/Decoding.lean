import LoadChart.Json.Record
import LoadChart.Leveling.Basic
import LoadChart.Resource.Utilization

/-!
# Data of the service

The forms in which the service sends resources, assignments, histograms and leveling answers,
and in which leveling options are sent to it.
-/

namespace LoadChart

open Json (Field)

/-- A histogram that the service computed for one resource. -/
structure Histogram where
  points : List UtilizationPoint
  peak : Float
  peakDay : Option Day
  average : Float
  overallocated : Nat
  available : Float
  assigned : Float

namespace Json

def day? (value : Json) : Option Day := value.string?.bind Day.ofText?

def identifier? (value : Json) : Option Identifier := value.string?.bind Identifier.ofText?

def category? (value : Json) : Option Category :=
  value.word?.bind fun word =>
    match word with
    | "LABOR" | "labor" => some .labor
    | "EQUIPMENT" | "equipment" => some .equipment
    | "MATERIAL" | "material" => some .material
    | _ => none

def scale? (value : Json) : Option Scale :=
  value.word?.bind fun word =>
    match word with
    | "days" | "day" => some .days
    | "weeks" | "week" => some .weeks
    | "months" | "month" => some .months
    | _ => none

def calendarFields : List Field := [.spare "workingDays", .spare "holidays"]

def workCalendar? (value : Json) : Option WorkCalendar := do
  let record ← value.record? calendarFields
  let workingDays ← record.defaulted? "workingDays" WorkCalendar.weekdays.workingDays
    (set? natural32?)
  let holidays ← record.defaulted? "holidays" OrderedSet.empty (set? day?)
  return ⟨workingDays, holidays⟩

def resourceFields : List Field :=
  [.needed "id", .needed "code", .needed "name", .needed "resourceType", .spare "capacityPerDay",
    .spare "poolIds", .spare "calendar"]

def resource? (value : Json) : Option Resource := do
  let record ← value.record? resourceFields
  let identifier ← record.required? "id" identifier?
  let code ← record.required? "code" string?
  let name ← record.required? "name" string?
  let category ← record.required? "resourceType" category?
  let capacity ← record.defaulted? "capacityPerDay" Resource.defaultCapacity float?
  let pools ← record.defaulted? "poolIds" OrderedSet.empty (set? identifier?)
  let calendar ← record.optional? "calendar" workCalendar?
  return { identifier, code, name, category, capacity, pools, calendar }

def activityFields : List Field :=
  [.spare "code", .spare "name", .spare "isCritical", .spare "earlyStart", .spare "lateFinish",
    .spare "totalFloat"]

def activity? (value : Json) : Option ActivitySummary := do
  let record ← value.record? activityFields
  let code ← record.defaulted? "code" "" string?
  let name ← record.defaulted? "name" "" string?
  let isCritical ← record.defaulted? "isCritical" false bool?
  let earlyStart ← record.optional? "earlyStart" day?
  let lateFinish ← record.optional? "lateFinish" day?
  let totalFloat ← record.optional? "totalFloat" float?
  return { code, name, isCritical, earlyStart, lateFinish, totalFloat }

def assignmentFields : List Field :=
  [.needed "id", .needed "activityId", .needed "resourceId", .spare "units", .spare "startDate",
    .spare "finishDate", .spare "activity"]

def assignmentRecord? (value : Json) : Option AssignmentRecord := do
  let record ← value.record? assignmentFields
  let identifier ← record.required? "id" identifier?
  let activityIdentifier ← record.required? "activityId" identifier?
  let resourceIdentifier ← record.required? "resourceId" identifier?
  let units ← record.defaulted? "units" 1 float?
  let start ← record.optional? "startDate" day?
  let finish ← record.optional? "finishDate" day?
  let activity ← record.optional? "activity" activity?
  return { identifier, activityIdentifier, resourceIdentifier, units, start, finish, activity }

def pointFields : List Field :=
  [.needed "date", .needed "availableHours", .needed "assignedHours", .needed "utilizationPercent",
    .needed "isOverallocated"]

def utilizationPoint? (value : Json) : Option UtilizationPoint := do
  let record ← value.record? pointFields
  let day ← record.required? "date" day?
  let available ← record.required? "availableHours" float?
  let assigned ← record.required? "assignedHours" float?
  let percent ← record.required? "utilizationPercent" float?
  let isOverallocated ← record.required? "isOverallocated" bool?
  return { day, available, assigned, percent, isOverallocated }

def histogramFields : List Field :=
  [.spare "dataPoints", .spare "peakUtilization", .spare "peakDate", .spare "averageUtilization",
    .spare "overallocatedDays", .spare "totalAvailableHours", .spare "totalAssignedHours"]

def histogram? (value : Json) : Option Histogram := do
  let record ← value.record? histogramFields
  let points ← record.defaulted? "dataPoints" [] (list? utilizationPoint?)
  let peak ← record.defaulted? "peakUtilization" 0 float?
  let peakDay ← record.optional? "peakDate" day?
  let average ← record.defaulted? "averageUtilization" 0 float?
  let overallocated ← record.defaulted? "overallocatedDays" 0 natural32?
  let available ← record.defaulted? "totalAvailableHours" 0 float?
  let assigned ← record.defaulted? "totalAssignedHours" 0 float?
  return { points, peak, peakDay, average, overallocated, available, assigned }

def optionsFields : List Field :=
  [.needed "preserveCriticalPath", .needed "levelWithinFloat", .needed "maxIterations",
    .needed "targetResources"]

def levelingOptions? (value : Json) : Option LevelingOptions := do
  let record ← value.record? optionsFields
  let preserveCriticalPath ← record.required? "preserveCriticalPath" bool?
  let levelWithinFloat ← record.required? "levelWithinFloat" bool?
  let maxIterations ← record.required? "maxIterations" natural32?
  let targets ← record.optional? "targetResources" (list? identifier?)
  return { preserveCriticalPath, levelWithinFloat, maxIterations, targets }

def shiftFields : List Field :=
  [.needed "activityId", .spare "activityCode", .spare "activityName", .needed "originalStart",
    .needed "originalFinish", .needed "newStart", .needed "newFinish", .needed "delayDays",
    .spare "reason"]

def shift? (value : Json) : Option ActivityShift := do
  let record ← value.record? shiftFields
  let activity ← record.required? "activityId" identifier?
  let code ← record.defaulted? "activityCode" "" string?
  let name ← record.defaulted? "activityName" "" string?
  let oldStart ← record.required? "originalStart" day?
  let oldFinish ← record.required? "originalFinish" day?
  let newStart ← record.required? "newStart" day?
  let newFinish ← record.required? "newFinish" day?
  let delay ← record.required? "delayDays" integer64?
  let reason ← record.defaulted? "reason" "" string?
  return {
    activity, code, name, oldStart, oldFinish, newStart, newFinish, delay, reason }

def metricsFields : List Field :=
  [.spare "executionTimeMs", .spare "activitiesShifted", .spare "scheduleExtensionDays",
    .spare "remainingOverallocations"]

def metrics? (value : Json) : Option LevelingMetrics := do
  let record ← value.record? metricsFields
  let milliseconds ← record.defaulted? "executionTimeMs" 0 float?
  let shifted ← record.defaulted? "activitiesShifted" 0 natural32?
  let extension ← record.defaulted? "scheduleExtensionDays" 0 integer64?
  let remaining ← record.defaulted? "remainingOverallocations" 0 natural32?
  return { milliseconds, shifted, extension, remaining }

def resultFields : List Field :=
  [.spare "success", .spare "shifts", .spare "iterationsUsed", .spare "remainingOverallocations",
    .spare "newProjectFinish", .spare "projectExtensionDays", .spare "executionTimeMs",
    .spare "warnings", .spare "threadsUsed", .spare "metrics"]

def levelingResult? (value : Json) : Option LevelingResult := do
  let record ← value.record? resultFields
  let success ← record.defaulted? "success" false bool?
  let shifts ← record.defaulted? "shifts" [] (list? shift?)
  let iterations ← record.defaulted? "iterationsUsed" 0 natural32?
  let remaining ← record.defaulted? "remainingOverallocations" 0 natural32?
  let newFinish ← record.optional? "newProjectFinish" day?
  let extension ← record.defaulted? "projectExtensionDays" 0 integer64?
  let milliseconds ← record.defaulted? "executionTimeMs" 0 float?
  let warnings ← record.defaulted? "warnings" [] (list? string?)
  let threads ← record.optional? "threadsUsed" natural32?
  let ownMetrics ← record.optional? "metrics" metrics?
  return {
    success, shifts, iterations, remaining, newFinish, extension, milliseconds, warnings, threads,
    ownMetrics }

def comparisonFields : List Field :=
  [.needed "serial", .needed "parallel", .needed "recommendation"]

def levelingComparison? (value : Json) : Option LevelingComparison := do
  let record ← value.record? comparisonFields
  let serial ← record.required? "serial" metrics?
  let parallel ← record.required? "parallel" metrics?
  let recommendation ← record.required? "recommendation" string?
  return { serial, parallel, recommendation }

end Json

namespace LevelingOptions

def json (options : LevelingOptions) : Json :=
  Json.ofPresent
    [("preserveCriticalPath", some (.bool options.preserveCriticalPath)),
      ("levelWithinFloat", some (.bool options.levelWithinFloat)),
      ("maxIterations", some (.integer options.maxIterations)),
      ("targetResources",
        options.targets.map fun targets => .array (targets.map fun target => .string target.text))]

end LevelingOptions

end LoadChart
