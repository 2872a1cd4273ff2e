import LoadChart.Calendar.Text
import LoadChart.Identifier
import LoadChart.Text.Decimal

/-!
# Resources

People, machines and material, the hours they offer on each day, and the assignments that use
them.
-/

namespace LoadChart

/-- The kind of a resource. -/
inductive Category where
  | labor
  | equipment
  | material
deriving DecidableEq

namespace Category

def all : List Category := [.labor, .equipment, .material]

def label : Category → String
  | .labor => "Labor"
  | .equipment => "Equipment"
  | .material => "Material"

def word : Category → String
  | .labor => "LABOR"
  | .equipment => "EQUIPMENT"
  | .material => "MATERIAL"

/-- The pictogram of a category: a person, a wrench or a parcel. -/
def icon : Category → String
  | .labor => "\ue4c2"
  | .equipment => "\ue5d4"
  | .material => "\ue390"

def index : Category → Nat
  | .labor => 0
  | .equipment => 1
  | .material => 2

instance : Ranked Category where
  rank category := category.index
  rank_injective := by
    intro left right same
    cases left <;> cases right <;> first | rfl | exact absurd same (by decide)

end Category

/-- The days on which a resource works. -/
structure WorkCalendar where
  /-- Weekdays from 1, Monday, to 7; other numbers name no day. -/
  workingDays : OrderedSet Nat
  holidays : OrderedSet Day
deriving DecidableEq

namespace WorkCalendar

def weekdays : WorkCalendar := ⟨OrderedSet.ofList [1, 2, 3, 4, 5], OrderedSet.empty⟩

def isWorkingDay (calendar : WorkCalendar) (day : Day) : Bool :=
  calendar.workingDays.contains (day.weekdayIndex + 1) && !calendar.holidays.contains day

def withHoliday (calendar : WorkCalendar) (day : Day) : WorkCalendar :=
  { calendar with holidays := calendar.holidays.insert day }

end WorkCalendar

/-- A resource as the service lists it. -/
structure Resource where
  identifier : Identifier
  code : String
  name : String
  category : Category
  /-- Hours on each day of work. -/
  capacity : Float
  pools : OrderedSet Identifier
  /-- Without a calendar a resource works every day. -/
  calendar : Option WorkCalendar

namespace Resource

def defaultCapacity : Float := 8

/-- A resource with the usual capacity, in no pool and without a calendar. -/
def ofCode (identifier : Identifier) (code name : String) (category : Category) : Resource :=
  ⟨identifier, code, name, category, defaultCapacity, OrderedSet.empty, none⟩

def withCapacity (resource : Resource) (hours : Float) : Resource :=
  { resource with capacity := hours }

def withPool (resource : Resource) (pool : Identifier) : Resource :=
  { resource with pools := resource.pools.insert pool }

def withCalendar (resource : Resource) (calendar : WorkCalendar) : Resource :=
  { resource with calendar := some calendar }

/-- The capacity if it is above zero, else nothing. -/
def positiveCapacity (resource : Resource) : Float :=
  if 0 < resource.capacity then resource.capacity else 0

def availableHours (resource : Resource) (day : Day) : Float :=
  match resource.calendar with
  | some calendar => if calendar.isWorkingDay day then resource.positiveCapacity else 0
  | none => resource.positiveCapacity

end Resource

/-- What an assignment tells about its activity. -/
structure ActivitySummary where
  code : String
  name : String
  isCritical : Bool
  earlyStart : Option Day
  lateFinish : Option Day
  totalFloat : Option Float

namespace ActivitySummary

def unknown : ActivitySummary := ⟨"", "", false, none, none, none⟩

end ActivitySummary

/-- An assignment as the service lists it.  Days are missing as long as the activity is not
scheduled. -/
structure AssignmentRecord where
  identifier : Identifier
  activityIdentifier : Identifier
  resourceIdentifier : Identifier
  units : Float
  start : Option Day
  finish : Option Day
  activity : Option ActivitySummary

/-- An assignment with its place in the calendar: one bar of a lane. -/
structure Assignment where
  identifier : Identifier
  activityIdentifier : Identifier
  code : String
  name : String
  start : Day
  finish : Day
  units : Float
  isCritical : Bool
  earlyStart : Option Day
  lateFinish : Option Day
  totalFloat : Option Float

namespace Assignment

/-- An assignment to an activity of which only the code is known. -/
def ofCode (identifier activityIdentifier : Identifier) (code : String) (start finish : Day)
    (units : Float) : Assignment :=
  ⟨identifier, activityIdentifier, code, code, start, finish.later start, units, false, none, none,
    none⟩

/-- Places a record that has a start.  A finish that is missing or lies before the start is the
start. -/
def ofRecord? (record : AssignmentRecord) : Option Assignment :=
  record.start.map fun start =>
    let activity := record.activity.getD ActivitySummary.unknown
    ⟨record.identifier, record.activityIdentifier, activity.code, activity.name, start,
      (record.finish.getD start).later start, record.units, activity.isCritical,
      activity.earlyStart, activity.lateFinish, activity.totalFloat⟩

def covers (assignment : Assignment) (day : Day) : Bool :=
  assignment.start ≤ day && day ≤ assignment.finish

/-- The last day of the bar of an assignment, which has at least its first day. -/
def spanEnd (assignment : Assignment) : Day := assignment.finish.later assignment.start

end Assignment

def missingText : String := "—"

/-- A day as shown to the user, or a dash. -/
def optionalDayText (day : Option Day) : String := (day.map Day.slashText).getD missingText

/-- A number of days with one place, or a dash. -/
def optionalFloatText (days : Option Float) : String :=
  (days.map fun days => fixedText 1 days ++ "d").getD missingText

end LoadChart
