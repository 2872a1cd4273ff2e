import LoadChart.Collection.OrderedMap
import LoadChart.Resource.Utilization
import LoadChart.Timeline.Column

/-!
# Lanes

The row of one resource on the timeline: its placed assignments and its utilization on each day
of the range.
-/

namespace LoadChart

/-- The row of one resource. -/
structure Lane where
  identifier : Identifier
  code : String
  name : String
  category : Category
  capacity : Float
  pools : OrderedSet Identifier
  assignments : List Assignment
  /-- One point for each day of the range, in order. -/
  daily : List UtilizationPoint

/-- The greater of two floats.  A float that is not a number is passed over, and of two equal
ones the second is taken. -/
def greaterFloat (left right : Float) : Float :=
  if right.isNaN then left else if right < left then left else right

namespace Lane

def isOverallocated (lane : Lane) : Bool := lane.daily.any (·.isOverallocated)

def hasAssignments (lane : Lane) : Bool := !lane.assignments.isEmpty

/-- The greatest percentage of any day, at least zero. -/
def peak (lane : Lane) : Float := (lane.daily.map (·.percent)).foldl greaterFloat 0

def pointsBetween (lane : Lane) (first last : Day) : List UtilizationPoint :=
  lane.daily.filter fun point => first ≤ point.day && point.day ≤ last

/-- The sum of points that follow one another, if there are any. -/
def sumPoints? : List UtilizationPoint → Option UtilizationPoint
  | [] => none
  | first :: rest =>
      some (.ofHours first.day
        (rest.foldl (fun hours point => hours + point.available) first.available)
        (rest.foldl (fun hours point => hours + point.assigned) first.assigned))

/-- The sum of the days that one column covers, if there are any. -/
def columnPoint? (lane : Lane) (column : Column) : Option UtilizationPoint :=
  sumPoints? (lane.pointsBetween column.first column.last)

/-- The sums of the days that each column covers.  No column may end before it begins, unless
there are no days to look among. -/
def columnUtilization? (lane : Lane) (columns : List Column) :
    Option (List (Option UtilizationPoint)) :=
  if lane.daily.isEmpty || columns.all (fun column => column.first ≤ column.last) then
    some (columns.map lane.columnPoint?)
  else none

def coversOverallocation (lane : Lane) (assignment : Assignment) : Bool :=
  (lane.pointsBetween assignment.start assignment.finish).any (·.isOverallocated)

def ofResource (resource : Resource) (assignments : List Assignment) (range : DayRange) : Lane :=
  { identifier := resource.identifier
    code := resource.code
    name := resource.name
    category := resource.category
    capacity := resource.capacity
    pools := resource.pools
    assignments
    daily := dailySeries resource assignments range }

/-- The lanes of resources in order.  Records without a start are left out, and a resource whose
records have not arrived has none. -/
def ofResources (resources : List Resource)
    (records : OrderedMap Identifier (List AssignmentRecord)) (range : DayRange) : List Lane :=
  resources.map fun resource =>
    let placed := ((records.find? resource.identifier).getD []).filterMap Assignment.ofRecord?
    ofResource resource placed range

end Lane

end LoadChart
