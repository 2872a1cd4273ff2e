import LoadChart.Resource.Basic
import LoadChart.Timeline.Scale

/-!
# Utilization

Assigned against available hours, for each day and for buckets of days.  The hours of a bucket
are the sums of its days in order, and its percentage is taken after the sums.
-/

namespace LoadChart

/-- The utilization of a resource over one bucket of days. -/
structure UtilizationPoint where
  /-- The first day of the bucket that lies in the range. -/
  day : Day
  available : Float
  assigned : Float
  percent : Float
  isOverallocated : Bool

namespace UtilizationPoint

/-- The share of the available hours that is assigned, in percent; nothing if no hours are
available. -/
def percentOf (available assigned : Float) : Float :=
  if 0 < available then assigned / available * 100 else 0

def ofHours (day : Day) (available assigned : Float) : UtilizationPoint :=
  ⟨day, available, assigned, percentOf available assigned, available < assigned⟩

end UtilizationPoint

/-- A series of points with the figures drawn from it. -/
structure UtilizationSummary where
  points : List UtilizationPoint
  peak : Float
  peakDay : Option Day
  average : Float
  available : Float
  assigned : Float
  overallocated : Nat

/-- The sum of a list of floats from left to right.  The sum of none is negative zero, to which
adding changes nothing. -/
def sumFloats (values : List Float) : Float := values.foldl (· + ·) (-0.0)

def assignedHours (resource : Resource) (assignments : List Assignment) (day : Day) : Float :=
  sumFloats ((assignments.filter (·.covers day)).map (·.units * resource.capacity))

def dailyPoint (resource : Resource) (assignments : List Assignment) (day : Day) :
    UtilizationPoint :=
  .ofHours day (resource.availableHours day) (assignedHours resource assignments day)

/-- The points of the days of a range, in order. -/
def dailySeries (resource : Resource) (assignments : List Assignment) (range : DayRange) :
    List UtilizationPoint :=
  range.days.map (dailyPoint resource assignments)

namespace Granularity

/-- The first day of the bucket of a day, unless it lies before the calendar. -/
def bucketStart? : Granularity → Day → Option Day
  | .daily, day => some day
  | .weekly, day => day.weekStart?
  | .monthly, day => some day.monthStart

end Granularity

/-- Hours gathered so far for one bucket. -/
structure Bucket where
  /-- The first day of the calendar unit. -/
  key : Day
  /-- The first day gathered. -/
  day : Day
  available : Float
  assigned : Float

namespace Bucket

def ofPoint (key : Day) (point : UtilizationPoint) : Bucket :=
  ⟨key, point.day, point.available, point.assigned⟩

def add (bucket : Bucket) (point : UtilizationPoint) : Bucket :=
  { bucket with
    available := bucket.available + point.available
    assigned := bucket.assigned + point.assigned }

def point (bucket : Bucket) : UtilizationPoint :=
  .ofHours bucket.day bucket.available bucket.assigned

/-- Adds points to an open bucket as long as they have its key, and opens others after it. -/
def gather (bucket : Bucket) : List (Day × UtilizationPoint) → List Bucket
  | [] => [bucket]
  | (key, point) :: rest =>
      if bucket.key = key then gather (bucket.add point) rest
      else bucket :: gather (ofPoint key point) rest

def ofKeyed : List (Day × UtilizationPoint) → List Bucket
  | [] => []
  | (key, point) :: rest => gather (ofPoint key point) rest

end Bucket

/-- Points with the keys of their buckets, unless one lies before the calendar. -/
def keyed? (granularity : Granularity) (points : List UtilizationPoint) :
    Option (List (Day × UtilizationPoint)) :=
  points.mapM fun point => (granularity.bucketStart? point.day).map (·, point)

/-- Folds points into buckets: consecutive points of one calendar unit become one. -/
def bucketize? (points : List UtilizationPoint) (granularity : Granularity) :
    Option (List UtilizationPoint) :=
  (keyed? granularity points).map fun points => (Bucket.ofKeyed points).map Bucket.point

/-- What is gathered from the points of a series one after the other. -/
structure UtilizationTally where
  /-- The point with the greatest percentage, the earliest of several. -/
  peak? : Option UtilizationPoint
  available : Float
  assigned : Float
  /-- The sum of the percentages of the points that offer hours. -/
  percents : Float
  /-- The number of the points that offer hours. -/
  counted : Nat
  overallocated : Nat

namespace UtilizationTally

def empty : UtilizationTally := ⟨none, 0, 0, 0, 0, 0⟩

/-- The greater of a peak and one more point, the peak if neither is. -/
def laterPeak (peak? : Option UtilizationPoint) (point : UtilizationPoint) : UtilizationPoint :=
  match peak? with
  | none => point
  | some peak => if peak.percent < point.percent then point else peak

def add (tally : UtilizationTally) (point : UtilizationPoint) : UtilizationTally where
  peak? := some (laterPeak tally.peak? point)
  available := tally.available + point.available
  assigned := tally.assigned + point.assigned
  percents := if 0 < point.available then tally.percents + point.percent else tally.percents
  counted := if 0 < point.available then tally.counted + 1 else tally.counted
  overallocated := if point.isOverallocated then tally.overallocated + 1 else tally.overallocated

def ofPoints (points : List UtilizationPoint) : UtilizationTally := points.foldl add empty

/-- The mean percentage of the points that offer hours, or nothing. -/
def average (tally : UtilizationTally) : Float :=
  if 0 < tally.counted then tally.percents / Float.ofNat tally.counted else 0

end UtilizationTally

def summarize (points : List UtilizationPoint) : UtilizationSummary :=
  let tally := UtilizationTally.ofPoints points
  { points
    peak := (tally.peak?.map (·.percent)).getD 0
    peakDay := tally.peak?.map (·.day)
    average := tally.average
    available := tally.available
    assigned := tally.assigned
    overallocated := tally.overallocated }

def aggregate? (resource : Resource) (assignments : List Assignment) (range : DayRange)
    (granularity : Granularity) : Option UtilizationSummary :=
  (bucketize? (dailySeries resource assignments range) granularity).map summarize

end LoadChart
