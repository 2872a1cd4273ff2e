import LoadChart.Timeline.Range

/-!
# Scales of the timeline

The calendar unit that one column stands for.
-/

namespace LoadChart

/-- What one column of the timeline stands for. -/
inductive Scale where
  | days
  | weeks
  | months
deriving DecidableEq

/-- The width of a bucket of figures. -/
inductive Granularity where
  | daily
  | weekly
  | monthly
deriving DecidableEq

namespace Granularity

def word : Granularity → String
  | .daily => "daily"
  | .weekly => "weekly"
  | .monthly => "monthly"

end Granularity

namespace Scale

/-- All scales, the finest first. -/
def all : List Scale := [.days, .weeks, .months]

def label : Scale → String
  | .days => "Day"
  | .weeks => "Week"
  | .months => "Month"

def word : Scale → String
  | .days => "days"
  | .weeks => "weeks"
  | .months => "months"

def columnWidth : Scale → Float32
  | .days => 32
  | .weeks => 84
  | .months => 140

def finer : Scale → Scale
  | .months => .weeks
  | _ => .days

def coarser : Scale → Scale
  | .days => .weeks
  | _ => .months

def granularity : Scale → Granularity
  | .days => .daily
  | .weeks => .weekly
  | .months => .monthly

def unitStart? : Scale → Day → Option Day
  | .days, day => some day
  | .weeks, day => day.weekStart?
  | .months, day => some day.monthStart

def nextUnit? : Scale → Day → Option Day
  | .days, day => day.plus? 1
  | .weeks, day => day.plus? 7
  | .months, day => day.nextMonthStart?

/-- The first and last days of whole units in order, from the one that begins with `first` to
the one that holds `last`. -/
def units? (scale : Scale) (last first : Day) : Option (List (Day × Day)) :=
  if last < first then some []
  else
    match scale.nextUnit? first with
    | none => none
    | some next =>
        if first < next then do
          let finish ← next.plus? (-1)
          let rest ← units? scale last next
          return (first, finish) :: rest
        else none
termination_by (last.ordinal - first.ordinal + 1).toNat
decreasing_by
  simp only [Day.lt_def] at *
  omega

end Scale

end LoadChart
