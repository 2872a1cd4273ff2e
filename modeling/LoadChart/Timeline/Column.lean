import LoadChart.Timeline.Scale

/-!
# Columns of the timeline

The columns over a range are whole calendar units in order, of which the first holds the first
day of the range and the last its last day.  Consecutive columns of one month share a header.
-/

namespace LoadChart

/-- One column of the timeline. -/
structure Column where
  /-- The first day of the unit. -/
  first : Day
  /-- The last day of the unit. -/
  last : Day
  label : String
  isWeekend : Bool
  /-- The month of the first day of the unit that lies in the range. -/
  monthKey : String
deriving DecidableEq

namespace Column

def covers (column : Column) (day : Day) : Bool := column.first ≤ day && day ≤ column.last

def ofDay (day : Day) : Column :=
  ⟨day, day, numberText day.dayOfMonth, day.isWeekend, day.monthKey⟩

def unitLabel (scale : Scale) (first : Day) : String :=
  match scale with
  | .days => numberText first.dayOfMonth
  | .weeks => first.weekLabel
  | .months => first.monthLabel

/-- The column of a week or month, in a range that begins with `start`. -/
def ofUnit (scale : Scale) (start first last : Day) : Column :=
  ⟨first, last, unitLabel scale first, false, (first.later start).monthKey⟩

/-- The columns over a range, unless they leave the calendar. -/
def over? (range : DayRange) (scale : Scale) : Option (List Column) :=
  match scale with
  | .days => some (range.days.map ofDay)
  | scale => do
      let start ← scale.unitStart? range.first
      let units ← scale.units? range.last start
      return units.map fun (first, last) => ofUnit scale range.first first last

def between (first last : Day) (scale : Scale) : Except TimelineError (List Column) :=
  match DayRange.of? first last with
  | none => .error (.reversed first last)
  | some range =>
      match over? range scale with
      | none => .error .outsideCalendar
      | some columns => .ok columns

def endsBefore (columns : Array Column) (day : Day) (index : Nat) : Bool :=
  match columns[index]? with
  | some column => column.last < day
  | none => false

/-- The number of columns in front that end before a day, found by halving.  Those before `base`
do, and `size` columns from there on are still in question. -/
def countBefore (columns : Array Column) (day : Day) (base size : Nat) : Nat :=
  if size ≤ 1 then if endsBefore columns day base then base + 1 else base
  else
    let half := size / 2
    if endsBefore columns day (base + half) then
      countBefore columns day (base + half) (size - half)
    else countBefore columns day base (size - half)
termination_by size

def indexOf? (columns : List Column) (day : Day) : Option Nat :=
  let columns := columns.toArray
  let index := countBefore columns day 0 columns.size
  match columns[index]? with
  | none => none
  | some column => if column.covers day then some index else none

def dayOffset? (columns : List Column) (day : Day) (width : Float32) : Option Float32 := do
  let index ← indexOf? columns day
  let column ← columns[index]?
  let length := Float32.ofInt (column.last.ordinal - column.first.ordinal) + 1
  let offset := Float32.ofInt (day.ordinal - column.first.ordinal) + 0.5
  return Float32.ofNat index * width + offset / length * width

end Column

/-- A header over consecutive columns of one month. -/
structure MonthGroup where
  key : String
  label : String
  firstColumn : Nat
  span : Nat
deriving DecidableEq

namespace MonthGroup

/-- Extends an open group over the columns that follow, and opens others where the month
changes.  `index` is the place of the next column. -/
def gather (group : MonthGroup) (index : Nat) : List Column → List MonthGroup
  | [] => [group]
  | column :: rest =>
      if group.key = column.monthKey then
        gather { group with span := group.span + 1 } (index + 1) rest
      else
        group :: gather ⟨column.monthKey, Day.labelOfMonthKey column.monthKey, index, 1⟩
          (index + 1) rest

def ofColumns : List Column → List MonthGroup
  | [] => []
  | column :: rest =>
      gather ⟨column.monthKey, Day.labelOfMonthKey column.monthKey, 0, 1⟩ 1 rest

end MonthGroup

end LoadChart
