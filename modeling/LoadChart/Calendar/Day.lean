import LoadChart.Collection.OrderedSet

/-!
# Calendar days

A day of the proleptic Gregorian calendar is its distance from the first of January of the
year 0.  The calendar is finite: it begins with the year -262143 and ends with the year 262142,
so moving a day may leave it, and every such move answers an option.
-/

namespace LoadChart

/-- Days from the first of January of year 0 to the first of January of `year`. -/
def daysBeforeYear (year : Int) : Int :=
  365 * year + (year + 3) / 4 - (year + 99) / 100 + (year + 399) / 400

def isLeapYear (year : Int) : Bool :=
  year % 4 == 0 && (year % 100 != 0 || year % 400 == 0)

/-- The number of days of a month, counted from 1. -/
def monthLength (year : Int) (month : Nat) : Nat :=
  match month with
  | 2 => if isLeapYear year then 29 else 28
  | 4 | 6 | 9 | 11 => 30
  | _ => 31

/-- Days of `year` that lie before the given month. -/
def daysBeforeMonth (year : Int) : Nat → Nat
  | 0 | 1 => 0
  | month + 1 => daysBeforeMonth year month + monthLength year month

/-- The year that holds the day with this number.  The quotient by the mean length of a year
misses by at most one year, which the two comparisons mend. -/
def yearOfOrdinal (ordinal : Int) : Int :=
  let guess := ordinal * 400 / 146097
  if ordinal < daysBeforeYear guess then guess - 1
  else if daysBeforeYear (guess + 1) ≤ ordinal then guess + 1
  else guess

/-- The month, found by passing over the months before it. -/
def monthOfRemainder (year : Int) : (month remainder : Nat) → (left : Nat) → Nat × Nat
  | month, remainder, 0 => (month, remainder)
  | month, remainder, left + 1 =>
      if remainder < monthLength year month then (month, remainder)
      else monthOfRemainder year (month + 1) (remainder - monthLength year month) left

/-- A day named by its year, month and day of the month. -/
structure CivilDate where
  year : Int
  month : Nat
  day : Nat
deriving DecidableEq

def CivilDate.ofOrdinal (ordinal : Int) : CivilDate :=
  let year := yearOfOrdinal ordinal
  let (month, remainder) := monthOfRemainder year 1 (ordinal - daysBeforeYear year).toNat 11
  ⟨year, month, remainder + 1⟩

namespace CivilDate

def exists? (date : CivilDate) : Bool :=
  1 ≤ date.month && date.month ≤ 12 && 1 ≤ date.day && date.day ≤ monthLength date.year date.month

def ordinal (date : CivilDate) : Int :=
  daysBeforeYear date.year + daysBeforeMonth date.year date.month + date.day - 1

end CivilDate

namespace Day

/-- The number of the first day of the calendar, the first of January of -262143. -/
def firstOrdinal : Int := daysBeforeYear (-262143)

/-- The number of the last day of the calendar, the last of December of 262142. -/
def lastOrdinal : Int := daysBeforeYear 262143 - 1

end Day

/-- A day of the calendar. -/
structure Day where
  ordinal : Int
  first_le : Day.firstOrdinal ≤ ordinal
  le_last : ordinal ≤ Day.lastOrdinal

namespace Day

@[ext]
theorem ext {left right : Day} (same : left.ordinal = right.ordinal) : left = right := by
  cases left
  cases right
  cases same
  rfl

instance : DecidableEq Day := fun left right =>
  if same : left.ordinal = right.ordinal then isTrue (ext same)
  else isFalse fun equal => same (equal ▸ rfl)

instance : LE Day := ⟨fun left right => left.ordinal ≤ right.ordinal⟩

instance : LT Day := ⟨fun left right => left.ordinal < right.ordinal⟩

instance (left right : Day) : Decidable (left ≤ right) :=
  inferInstanceAs (Decidable (left.ordinal ≤ right.ordinal))

instance (left right : Day) : Decidable (left < right) :=
  inferInstanceAs (Decidable (left.ordinal < right.ordinal))

theorem le_def {left right : Day} : left ≤ right ↔ left.ordinal ≤ right.ordinal := Iff.rfl

theorem lt_def {left right : Day} : left < right ↔ left.ordinal < right.ordinal := Iff.rfl

instance : Ranked Day where
  rank := ordinal
  rank_injective := ext

def later (left right : Day) : Day := if left ≤ right then right else left

/-- The day with this number, if the calendar holds it. -/
def ofOrdinal? (ordinal : Int) : Option Day :=
  if first_le : firstOrdinal ≤ ordinal then
    if le_last : ordinal ≤ lastOrdinal then some ⟨ordinal, first_le, le_last⟩ else none
  else none

/-- The day `count` days later, unless that leaves the calendar. -/
def plus? (day : Day) (count : Int) : Option Day := ofOrdinal? (day.ordinal + count)

theorem ofOrdinal?_ordinal (day : Day) : ofOrdinal? day.ordinal = some day := by
  simp [ofOrdinal?, day.first_le, day.le_last]

theorem ordinal_of_ofOrdinal? {ordinal : Int} {day : Day} (found : ofOrdinal? ordinal = some day) :
    day.ordinal = ordinal := by
  unfold ofOrdinal? at found
  split at found
  · split at found
    · cases found
      rfl
    · cases found
  · cases found

theorem ordinal_of_plus? {day moved : Day} {count : Int} (found : day.plus? count = some moved) :
    moved.ordinal = day.ordinal + count :=
  ordinal_of_ofOrdinal? found

/-- Year, month and day of the month. -/
def civil (day : Day) : CivilDate := CivilDate.ofOrdinal day.ordinal

def year (day : Day) : Int := day.civil.year

/-- The month, from 1 to 12. -/
def month (day : Day) : Nat := day.civil.month

/-- The day of the month, counted from 1. -/
def dayOfMonth (day : Day) : Nat := day.civil.day

def ofCivil? (date : CivilDate) : Option Day :=
  if date.exists? then ofOrdinal? date.ordinal else none

/-- Days since Monday, from 0 to 6. -/
def weekdayIndex (day : Day) : Nat := ((day.ordinal + 5) % 7).toNat

def isWeekend (day : Day) : Bool := 5 ≤ day.weekdayIndex

/-- The Monday on or before a day, unless it lies before the calendar. -/
def weekStart? (day : Day) : Option Day := day.plus? (-day.weekdayIndex)

def monthStartOrdinal (ordinal : Int) : Int := ordinal + 1 - (CivilDate.ofOrdinal ordinal).day

/-- The first day of the month of a day.  The calendar begins with a whole month. -/
def monthStart (day : Day) : Day := (ofOrdinal? (monthStartOrdinal day.ordinal)).getD day

/-- The first day of the month after that of a day.  Near the end of the calendar there is an
answer only as long as the calendar goes on for 31 days. -/
def nextMonthStart? (day : Day) : Option Day := do
  let later ← day.plus? 31
  let date := day.civil
  let next := if date.month = 12 then ⟨date.year + 1, 1, 1⟩ else ⟨date.year, date.month + 1, 1⟩
  return (ofCivil? next).getD later

/-- The number of the week of a day.  A week belongs to the year that holds its Thursday. -/
def isoWeek (day : Day) : Nat :=
  let thursday := day.ordinal - day.weekdayIndex + 3
  ((thursday - daysBeforeYear (yearOfOrdinal thursday)) / 7 + 1).toNat

end Day

end LoadChart
