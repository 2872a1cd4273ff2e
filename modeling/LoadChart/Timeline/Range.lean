import LoadChart.Calendar.Text

/-!
# Ranges of days

A range has a first and a last day, both of which it holds, and the first is never after the
last.
-/

namespace LoadChart

/-- Why a timeline cannot be drawn. -/
inductive TimelineError where
  /-- The last day asked for lies before the first. -/
  | reversed (first last : Day)
  /-- A day that is needed lies outside the calendar. -/
  | outsideCalendar

namespace TimelineError

def reversedText (first last : Day) : String :=
  "invalid date range: end " ++ last.isoText ++ " is before start " ++ first.isoText

end TimelineError

/-- The days from a first to a last one. -/
structure DayRange where
  first : Day
  last : Day
  first_le_last : first ≤ last

namespace DayRange

@[ext]
theorem ext_days {left right : DayRange} (sameFirst : left.first = right.first)
    (sameLast : left.last = right.last) : left = right := by
  cases left
  cases right
  cases sameFirst
  cases sameLast
  rfl

instance : DecidableEq DayRange := fun left right =>
  if same : left.first = right.first ∧ left.last = right.last then
    isTrue (ext_days same.1 same.2)
  else isFalse fun equal => same (equal ▸ ⟨rfl, rfl⟩)

/-- The range between two days, unless they are reversed. -/
def of? (first last : Day) : Option DayRange :=
  if first_le_last : first ≤ last then some ⟨first, last, first_le_last⟩ else none

theorem of?_eq_some {first last : Day} {range : DayRange} :
    of? first last = some range ↔ first = range.first ∧ last = range.last := by
  unfold of?
  split
  next ordered => rw [Option.some.injEq, DayRange.ext_days_iff]
  next reversed =>
    constructor
    · intro found
      cases found
    · rintro ⟨rfl, rfl⟩
      exact absurd range.first_le_last reversed

/-- The number of days of a range, at least one. -/
def length (range : DayRange) : Int := range.last.ordinal - range.first.ordinal + 1

/-- The days of a range in order.  The last day of the calendar is never among them. -/
def days (range : DayRange) : List Day :=
  let count := min range.last.ordinal (Day.lastOrdinal - 1) - range.first.ordinal + 1
  (List.range count.toNat).filterMap fun (index : Nat) => range.first.plus? index

def contains (range : DayRange) (day : Day) : Bool := range.first ≤ day && day ≤ range.last

/-- The range that begins and ends `count` days later, unless that leaves the calendar. -/
def shift? (range : DayRange) (count : Int) : Option DayRange := do
  let first ← range.first.plus? count
  let last ← range.last.plus? count
  of? first last

end DayRange

end LoadChart
