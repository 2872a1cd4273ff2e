import LoadChart.Proofs.Timeline.Unit

/-!
# Units in the words of the calendar

A unit is one day, the days from a Monday to the Sunday after it, or all days of one month.  The
units of a scale are numbered without gaps, so the numbers of two days tell how many units they
and the days between them touch.
-/

namespace LoadChart

open CivilDate

namespace Day

theorem dayOfMonth_eq (day : Day) :
    (day.dayOfMonth : Int) = day.ordinal + 1 - monthStartOrdinal day.ordinal := by
  have own : day.dayOfMonth = (CivilDate.ofOrdinal day.ordinal).day := rfl
  unfold monthStartOrdinal
  omega

theorem month_eq_of_monthStart {day other : Day}
    (same : monthStartOrdinal other.ordinal = monthStartOrdinal day.ordinal) :
    other.year = day.year ∧ other.month = day.month := by
  obtain ⟨firstValid, firstOrdinal⟩ := monthFirst_spec day.ordinal
  obtain ⟨otherValid, otherOrdinal⟩ := monthFirst_spec other.ordinal
  have sameFirst : monthFirst other.ordinal = monthFirst day.ordinal :=
    ordinal_injective otherValid firstValid (by rw [firstOrdinal, otherOrdinal, same])
  obtain ⟨sameYear, sameMonth, _⟩ := CivilDate.mk.inj sameFirst
  exact ⟨sameYear, sameMonth⟩

/-- A day that the calendar goes on for 31 days behind, which a next month needs. -/
theorem room_of_nextMonthStart? {day next : Day} (found : day.nextMonthStart? = some next) :
    day.ordinal + 31 ≤ lastOrdinal := by
  obtain ⟨later, moved, _⟩ := Option.bind_eq_some_iff.1 found
  have laterOrdinal := plus?_eq_some.1 moved
  have le_last := later.le_last
  omega

theorem nextMonthStart?_ordinal {day next : Day} (found : day.nextMonthStart? = some next) :
    next.ordinal = monthStartOrdinal day.ordinal + monthLengthAt day.ordinal := by
  obtain ⟨own, ownFound, ownOrdinal, _⟩ := nextMonthStart?_spec (room_of_nextMonthStart? found)
  have same : own = next := Option.some.inj (ownFound.symm.trans found)
  rw [← same, ownOrdinal]

theorem nextMonthStart?_civil {day next : Day} (found : day.nextMonthStart? = some next) :
    next.civil = nextMonthFirst day.civil := by
  obtain ⟨valid, same⟩ := ofOrdinal_spec day.ordinal
  have firstOrdinal := nextMonthFirst_ordinal valid
  rw [same] at firstOrdinal
  have nextOrdinal : next.ordinal = (nextMonthFirst day.civil).ordinal :=
    (nextMonthStart?_ordinal found).trans firstOrdinal.symm
  rw [civil, nextOrdinal]
  exact ofOrdinal_ordinal (nextMonthFirst_exists valid)

/-- The number of the month of a day, counted through the years. -/
def monthNumber (day : Day) : Int := day.year * 12 + day.month

theorem monthNumber_nextMonthStart? {day next : Day}
    (found : day.nextMonthStart? = some next) : next.monthNumber = day.monthNumber + 1 := by
  have civil := nextMonthStart?_civil found
  unfold nextMonthFirst at civil
  simp only [monthNumber, year, month, civil]
  split
  all_goals
    push_cast
    omega

theorem lt_of_monthNumber_lt {earlier later : Day}
    (below : earlier.monthNumber < later.monthNumber) : earlier < later := by
  obtain ⟨valid, ordinal⟩ := CivilDate.ofOrdinal_spec earlier.ordinal
  obtain ⟨laterValid, laterOrdinal⟩ := CivilDate.ofOrdinal_spec later.ordinal
  have yearEnd := (CivilDate.ordinal_bounds valid).2
  have laterYear := (CivilDate.ordinal_bounds laterValid).1
  obtain ⟨monthLow, monthHigh, dayLow, dayHigh⟩ := (CivilDate.exists?_iff _).1 valid
  obtain ⟨laterMonthLow, laterMonthHigh, laterDayLow, _⟩ := (CivilDate.exists?_iff _).1 laterValid
  simp only [monthNumber, year, month, civil] at below
  rw [lt_def]
  generalize CivilDate.ofOrdinal earlier.ordinal = date at *
  generalize CivilDate.ofOrdinal later.ordinal = laterDate at *
  rcases Int.lt_or_le date.year laterDate.year with earlierYear | notEarlier
  · have years := daysBeforeYear_mono (Int.add_one_le_of_lt earlierYear)
    omega
  · have sameYear : date.year = laterDate.year := by omega
    have months : daysBeforeMonth date.year date.month + monthLength date.year date.month ≤
        daysBeforeMonth date.year laterDate.month := daysBeforeMonth_lt date.year monthLow (by omega)
    simp only [CivilDate.ordinal, ← sameYear] at ordinal laterOrdinal
    omega

theorem monthNumber_le {earlier later : Day} (le : earlier ≤ later) :
    earlier.monthNumber ≤ later.monthNumber :=
  Int.not_lt.1 fun below => Int.not_le.2 (lt_of_monthNumber_lt below) le

/-- The day number of the Monday on or before a day, also where the calendar does not hold it. -/
def mondayOrdinal (day : Day) : Int := day.ordinal - day.weekdayIndex

theorem weekStart?_ordinal {day monday : Day} (found : day.weekStart? = some monday) :
    monday.ordinal = day.mondayOrdinal := by
  have own := plus?_eq_some.1 found
  unfold mondayOrdinal
  omega

end Day

namespace Scale

def unitNumber : Scale → Day → Int
  | .days, day => day.ordinal
  | .weeks, day => day.mondayOrdinal / 7
  | .months, day => day.monthNumber

def unitCount : Scale → Day → Day → Int
  | .days, first, last => last.ordinal - first.ordinal + 1
  | .weeks, first, last => (last.mondayOrdinal - first.mondayOrdinal) / 7 + 1
  | .months, first, last => last.monthNumber - first.monthNumber + 1

theorem unitCount_eq (scale : Scale) (first last : Day) :
    scale.unitCount first last = scale.unitNumber last - scale.unitNumber first + 1 := by
  cases scale with
  | days => rfl
  | weeks =>
      simp only [unitCount, unitNumber, Day.mondayOrdinal, Day.weekdayIndex]
      omega
  | months => rfl

theorem unitNumber_of_unitStart? {scale : Scale} {day first : Day}
    (own : scale.unitStart? day = some first) :
    scale.unitNumber day = scale.unitNumber first := by
  cases scale with
  | days => rw [Option.some.inj own]
  | weeks =>
      have monday := Day.weekStart?_eq_some.1 own
      simp only [unitNumber, Day.mondayOrdinal, Day.weekdayIndex]
      omega
  | months =>
      obtain rfl : day.monthStart = first := Option.some.inj own
      have span := (Day.monthStartOrdinal_eq_iff day.ordinal day.ordinal).1 rfl
      have same : Day.monthStartOrdinal day.ordinal =
          Day.monthStartOrdinal day.monthStart.ordinal := by
        rw [Day.monthStart_ordinal]
        exact ((Day.monthStartOrdinal_eq_iff _ _).2 ⟨Int.le_refl _, by omega⟩).symm
      obtain ⟨sameYear, sameMonth⟩ := Day.month_eq_of_monthStart same
      rw [unitNumber, unitNumber, Day.monthNumber, Day.monthNumber, sameYear, sameMonth]

namespace IsUnit

variable {scale : Scale} {first next : Day}

theorem unitStart?_first (isUnit : IsUnit scale first next) :
    scale.unitStart? first = some first :=
  (isUnit.unitStart?_iff first).2 ⟨Int.le_refl _, isUnit.lt⟩

theorem monday (isUnit : IsUnit .weeks first next) :
    first.weekdayIndex = 0 ∧ next.ordinal = first.ordinal + 7 := by
  have start := Day.weekStart?_eq_some.1 isUnit.unitStart?_first
  have week := Day.plus?_eq_some.1 isUnit.nextUnit?
  refine ⟨?_, week.symm⟩
  unfold Day.weekdayIndex
  omega

theorem firstOfMonth (isUnit : IsUnit .months first next) :
    Day.monthStartOrdinal first.ordinal = first.ordinal := by
  have start : first.monthStart = first := Option.some.inj isUnit.unitStart?_first
  rw [← Day.monthStart_ordinal, start]

theorem unitNumber_next (isUnit : IsUnit scale first next) :
    scale.unitNumber next = scale.unitNumber first + 1 := by
  cases scale with
  | days => exact (Day.plus?_eq_some.1 isUnit.nextUnit?).symm
  | weeks =>
      have firstMonday := Day.weekStart?_ordinal isUnit.unitStart?_first
      have nextMonday := Day.weekStart?_ordinal isUnit.unitStart?_next
      have week := isUnit.monday.2
      rw [unitNumber, unitNumber, ← firstMonday, ← nextMonday]
      omega
  | months => exact Day.monthNumber_nextMonthStart? isUnit.nextUnit?

end IsUnit

/-- The days from a first to a last one are one whole unit: a day, a week from Monday to Sunday,
or a month. -/
def IsWhole (first last : Day) : Scale → Prop
  | .days => last = first
  | .weeks =>
      first.weekdayIndex = 0 ∧ last.weekdayIndex = 6 ∧ last.ordinal = first.ordinal + 6
  | .months =>
      first.dayOfMonth = 1 ∧ last.year = first.year ∧ last.month = first.month ∧
        last.dayOfMonth = monthLength first.year first.month

theorem IsUnit.isWhole {scale : Scale} {first finish next : Day}
    (isUnit : IsUnit scale first next) (adjacent : finish.ordinal + 1 = next.ordinal) :
    scale.IsWhole first finish := by
  cases scale with
  | days =>
      have day := Day.plus?_eq_some.1 isUnit.nextUnit?
      exact Day.ext (by omega)
  | weeks =>
      obtain ⟨monday, week⟩ := isUnit.monday
      refine ⟨monday, ?_, by omega⟩
      unfold Day.weekdayIndex at monday ⊢
      omega
  | months =>
      have lt := isUnit.lt
      have start := isUnit.firstOfMonth
      have nextOrdinal := Day.nextMonthStart?_ordinal isUnit.nextUnit?
      have same : Day.monthStartOrdinal finish.ordinal = Day.monthStartOrdinal first.ordinal :=
        (Day.monthStartOrdinal_eq_iff _ _).2 ⟨by omega, by omega⟩
      obtain ⟨sameYear, sameMonth⟩ := Day.month_eq_of_monthStart same
      have firstDay := Day.dayOfMonth_eq first
      have finishDay := Day.dayOfMonth_eq finish
      have length : monthLength first.year first.month = monthLengthAt first.ordinal := rfl
      exact ⟨by omega, sameYear, sameMonth, by omega⟩

end Scale

end LoadChart
