import LoadChart.Proofs.Calendar.Civil

/-!
# Months as spans of days

The days with one first day of the month are those from it up to the first day of the next month.
-/

namespace LoadChart

open CivilDate

def monthLengthAt (number : Int) : Nat :=
  monthLength (CivilDate.ofOrdinal number).year (CivilDate.ofOrdinal number).month

namespace Day

/-- The first of the month of a day number, as a civil date. -/
def monthFirst (number : Int) : CivilDate := { CivilDate.ofOrdinal number with day := 1 }

theorem monthFirst_spec (number : Int) :
    (monthFirst number).exists? = true ∧
      (monthFirst number).ordinal = monthStartOrdinal number := by
  obtain ⟨valid, same⟩ := ofOrdinal_spec number
  obtain ⟨monthLow, monthHigh, _, _⟩ := (exists?_iff _).1 valid
  have long := (monthLength_bounds (CivilDate.ofOrdinal number).year
    (CivilDate.ofOrdinal number).month).1
  constructor
  · exact (exists?_iff _).2 ⟨monthLow, monthHigh, Nat.le_refl 1, by simp only [monthFirst]; omega⟩
  · unfold CivilDate.ordinal at same
    simp only [monthFirst, monthStartOrdinal, CivilDate.ordinal]
    omega

theorem monthStartOrdinal_eq_iff (number other : Int) :
    monthStartOrdinal other = monthStartOrdinal number ↔
      monthStartOrdinal number ≤ other ∧
        other < monthStartOrdinal number + monthLengthAt number := by
  constructor
  · intro same
    obtain ⟨firstValid, firstOrdinal⟩ := monthFirst_spec number
    obtain ⟨otherValid, otherOrdinal⟩ := monthFirst_spec other
    have sameFirst : monthFirst other = monthFirst number :=
      ordinal_injective otherValid firstValid (by rw [firstOrdinal, otherOrdinal, same])
    obtain ⟨sameYear, sameMonth, _⟩ := CivilDate.mk.inj sameFirst
    obtain ⟨valid, _⟩ := ofOrdinal_spec other
    obtain ⟨_, _, dayLow, dayHigh⟩ := (exists?_iff _).1 valid
    rw [sameYear, sameMonth] at dayHigh
    rw [← same]
    unfold monthStartOrdinal monthLengthAt
    omega
  · rintro ⟨le, lt⟩
    obtain ⟨valid, ordinal⟩ := monthFirst_spec number
    obtain ⟨monthLow, monthHigh, _, _⟩ := (exists?_iff _).1 valid
    let date : CivilDate :=
      { monthFirst number with day := (other - monthStartOrdinal number).toNat + 1 }
    have dateValid : date.exists? = true := by
      refine (exists?_iff _).2 ⟨monthLow, monthHigh, Nat.le_add_left 1 _, ?_⟩
      simp only [date, monthFirst]
      unfold monthLengthAt at lt
      omega
    have dateOrdinal : date.ordinal = other := by
      have first : daysBeforeYear (monthFirst number).year +
          daysBeforeMonth (monthFirst number).year (monthFirst number).month + (1 : Nat) - 1 =
            monthStartOrdinal number := ordinal
      simp only [date, CivilDate.ordinal]
      omega
    have sameDate : CivilDate.ofOrdinal other = date := by
      rw [← dateOrdinal]
      exact ofOrdinal_ordinal dateValid
    rw [monthStartOrdinal, sameDate]
    simp only [date]
    omega

theorem monthStartOrdinal_le (number : Int) : monthStartOrdinal number ≤ number :=
  ((monthStartOrdinal_eq_iff number number).1 rfl).1

def nextMonthFirst (date : CivilDate) : CivilDate :=
  if date.month = 12 then ⟨date.year + 1, 1, 1⟩ else ⟨date.year, date.month + 1, 1⟩

theorem nextMonthFirst_exists {date : CivilDate} (valid : date.exists? = true) :
    (nextMonthFirst date).exists? = true := by
  obtain ⟨monthLow, monthHigh, _, _⟩ := (exists?_iff _).1 valid
  unfold nextMonthFirst
  split
  · rfl
  next notLast =>
    have long := (monthLength_bounds date.year (date.month + 1)).1
    refine (exists?_iff _).2 ⟨?_, ?_, ?_, ?_⟩
    all_goals dsimp only; omega

theorem nextMonthFirst_ordinal {date : CivilDate} (valid : date.exists? = true) :
    (nextMonthFirst date).ordinal =
      date.ordinal + 1 - date.day + monthLength date.year date.month := by
  obtain ⟨year, month, day⟩ := date
  obtain ⟨monthLow, monthHigh, _, _⟩ := (exists?_iff _).1 valid
  unfold nextMonthFirst
  split
  next last =>
    have isDecember : month = 12 := last
    subst isDecember
    have wholeYear := daysBeforeMonth_twelve year
    have nextYear := daysBeforeYear_succ year
    have noneBefore : daysBeforeMonth (year + 1) 1 = 0 := rfl
    have december : monthLength year 12 = 31 := rfl
    simp only [CivilDate.ordinal]
    omega
  next notLast =>
    have nextMonth : daysBeforeMonth year (month + 1) =
        daysBeforeMonth year month + monthLength year month := daysBeforeMonth_succ year monthLow
    simp only [CivilDate.ordinal]
    omega

/-- The month after the one of a day begins where that one ends, and within the calendar as long
as this goes on for 31 days. -/
theorem nextMonthStart?_spec {day : Day} (room : day.ordinal + 31 ≤ lastOrdinal) :
    ∃ next, day.nextMonthStart? = some next ∧
      next.ordinal = monthStartOrdinal day.ordinal + monthLengthAt day.ordinal ∧
      monthStartOrdinal next.ordinal = next.ordinal := by
  obtain ⟨valid, same⟩ := ofOrdinal_spec day.ordinal
  let next := nextMonthFirst (CivilDate.ofOrdinal day.ordinal)
  have nextValid : next.exists? = true := nextMonthFirst_exists valid
  have nextOrdinal : next.ordinal = monthStartOrdinal day.ordinal + monthLengthAt day.ordinal := by
    have found := nextMonthFirst_ordinal valid
    rwa [same] at found
  have firstDay : next.day = 1 := by
    simp only [next, nextMonthFirst]
    split <;> rfl
  have first_le := day.first_le
  have span := (monthStartOrdinal_eq_iff day.ordinal day.ordinal).1 rfl
  have long : monthLengthAt day.ordinal ≤ 31 := (monthLength_bounds _ _).2
  have nextLow : firstOrdinal ≤ next.ordinal := by omega
  have nextHigh : next.ordinal ≤ lastOrdinal := by omega
  let later : Day := ⟨day.ordinal + 31, by omega, room⟩
  have laterFound : day.plus? 31 = some later := by
    rw [plus?, ofOrdinal?, dif_pos later.first_le, dif_pos room]
  have inCalendar : ofCivil? next = some ⟨next.ordinal, nextLow, nextHigh⟩ := by
    rw [ofCivil?, if_pos nextValid, ofOrdinal?, dif_pos nextLow, dif_pos nextHigh]
  refine ⟨⟨next.ordinal, nextLow, nextHigh⟩, ?_, nextOrdinal, ?_⟩
  · rw [nextMonthStart?, laterFound]
    exact congrArg (fun found : Option Day => some (found.getD later)) inCalendar
  · rw [monthStartOrdinal, ofOrdinal_ordinal nextValid, firstDay]
    simp

theorem firstOrdinal_le_monthStartOrdinal (day : Day) :
    firstOrdinal ≤ monthStartOrdinal day.ordinal := by
  have first_le := day.first_le
  obtain ⟨valid, ordinal⟩ := monthFirst_spec day.ordinal
  have own := ordinal_bounds (ofOrdinal_spec day.ordinal).1
  rw [(ofOrdinal_spec day.ordinal).2] at own
  have yearLow : -262143 ≤ (CivilDate.ofOrdinal day.ordinal).year := by
    refine Int.not_lt.1 fun below => ?_
    have yearEnd := daysBeforeYear_mono (Int.add_one_le_of_lt below)
    unfold firstOrdinal at first_le
    omega
  calc
    firstOrdinal ≤ daysBeforeYear (monthFirst day.ordinal).year := daysBeforeYear_mono yearLow
    _ ≤ (monthFirst day.ordinal).ordinal := (ordinal_bounds valid).1
    _ = monthStartOrdinal day.ordinal := ordinal

theorem monthStart_ordinal (day : Day) :
    day.monthStart.ordinal = monthStartOrdinal day.ordinal := by
  have low := firstOrdinal_le_monthStartOrdinal day
  have high : monthStartOrdinal day.ordinal ≤ lastOrdinal :=
    Int.le_trans (monthStartOrdinal_le day.ordinal) day.le_last
  rw [monthStart, ofOrdinal?, dif_pos low, dif_pos high]
  rfl

end Day

end LoadChart
