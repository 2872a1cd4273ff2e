import LoadChart.Proofs.Calendar.Month
import LoadChart.Timeline.Column

/-!
# Calendar units

A unit of a scale is a whole day, week or month.  The days of a unit are those whose unit begins
with its first day, and the unit after it begins where it ends.
-/

namespace LoadChart

namespace Day

theorem ofOrdinal?_eq_some {number : Int} {day : Day} :
    ofOrdinal? number = some day ↔ number = day.ordinal := by
  constructor
  · intro found
    exact (ordinal_of_ofOrdinal? found).symm
  · intro same
    rw [same, ofOrdinal?_ordinal]

theorem plus?_eq_some {day moved : Day} {count : Int} :
    day.plus? count = some moved ↔ day.ordinal + count = moved.ordinal :=
  ofOrdinal?_eq_some

theorem exists_plus? (day : Day) (count : Nat) (room : day.ordinal + count ≤ lastOrdinal) :
    ∃ moved, day.plus? count = some moved := by
  have first_le := day.first_le
  exact ⟨⟨day.ordinal + count, by omega, room⟩, plus?_eq_some.2 rfl⟩

theorem weekStart?_eq_some {day monday : Day} :
    day.weekStart? = some monday ↔ monday.ordinal = day.ordinal - (day.ordinal + 5) % 7 := by
  rw [weekStart?, plus?_eq_some, weekdayIndex]
  omega

end Day

namespace Scale

/-- A unit from its first day up to the first day of the next. -/
structure IsUnit (scale : Scale) (first next : Day) : Prop where
  nextUnit? : scale.nextUnit? first = some next
  lt : first.ordinal < next.ordinal
  next_le : next.ordinal ≤ first.ordinal + 31
  unitStart?_iff : ∀ day, scale.unitStart? day = some first ↔
    first.ordinal ≤ day.ordinal ∧ day.ordinal < next.ordinal
  unitStart?_next : scale.unitStart? next = some next

/-- Where a day has a unit, later days have one. -/
theorem exists_unitStart?_of_le {scale : Scale} {first day : Day} (le : first ≤ day)
    (begins : ∃ start, scale.unitStart? first = some start) :
    ∃ start, scale.unitStart? day = some start := by
  cases scale with
  | days | months => exact ⟨_, rfl⟩
  | weeks =>
      obtain ⟨start, found⟩ := begins
      have monday := Day.weekStart?_eq_some.1 found
      have first_le := start.first_le
      have le_last := day.le_last
      rw [Day.le_def] at le
      exact ⟨⟨day.ordinal - (day.ordinal + 5) % 7, by omega, by omega⟩,
        Day.weekStart?_eq_some.2 rfl⟩

theorem isUnit_days {first : Day} (room : first.ordinal + 31 ≤ Day.lastOrdinal) :
    ∃ next, IsUnit .days first next := by
  obtain ⟨next, found⟩ := Day.exists_plus? first 1 (by omega)
  have nextOrdinal := Day.plus?_eq_some.1 found
  refine ⟨next, found, by omega, by omega, ?_, rfl⟩
  intro day
  constructor
  · intro same
    cases same
    omega
  · rintro ⟨le, lt⟩
    exact congrArg some (Day.ext (by omega))

theorem isUnit_weeks {first : Day} (room : first.ordinal + 31 ≤ Day.lastOrdinal)
    (start : first.weekStart? = some first) : ∃ next, IsUnit .weeks first next := by
  obtain ⟨next, found⟩ := Day.exists_plus? first 7 (by omega)
  have nextOrdinal := Day.plus?_eq_some.1 found
  have monday := Day.weekStart?_eq_some.1 start
  refine ⟨next, found, by omega, by omega, ?_, ?_⟩
  · intro day
    rw [unitStart?, Day.weekStart?_eq_some]
    omega
  · rw [unitStart?, Day.weekStart?_eq_some]
    omega

theorem isUnit_months {first : Day} (room : first.ordinal + 31 ≤ Day.lastOrdinal)
    (start : first.monthStart = first) : ∃ next, IsUnit .months first next := by
  obtain ⟨next, found, nextOrdinal, nextStart⟩ := Day.nextMonthStart?_spec room
  have firstStart : Day.monthStartOrdinal first.ordinal = first.ordinal := by
    rw [← Day.monthStart_ordinal, start]
  rw [firstStart] at nextOrdinal
  have long := monthLength_bounds (CivilDate.ofOrdinal first.ordinal).year
    (CivilDate.ofOrdinal first.ordinal).month
  have lengthAt : monthLengthAt first.ordinal =
    monthLength (CivilDate.ofOrdinal first.ordinal).year
      (CivilDate.ofOrdinal first.ordinal).month := rfl
  refine ⟨next, found, by omega, by omega, ?_, ?_⟩
  · intro day
    have span := Day.monthStartOrdinal_eq_iff first.ordinal day.ordinal
    rw [firstStart, ← nextOrdinal] at span
    rw [unitStart?, Option.some.injEq, Day.ext_iff, Day.monthStart_ordinal, span]
  · rw [unitStart?, Option.some.injEq, Day.ext_iff, Day.monthStart_ordinal, nextStart]

/-- What begins a unit is followed by the next unit, as long as the calendar goes on for 31
days. -/
theorem exists_isUnit {scale : Scale} {first : Day} (room : first.ordinal + 31 ≤ Day.lastOrdinal)
    (start : scale.unitStart? first = some first) : ∃ next, IsUnit scale first next := by
  cases scale with
  | days => exact isUnit_days room
  | weeks => exact isUnit_weeks room start
  | months => exact isUnit_months room (Option.some.inj start)

/-- The unit of a day begins within the calendar, at the latest with the seventh of its days. -/
theorem exists_unitStart (scale : Scale) {day : Day} (early : Day.firstOrdinal + 6 ≤ day.ordinal) :
    ∃ first, scale.unitStart? day = some first ∧ first.ordinal ≤ day.ordinal ∧
      scale.unitStart? first = some first := by
  cases scale with
  | days => exact ⟨day, rfl, Int.le_refl _, rfl⟩
  | weeks =>
      have le_last := day.le_last
      let monday : Day := ⟨day.ordinal - (day.ordinal + 5) % 7, by omega, by omega⟩
      have mondayOrdinal : monday.ordinal = day.ordinal - (day.ordinal + 5) % 7 := rfl
      refine ⟨monday, Day.weekStart?_eq_some.2 rfl, by omega, ?_⟩
      rw [unitStart?, Day.weekStart?_eq_some]
      omega
  | months =>
      refine ⟨day.monthStart, rfl, ?_, ?_⟩
      · rw [Day.monthStart_ordinal]
        exact Day.monthStartOrdinal_le day.ordinal
      · have span := (Day.monthStartOrdinal_eq_iff day.ordinal day.ordinal).1 rfl
        have same : Day.monthStartOrdinal (Day.monthStartOrdinal day.ordinal) =
            Day.monthStartOrdinal day.ordinal :=
          (Day.monthStartOrdinal_eq_iff _ _).2 ⟨Int.le_refl _, by omega⟩
        rw [unitStart?, Option.some.injEq, Day.ext_iff, Day.monthStart_ordinal,
          Day.monthStart_ordinal, same]

end Scale

end LoadChart
