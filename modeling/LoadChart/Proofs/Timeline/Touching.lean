import LoadChart.Proofs.Timeline.ColumnOrder
import LoadChart.Proofs.Timeline.WholeUnit

/-!
# Columns that hold days of their range

Wherever the columns over a range can be computed, none of them lies outside the range, so each
holds one of its days, and each of its days lies in one of them.
-/

namespace LoadChart

namespace Scale

theorem lt_of_nextUnit? {scale : Scale} {day first next : Day}
    (own : scale.unitStart? day = some first) (found : scale.nextUnit? first = some next) :
    day < next := by
  rw [Day.lt_def]
  cases scale with
  | days =>
      obtain rfl : day = first := Option.some.inj own
      have nextOrdinal := Day.plus?_eq_some.1 found
      omega
  | weeks =>
      have monday := Day.weekStart?_eq_some.1 own
      have nextOrdinal := Day.plus?_eq_some.1 found
      omega
  | months =>
      have own := unitNumber_of_unitStart? own
      have after := Day.monthNumber_nextMonthStart? found
      simp only [unitNumber] at own
      exact Day.lt_of_monthNumber_lt (by omega)

/-- The units that are found begin no earlier than the first day and no later than the last. -/
theorem units?_bounds {scale : Scale} {last first : Day} {units : List (Day × Day)}
    (found : scale.units? last first = some units) :
    ∀ unit ∈ units, first ≤ unit.1 ∧ unit.1 ≤ last := by
  rw [units?] at found
  split at found
  · cases found
    simp
  next within =>
    split at found
    · cases found
    next next _ =>
      split at found
      next lt =>
        obtain ⟨finish, _, found⟩ := Option.bind_eq_some_iff.1 found
        obtain ⟨rest, restFound, found⟩ := Option.bind_eq_some_iff.1 found
        cases found
        have restBounds := units?_bounds restFound
        intro unit member
        rcases List.mem_cons.1 member with rfl | member
        · exact ⟨Int.le_refl _, Int.not_lt.1 within⟩
        · obtain ⟨behind, high⟩ := restBounds unit member
          rw [Day.le_def] at behind
          rw [Day.lt_def] at lt
          exact ⟨by rw [Day.le_def]; omega, high⟩
      · cases found
termination_by (last.ordinal - first.ordinal + 1).toNat
decreasing_by
  simp only [Day.lt_def] at *
  omega

/-- The units from that of a day on end no earlier than the day. -/
theorem units?_end {scale : Scale} {last day first : Day} {units : List (Day × Day)}
    (own : scale.unitStart? day = some first) (found : scale.units? last first = some units) :
    ∀ unit ∈ units, day ≤ unit.2 := by
  obtain ⟨_, ordered, chain⟩ := units?_consecutive found
  rw [units?] at found
  split at found
  · cases found
    simp
  · split at found
    · cases found
    next next nextFound =>
      split at found
      · obtain ⟨finish, finishFound, found⟩ := Option.bind_eq_some_iff.1 found
        obtain ⟨rest, restFound, found⟩ := Option.bind_eq_some_iff.1 found
        cases found
        have below := lt_of_nextUnit? own nextFound
        have finishOrdinal := Day.plus?_eq_some.1 finishFound
        have restBounds := units?_bounds restFound
        simp only [Day.le_def, Day.lt_def] at *
        intro unit member
        rcases List.mem_cons.1 member with rfl | member
        · dsimp only
          omega
        · have behind := (restBounds unit member).1
          have unitOrdered := ordered unit (List.mem_cons_of_mem _ member)
          omega
      · cases found

theorem le_of_unitStart? {scale : Scale} {day first : Day}
    (own : scale.unitStart? day = some first) : first ≤ day := by
  rw [Day.le_def]
  cases scale with
  | days =>
      obtain rfl : day = first := Option.some.inj own
      exact Int.le_refl _
  | weeks =>
      have monday := Day.weekStart?_eq_some.1 own
      omega
  | months =>
      obtain rfl : day.monthStart = first := Option.some.inj own
      rw [Day.monthStart_ordinal]
      exact Day.monthStartOrdinal_le day.ordinal

theorem units?_covers {scale : Scale} {last first day : Day} {units : List (Day × Day)}
    (found : scale.units? last first = some units) (low : first ≤ day) (high : day ≤ last) :
    ∃ unit ∈ units, unit.1 ≤ day ∧ day ≤ unit.2 := by
  rw [units?] at found
  split at found
  next beyond =>
    simp only [Day.le_def, Day.lt_def] at *
    omega
  · split at found
    · cases found
    next next _ =>
      split at found
      next lt =>
        obtain ⟨finish, finishFound, found⟩ := Option.bind_eq_some_iff.1 found
        obtain ⟨rest, restFound, found⟩ := Option.bind_eq_some_iff.1 found
        cases found
        have finishOrdinal := Day.plus?_eq_some.1 finishFound
        by_cases within : day ≤ finish
        · exact ⟨(first, finish), List.mem_cons_self, low, within⟩
        · have behind : next ≤ day := by
            rw [Day.le_def] at within ⊢
            omega
          obtain ⟨unit, member, covered⟩ := units?_covers restFound behind high
          exact ⟨unit, List.mem_cons_of_mem _ member, covered⟩
      · cases found
termination_by (last.ordinal - first.ordinal + 1).toNat
decreasing_by
  simp only [Day.le_def, Day.lt_def] at *
  omega

end Scale

theorem DayRange.bounds_of_mem_days {range : DayRange} {day : Day} (member : day ∈ range.days) :
    range.first ≤ day ∧ day ≤ range.last := by
  obtain ⟨index, inside, moved⟩ := List.mem_filterMap.1 member
  have ordinal := Day.plus?_eq_some.1 moved
  rw [List.mem_range] at inside
  simp only [Day.le_def]
  omega

namespace Column

/-- Where there are columns over a range, its first day lies in a unit of the calendar. -/
theorem exists_unitStart?_of_over? {range : DayRange} {scale : Scale} {columns : List Column}
    (found : over? range scale = some columns) :
    ∃ start, scale.unitStart? range.first = some start := by
  cases scale with
  | days | months => exact ⟨_, rfl⟩
  | weeks =>
      obtain ⟨start, own, _⟩ := Option.bind_eq_some_iff.1 found
      exact ⟨start, own⟩

theorem over?_touches {range : DayRange} {scale : Scale} {columns : List Column}
    (found : over? range scale = some columns) :
    ∀ column ∈ columns, column.first ≤ range.last ∧ range.first ≤ column.last := by
  cases scale with
  | days =>
      cases found
      intro column member
      obtain ⟨day, isDay, rfl⟩ := List.mem_map.1 member
      obtain ⟨low, high⟩ := DayRange.bounds_of_mem_days isDay
      exact ⟨high, low⟩
  | weeks | months =>
      simp only [over?, Option.bind_eq_bind, Option.bind_eq_some_iff] at found
      obtain ⟨start, own, units, unitsFound, found⟩ := found
      cases found
      intro column member
      obtain ⟨unit, isUnit, rfl⟩ := List.mem_map.1 member
      exact ⟨(Scale.units?_bounds unitsFound unit isUnit).2,
        Scale.units?_end own unitsFound unit isUnit⟩

theorem over?_covers {range : DayRange} {scale : Scale} {columns : List Column}
    (found : over? range scale = some columns) :
    ∀ day ∈ range.days, ∃ column ∈ columns, column.covers day = true := by
  intro day isDay
  cases scale with
  | days =>
      cases found
      exact ⟨ofDay day, List.mem_map_of_mem isDay,
        covers_iff.2 ⟨Int.le_refl _, Int.le_refl _⟩⟩
  | weeks | months =>
      simp only [over?, Option.bind_eq_bind, Option.bind_eq_some_iff] at found
      obtain ⟨start, own, units, unitsFound, found⟩ := found
      cases found
      obtain ⟨low, high⟩ := DayRange.bounds_of_mem_days isDay
      obtain ⟨unit, member, covered⟩ := Scale.units?_covers unitsFound
        (Int.le_trans (Scale.le_of_unitStart? own) low) high
      exact ⟨_, List.mem_map_of_mem member, covers_iff.2 covered⟩

/-- Each column over a range that ends before the calendar does holds a day of the range. -/
theorem over?_exists_day {range : DayRange} {scale : Scale} {columns : List Column}
    (found : over? range scale = some columns) (room : range.last.ordinal < Day.lastOrdinal) :
    ∀ column ∈ columns, ∃ day ∈ range.days, column.covers day = true := by
  intro column member
  obtain ⟨low, high⟩ := over?_touches found column member
  have ordered := (over?_contiguous found).ordered column member
  have rangeOrdered := range.first_le_last
  rw [DayRange.days_eq_upTo room]
  simp only [Day.mem_upTo, covers_iff, Day.le_def] at *
  rcases Int.le_total column.first.ordinal range.first.ordinal with le | le
  · exact ⟨range.first, by omega, by omega⟩
  · exact ⟨column.first, by omega, by omega⟩

end Column

end LoadChart
