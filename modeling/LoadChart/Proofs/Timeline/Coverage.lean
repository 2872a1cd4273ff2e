import LoadChart.Proofs.Timeline.ColumnOrder
import LoadChart.Proofs.Timeline.WholeUnit

/-!
# Columns tile the calendar

The columns over a range well within the calendar are whole units that follow one another, from
the one that holds the first day of the range to the one that holds the last.  Each day of the
range lies in exactly one of them, none lies outside the range, and their number is told by the
two days alone.
-/

namespace LoadChart

namespace Scale

namespace Tiling

variable {scale : Scale} {last first : Day} {units : List (Day × Day)}

theorem isWhole (tiling : Tiling scale last first units) :
    ∀ unit ∈ units, scale.IsWhole unit.1 unit.2 := by
  induction tiling with
  | done => simp
  | unit within isUnit adjacent tiling induction =>
      intro unit member
      rcases List.mem_cons.1 member with rfl | member
      · exact isUnit.isWhole adjacent
      · exact induction unit member

theorem first_le_last (tiling : Tiling scale last first units) :
    ∀ unit ∈ units, unit.1 ≤ last := by
  induction tiling with
  | done => simp
  | unit within isUnit adjacent tiling induction =>
      intro unit member
      rcases List.mem_cons.1 member with rfl | member
      · exact within
      · exact induction unit member

theorem exists_head (tiling : Tiling scale last first units) (within : first ≤ last) {day : Day}
    (own : scale.unitStart? day = some first) :
    ∃ unit, units.head? = some unit ∧ unit.1 ≤ day ∧ day ≤ unit.2 := by
  cases tiling with
  | done beyond => exact absurd within (Int.not_le.2 beyond)
  | @unit _ finish next rest _ isUnit adjacent tiling =>
      obtain ⟨low, high⟩ := (isUnit.unitStart?_iff day).1 own
      refine ⟨(first, finish), rfl, low, ?_⟩
      rw [Day.le_def]
      dsimp only
      omega

theorem exists_getLast (tiling : Tiling scale last first units) (within : first ≤ last) :
    ∃ unit, units.getLast? = some unit ∧ unit.1 ≤ last ∧ last ≤ unit.2 := by
  induction tiling with
  | done beyond => exact absurd within (Int.not_le.2 beyond)
  | @unit first finish next rest _ isUnit adjacent tiling induction =>
      cases tiling with
      | done beyond =>
          refine ⟨(first, finish), rfl, within, ?_⟩
          rw [Day.lt_def] at beyond
          rw [Day.le_def]
          dsimp only
          omega
      | unit nextWithin =>
          rw [List.getLast?_cons_cons]
          exact induction nextWithin

/-- The number of units is told by the numbers of the first and the last of them. -/
theorem length_eq (tiling : Tiling scale last first units) (within : first ≤ last) :
    (units.length : Int) = scale.unitNumber last - scale.unitNumber first + 1 := by
  induction tiling with
  | done beyond => exact absurd within (Int.not_le.2 beyond)
  | @unit first finish next rest _ isUnit adjacent tiling induction =>
      have step := isUnit.unitNumber_next
      cases tiling with
      | done beyond =>
          have own := (isUnit.unitStart?_iff last).2 ⟨within, beyond⟩
          have same := unitNumber_of_unitStart? own
          simp only [List.length_singleton]
          omega
      | unit nextWithin =>
          have restLength := induction nextWithin
          rw [List.length_cons]
          push_cast
          omega

end Tiling

end Scale

namespace Column

/-- The columns of a timeline from a first to a last day. -/
structure IsTimeline (scale : Scale) (first last : Day) (columns : List Column) : Prop where
  ordered : ∀ column ∈ columns, column.first ≤ column.last
  /-- Each column begins on the day after the one before it ends. -/
  adjacent : columns.IsChain fun left right => left.last.ordinal + 1 = right.first.ordinal
  whole : ∀ column ∈ columns, scale.IsWhole column.first column.last
  head : ∃ column, columns.head? = some column ∧ column.covers first = true
  getLast : ∃ column, columns.getLast? = some column ∧ column.covers last = true
  exactlyOne : ∀ day, first ≤ day → day ≤ last →
    ∃! index : Nat, ∃ column : Column,
      columns[index]? = some column ∧ column.covers day = true
  /-- No column lies entirely outside the days from the first to the last. -/
  touches : ∀ column ∈ columns, column.first ≤ last ∧ first ≤ column.last
  count : (columns.length : Int) = scale.unitCount first last

theorem over?_isTimeline (range : DayRange) (scale : Scale)
    (early : Day.firstOrdinal + 6 ≤ range.first.ordinal)
    (late : range.last.ordinal + 31 ≤ Day.lastOrdinal) :
    ∃ columns, over? range scale = some columns ∧
      IsTimeline scale range.first range.last columns := by
  obtain ⟨columns, start, found, own, le, tiling⟩ := over?_tiling scale early late
  have contiguous := over?_contiguous found
  have within : start ≤ range.last := Int.le_trans le range.first_le_last
  obtain ⟨_, headFound, headLow, headHigh⟩ := tiling.exists_head within own
  rw [List.head?_map] at headFound
  obtain ⟨headColumn, head, rfl⟩ := Option.map_eq_some_iff.1 headFound
  obtain ⟨_, lastFound, lastLow, lastHigh⟩ := tiling.exists_getLast within
  rw [List.getLast?_map] at lastFound
  obtain ⟨lastColumn, getLast, rfl⟩ := Option.map_eq_some_iff.1 lastFound
  refine ⟨columns, found, contiguous.ordered, contiguous.adjacent, ?_,
    ⟨headColumn, head, covers_iff.2 ⟨headLow, headHigh⟩⟩,
    ⟨lastColumn, getLast, covers_iff.2 ⟨lastLow, lastHigh⟩⟩, ?_, ?_, ?_⟩
  · intro column member
    exact tiling.isWhole _ (List.mem_map_of_mem member)
  · intro day low high
    obtain ⟨index, column, atIndex, covers⟩ := contiguous.exists_covers head getLast
      (Int.le_trans headLow low) (Int.le_trans high lastHigh)
    refine ⟨index, ⟨column, atIndex, covers⟩, ?_⟩
    rintro other ⟨otherColumn, atOther, otherCovers⟩
    exact contiguous.ascending.index_unique atOther atIndex otherCovers covers
  · intro column member
    refine ⟨tiling.first_le_last _ (List.mem_map_of_mem member), ?_⟩
    obtain ⟨index, found⟩ := List.mem_iff_getElem?.1 member
    have atHead : columns[0]? = some headColumn := List.head?_eq_getElem? ▸ head
    exact Int.le_trans headHigh (contiguous.ascending.le_of_le atHead found (Nat.zero_le index)).2
  · have length := tiling.length_eq within
    rw [List.length_map] at length
    rw [length, Scale.unitCount_eq, Scale.unitNumber_of_unitStart? own]

/-- Days in the wrong order are refused.  Between two days in order, well within the calendar,
there are columns, and they tile it. -/
theorem between_tiles_calendar (scale : Scale) (first last : Day) :
    (last < first → between first last scale = .error (.reversed first last)) ∧
      (first ≤ last → Day.firstOrdinal + 6 ≤ first.ordinal →
        last.ordinal + 31 ≤ Day.lastOrdinal →
        ∃ columns, between first last scale = .ok columns ∧
          IsTimeline scale first last columns) := by
  constructor
  · intro reversed
    have refused : DayRange.of? first last = none := dif_neg (Int.not_le.2 reversed)
    rw [between, refused]
  · intro ordered early late
    let range : DayRange := ⟨first, last, ordered⟩
    obtain ⟨columns, found, timeline⟩ := over?_isTimeline range scale early late
    refine ⟨columns, ?_, timeline⟩
    have isRange : DayRange.of? first last = some range := dif_pos ordered
    rw [between, isRange]
    dsimp only
    rw [found]

/-- Three months, of which the last has a leap day and the first lies before the year 0. -/
theorem between_tiles_calendar_leap_winter :
    let december : Day := ⟨-20, by decide, by decide⟩
    let february : Day := ⟨59, by decide, by decide⟩
    (december.civil = ⟨-1, 12, 12⟩ ∧ february.civil = ⟨0, 2, 29⟩) ∧
      (december < february ∧
        between february december .months = .error (.reversed february december)) ∧
      december ≤ february ∧ Day.firstOrdinal + 6 ≤ december.ordinal ∧
      february.ordinal + 31 ≤ Day.lastOrdinal ∧
      ∃ columns, between december february .months = .ok columns ∧
        IsTimeline .months december february columns ∧ columns.length = 3 := by
  intro december february
  have reversed : december < february := by decide
  obtain ⟨columns, found, timeline⟩ := (between_tiles_calendar .months december february).2
    (by decide) (by decide) (by decide)
  refine ⟨⟨by decide, by decide⟩,
    ⟨reversed, (between_tiles_calendar .months february december).1 reversed⟩,
    by decide, by decide, by decide, columns, found, timeline, ?_⟩
  have count : Scale.months.unitCount december february = 3 := by decide
  have length := timeline.count
  omega

end Column

end LoadChart
