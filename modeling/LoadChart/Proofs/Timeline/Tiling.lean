import LoadChart.Proofs.Timeline.Unit

/-!
# Tilings by calendar units

The columns over a range are consecutive units: each begins where the one before it ends, the
first is the unit of the first day of the range, and only the last holds its last day.
-/

namespace LoadChart

namespace Day

/-- The days from one day to another, both included. -/
def upTo (first last : Day) : List Day :=
  (List.range (last.ordinal - first.ordinal + 1).toNat).filterMap fun (index : Nat) =>
    first.plus? index

theorem mem_upTo {first last day : Day} : day ∈ upTo first last ↔ first ≤ day ∧ day ≤ last := by
  simp only [upTo, List.mem_filterMap, List.mem_range, plus?_eq_some, Day.le_def]
  constructor
  · rintro ⟨index, below, same⟩
    omega
  · rintro ⟨low, high⟩
    exact ⟨(day.ordinal - first.ordinal).toNat, by omega, by omega⟩

theorem upTo_of_lt {first last : Day} (below : last < first) : upTo first last = [] := by
  rw [Day.lt_def] at below
  have none : (last.ordinal - first.ordinal + 1).toNat = 0 := by omega
  rw [upTo, none]
  rfl

theorem upTo_self (day : Day) : upTo day day = [day] := by
  have one : (day.ordinal - day.ordinal + 1).toNat = 1 := by omega
  have stays : day.plus? (0 : Nat) = some day := plus?_eq_some.2 (by omega)
  rw [upTo, one]
  exact List.filterMap_cons_some stays

/-- The days up to a last one, cut before a day in between. -/
theorem upTo_append {first middle next last : Day} (before : first ≤ next)
    (adjacent : middle.ordinal + 1 = next.ordinal) (within : middle ≤ last) :
    upTo first last = upTo first middle ++ upTo next last := by
  rw [Day.le_def] at before within
  have split : (last.ordinal - first.ordinal + 1).toNat =
      (middle.ordinal - first.ordinal + 1).toNat + (last.ordinal - next.ordinal + 1).toNat := by
    omega
  rw [upTo, split, List.range_add, List.filterMap_append, List.filterMap_map]
  have moved : ∀ index : Nat,
      first.plus? ((middle.ordinal - first.ordinal + 1).toNat + index : Nat) =
        next.plus? index := by
    intro index
    rw [plus?, plus?]
    congr 1
    omega
  simp only [Function.comp_def, moved]
  rfl

/-- Days up to a last one are those of a span that may reach beyond it and those after. -/
theorem upTo_split {first finish next last : Day} (before : first ≤ finish) (within : first ≤ last)
    (adjacent : finish.ordinal + 1 = next.ordinal) :
    ∃ middle, first ≤ middle ∧ middle ≤ finish ∧
      upTo first last = upTo first middle ++ upTo next last := by
  rw [Day.le_def] at before
  by_cases inside : finish ≤ last
  · have behind : first.ordinal ≤ next.ordinal := by omega
    exact ⟨finish, before, Int.le_refl _, upTo_append behind adjacent inside⟩
  · have beyond : last.ordinal < finish.ordinal := Int.not_le.1 inside
    have nothing : upTo next last = [] := upTo_of_lt (by rw [Day.lt_def]; omega)
    exact ⟨last, within, Int.le_of_lt beyond, by rw [nothing, List.append_nil]⟩

end Day

theorem DayRange.days_eq_upTo {range : DayRange} (room : range.last.ordinal < Day.lastOrdinal) :
    range.days = range.first.upTo range.last := by
  have count : min range.last.ordinal (Day.lastOrdinal - 1) = range.last.ordinal := by omega
  rw [DayRange.days, Day.upTo, count]

namespace Scale

/-- Consecutive units from the one that begins with a day to the first that reaches `last`. -/
inductive Tiling (scale : Scale) (last : Day) : Day → List (Day × Day) → Prop where
  | done {first : Day} : last < first → Tiling scale last first []
  | unit {first finish next : Day} {rest : List (Day × Day)} :
      first ≤ last → IsUnit scale first next → finish.ordinal + 1 = next.ordinal →
      Tiling scale last next rest → Tiling scale last first ((first, finish) :: rest)

namespace Tiling

variable {scale : Scale} {last first : Day} {units : List (Day × Day)}

/-- Every unit lies behind the first day and ends no earlier than it begins. -/
theorem ordered (tiling : Tiling scale last first units) :
    ∀ unit ∈ units, first ≤ unit.1 ∧ unit.1 ≤ unit.2 := by
  induction tiling with
  | done => simp
  | @unit first finish next rest within isUnit adjacent tiling induction =>
      have lt := isUnit.lt
      intro unit member
      rcases List.mem_cons.1 member with rfl | member
      · have ascending : first.ordinal ≤ finish.ordinal := by omega
        exact ⟨Int.le_refl _, ascending⟩
      · obtain ⟨behind, ascending⟩ := induction unit member
        rw [Day.le_def] at behind
        exact ⟨by rw [Day.le_def]; omega, ascending⟩

end Tiling

theorem units?_tiling {scale : Scale} {last first : Day}
    (room : last.ordinal + 31 ≤ Day.lastOrdinal)
    (start : scale.unitStart? first = some first) :
    ∃ units, scale.units? last first = some units ∧ Tiling scale last first units := by
  rw [units?]
  split
  next beyond => exact ⟨[], rfl, .done beyond⟩
  next notBeyond =>
    have within : first.ordinal ≤ last.ordinal := Int.not_lt.1 notBeyond
    obtain ⟨next, isUnit⟩ := exists_isUnit (by omega) start
    have lt := isUnit.lt
    have first_le := first.first_le
    have le_last := next.le_last
    obtain ⟨units, found, tiling⟩ := units?_tiling room isUnit.unitStart?_next
    let finish : Day := ⟨next.ordinal - 1, by omega, by omega⟩
    have finishFound : next.plus? (-1) = some finish := Day.plus?_eq_some.2 rfl
    refine ⟨(first, finish) :: units, ?_, .unit within isUnit ?_ tiling⟩
    · simp [isUnit.nextUnit?, Day.lt_def, lt, finishFound, found]
    · simp only [finish]
      omega
termination_by (last.ordinal - first.ordinal + 1).toNat
decreasing_by omega

theorem days_tiling {last first : Day} (room : last.ordinal + 31 ≤ Day.lastOrdinal) :
    Tiling .days last first ((first.upTo last).map fun day => (day, day)) := by
  by_cases beyond : last < first
  · rw [Day.upTo_of_lt beyond]
    exact .done beyond
  · have within : first.ordinal ≤ last.ordinal := Int.not_lt.1 beyond
    have firstRoom : first.ordinal + 31 ≤ Day.lastOrdinal := by omega
    obtain ⟨next, isUnit⟩ := isUnit_days firstRoom
    have adjacent := Day.plus?_eq_some.1 isUnit.nextUnit?
    have lt := isUnit.lt
    rw [Day.upTo_append (Int.le_of_lt lt) adjacent within, Day.upTo_self]
    exact .unit within isUnit adjacent (days_tiling room)
termination_by (last.ordinal - first.ordinal + 1).toNat
decreasing_by omega

end Scale

namespace Column

def span (column : Column) : Day × Day := (column.first, column.last)

/-- The columns over a range well within the calendar tile it from the unit of its first day on. -/
theorem over?_tiling {range : DayRange} (scale : Scale)
    (early : Day.firstOrdinal + 6 ≤ range.first.ordinal)
    (late : range.last.ordinal + 31 ≤ Day.lastOrdinal) :
    ∃ columns first, over? range scale = some columns ∧
      scale.unitStart? range.first = some first ∧ first ≤ range.first ∧
      Scale.Tiling scale range.last first (columns.map span) := by
  obtain ⟨first, found, le, start⟩ := Scale.exists_unitStart scale early
  obtain ⟨units, unitsFound, tiling⟩ := Scale.units?_tiling late start
  have ofUnits :
      (units.map fun unit => ofUnit scale range.first unit.1 unit.2).map span = units := by
    rw [List.map_map]
    exact List.map_id _
  cases scale with
  | days =>
      have days : range.days = range.first.upTo range.last := DayRange.days_eq_upTo (by omega)
      refine ⟨range.days.map ofDay, range.first, rfl, rfl, Int.le_refl _, ?_⟩
      rw [days, List.map_map]
      exact Scale.days_tiling late
  | weeks =>
      refine ⟨_, first, ?_, found, le, ofUnits ▸ tiling⟩
      simp [over?, found, unitsFound]
  | months =>
      refine ⟨_, first, ?_, found, le, ofUnits ▸ tiling⟩
      simp [over?, found, unitsFound]

end Column

end LoadChart
