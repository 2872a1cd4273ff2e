import LoadChart.Proofs.Layout.BarColumns
import LoadChart.Proofs.Timeline.Touching
import LoadChart.Resource.Lane

/-!
# Overallocated lanes show it

The hours that a resource offers on a day are never below those of no assignments.  So a day with
more hours assigned than available is covered by some assignment, and as it lies in a column, the
bar of that assignment is drawn.
-/

namespace LoadChart

/-- What lies above one zero does not lie below the other. -/
theorem not_lt_zero_of_zero_lt {number : Float.Model.UnpackedFloat}
    {sign other : Float.Model.UnpackedFloat.Sign}
    (above : (Float.Model.UnpackedFloat.zero sign).lt number = true) :
    number.lt (.zero other) = false := by
  cases number with
  | notANumber => rfl
  | zero own => rfl
  | infinity own =>
      cases own with
      | positive => rfl
      | negative => cases above
  | finite own mantissa exponent positive =>
      cases own with
      | positive => rfl
      | negative => cases above

/-- The sum of no hours is negative zero, and above no hours that are themselves above zero. -/
theorem not_lt_sumFloats_nil {hours : Float} (positive : 0 < hours) : ¬ hours < sumFloats [] := by
  intro below
  have zero : (0 : Float).toModel.unpack = .zero .positive := rfl
  have none : (sumFloats []).toModel.unpack = .zero .negative := rfl
  have above : (0 : Float).toModel.unpack.lt hours.toModel.unpack = true :=
    of_decide_eq_true positive
  have under : hours.toModel.unpack.lt (sumFloats []).toModel.unpack = true :=
    of_decide_eq_true below
  rw [zero] at above
  rw [none, not_lt_zero_of_zero_lt above] at under
  cases under

namespace Resource

theorem positiveCapacity_cases (resource : Resource) :
    resource.positiveCapacity = 0 ∨ 0 < resource.positiveCapacity := by
  unfold positiveCapacity
  split
  next positive => exact Or.inr positive
  · exact Or.inl rfl

theorem availableHours_cases (resource : Resource) (day : Day) :
    resource.availableHours day = 0 ∨ 0 < resource.availableHours day := by
  unfold availableHours
  split
  · split
    · exact resource.positiveCapacity_cases
    · exact Or.inl rfl
  · exact resource.positiveCapacity_cases

theorem not_availableHours_lt_sumFloats_nil (resource : Resource) (day : Day) :
    ¬ resource.availableHours day < sumFloats [] := by
  rcases resource.availableHours_cases day with none | positive
  · rw [none]
    decide
  · exact not_lt_sumFloats_nil positive

end Resource

theorem exists_covers_of_dailyPoint {resource : Resource} {assignments : List Assignment}
    {day : Day}
    (overallocated : (dailyPoint resource assignments day).isOverallocated = true) :
    ∃ assignment ∈ assignments, assignment.covers day = true := by
  by_contra none
  have idle : assignments.filter (·.covers day) = [] :=
    List.filter_eq_nil_iff.2 fun assignment member covers => none ⟨assignment, member, covers⟩
  have above : resource.availableHours day < assignedHours resource assignments day :=
    of_decide_eq_true overallocated
  rw [assignedHours, idle] at above
  exact resource.not_availableHours_lt_sumFloats_nil day above

namespace Lane

variable {resources : List Resource} {records : OrderedMap Identifier (List AssignmentRecord)}
  {range : DayRange} {scale : Scale} {columns : List Column} {lane : Lane}
  {assignment : Assignment} {day : Day}

theorem daily_of_mem_ofResources (member : lane ∈ ofResources resources records range) :
    ∃ resource, lane.daily = dailySeries resource lane.assignments range := by
  obtain ⟨resource, _, rfl⟩ := List.mem_map.1 member
  exact ⟨resource, rfl⟩

/-- An overallocated lane has such a day in its range, and an assignment at work on it. -/
theorem exists_covers_of_isOverallocated (member : lane ∈ ofResources resources records range)
    (overallocated : lane.isOverallocated = true) :
    ∃ day ∈ range.days, ∃ assignment ∈ lane.assignments,
      assignment.covers day = true ∧ lane.coversOverallocation assignment = true := by
  obtain ⟨resource, daily⟩ := daily_of_mem_ofResources member
  obtain ⟨point, isPoint, pointOver⟩ := List.any_eq_true.1 overallocated
  rw [daily] at isPoint
  obtain ⟨day, isDay, rfl⟩ := List.mem_map.1 isPoint
  obtain ⟨assignment, placed, covers⟩ := exists_covers_of_dailyPoint pointOver
  refine ⟨day, isDay, assignment, placed, covers, ?_⟩
  have isPoint : dailyPoint resource lane.assignments day ∈ lane.daily := by
    rw [daily]
    exact List.mem_map_of_mem isDay
  exact List.any_eq_true.2 ⟨_, List.mem_filter.2 ⟨isPoint, covers⟩, pointOver⟩

theorem isOverallocated_of_covers (covers : lane.coversOverallocation assignment = true) :
    lane.isOverallocated = true := by
  obtain ⟨point, isPoint, pointOver⟩ := List.any_eq_true.1 covers
  exact List.any_eq_true.2 ⟨point, (List.mem_filter.1 isPoint).1, pointOver⟩

theorem isSome_of?_of_covers (isTimeline : Column.over? range scale = some columns)
    (isDay : day ∈ range.days) (covers : assignment.covers day = true) (width : Float32) :
    (BarGeometry.of? columns assignment width).isSome = true := by
  obtain ⟨column, member, covered⟩ := Column.over?_covers isTimeline day isDay
  have touches : column.Touches assignment := ⟨day, covered, Or.inr covers⟩
  obtain ⟨index, found⟩ := List.getElem?_of_mem member
  obtain ⟨left, right, isSpan, _⟩ :=
    (BarGeometry.drawnOver_iff_touches (Column.over?_contiguous isTimeline)).2
      ⟨column, found, touches⟩
  obtain ⟨geometry, placed, _⟩ := BarGeometry.of?_eq_some_of_span? isSpan width
  rw [placed]
  rfl

/-- Over the columns of any range a lane is overallocated exactly if one of its assignments covers
an overallocated day and has a bar. -/
theorem isOverallocated_iff_exists_bar (isTimeline : Column.over? range scale = some columns)
    (member : lane ∈ ofResources resources records range) (width : Float32) :
    lane.isOverallocated = true ↔
      ∃ assignment ∈ lane.assignments, lane.coversOverallocation assignment = true ∧
        (BarGeometry.of? columns assignment width).isSome = true := by
  constructor
  · intro overallocated
    obtain ⟨day, isDay, assignment, placed, covers, coversOver⟩ :=
      exists_covers_of_isOverallocated member overallocated
    exact ⟨assignment, placed, coversOver, isSome_of?_of_covers isTimeline isDay covers width⟩
  · rintro ⟨assignment, _, coversOver, _⟩
    exact isOverallocated_of_covers coversOver

open BarGeometry (sampleDays sampleReversed)

/-- A resource that works on weekdays, with a holiday on the Tuesday. -/
def sampleResource : Resource :=
  (Resource.ofCode ⟨3⟩ "R" "Rigger" .labor).withCalendar
    (WorkCalendar.weekdays.withHoliday sampleReversed.start)

/-- A record without days, and one that starts on the holiday and is said to finish before. -/
def sampleRecords : List AssignmentRecord :=
  [⟨⟨1⟩, ⟨11⟩, ⟨3⟩, 2, none, none, none⟩,
    ⟨⟨2⟩, ⟨12⟩, ⟨3⟩, 0.5, some sampleReversed.start, some sampleReversed.finish, none⟩]

def sampleLanes : List Lane :=
  ofResources [sampleResource] (OrderedMap.empty.insert ⟨3⟩ sampleRecords) sampleDays

/-- The one lane of the sample is overallocated on the holiday, and shows a bar there. -/
theorem isOverallocated_iff_exists_bar_on_holiday :
    ∃ columns lane, Column.over? sampleDays .days = some columns ∧
      lane ∈ sampleLanes ∧ lane.isOverallocated = true ∧
      ∃ assignment ∈ lane.assignments, lane.coversOverallocation assignment = true ∧
        (BarGeometry.of? columns assignment 32).isSome = true := by
  have member : sampleLanes[0] ∈ sampleLanes := List.getElem_mem _
  have overallocated : sampleLanes[0].isOverallocated = true := by decide +kernel
  have isTimeline : Column.over? sampleDays .days =
      some (sampleDays.days.map Column.ofDay) := rfl
  exact ⟨_, _, isTimeline, member, overallocated,
    (isOverallocated_iff_exists_bar isTimeline member 32).1 overallocated⟩

end Lane

end LoadChart
