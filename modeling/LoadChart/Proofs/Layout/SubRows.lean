import LoadChart.Layout
import LoadChart.Proofs.Layout.Stacking
import LoadChart.Proofs.Timeline.Coverage

/-!
# Bars of one sub-row

Sub-rows are given out by days: a bar goes below another only where the two share a day.  Bars are
drawn over whole columns, so two bars of one sub-row can meet in the column of a week or a month
that holds the last day of one and the first day of the other, and nowhere else.
-/

namespace LoadChart

namespace LaneRows

/-- Whatever lies above it, a lane is given the rows of its bars that touch a column. -/
theorem stacked_of_mem_layFrom {columns : List Column} {rowHeight utilization top : Float32}
    {lanes : List Lane} {lane : Lane} {rows : LaneRows}
    (member : (lane, rows) ∈ lanes.zip (layFrom columns rowHeight utilization top lanes)) :
    rows.stacked = Stack.rows (visible columns lane) := by
  induction lanes generalizing top with
  | nil => cases member
  | cons next rest induction =>
      rw [layFrom, List.zip_cons_cons] at member
      rcases List.mem_cons.1 member with same | member
      · cases same
        rfl
      · exact induction member

end LaneRows

namespace Lane

/-- A lane whose assignments have identifiers of their own and finish no earlier than they
start. -/
structure IsProper (lane : Lane) : Prop where
  distinct : (lane.assignments.map (·.identifier)).Nodup
  ordered : ∀ assignment ∈ lane.assignments, assignment.start ≤ assignment.finish

/-- Two different assignments of a lane that are placed in one sub-row of it. -/
structure SubRowMates (columns : List Column) (lanes : List Lane) (rowHeight : Float32)
    (showUtilization : Bool) (lane : Lane) (left right : Assignment) : Prop where
  left_mem : left ∈ lane.assignments
  right_mem : right ∈ lane.assignments
  different : left.identifier ≠ right.identifier
  sameRow : ∃ rows row,
    (lane, rows) ∈ lanes.zip (LaneRows.ofLanes lanes columns rowHeight showUtilization) ∧
      ⟨left.identifier, row⟩ ∈ rows.stacked ∧ ⟨right.identifier, row⟩ ∈ rows.stacked

variable {columns : List Column} {lanes : List Lane} {rowHeight : Float32}
variable {showUtilization : Bool} {lane : Lane} {left right : Assignment}

theorem IsProper.eq_of_identifier_eq (proper : lane.IsProper) (leftMember : left ∈ lane.assignments)
    (rightMember : right ∈ lane.assignments) (same : left.identifier = right.identifier) :
    left = right :=
  List.inj_on_of_nodup_map proper.distinct leftMember rightMember same

theorem SubRowMates.symm
    (mates : SubRowMates columns lanes rowHeight showUtilization lane left right) :
    SubRowMates columns lanes rowHeight showUtilization lane right left := by
  obtain ⟨rows, row, member, leftStacked, rightStacked⟩ := mates.sameRow
  exact ⟨mates.right_mem, mates.left_mem, mates.different.symm,
    rows, row, member, rightStacked, leftStacked⟩

theorem SubRowMates.apart
    (mates : SubRowMates columns lanes rowHeight showUtilization lane left right)
    (proper : lane.IsProper) : left.finish < right.start ∨ right.finish < left.start := by
  obtain ⟨rows, row, member, leftStacked, rightStacked⟩ := mates.sameRow
  rw [LaneRows.stacked_of_mem_layFrom member] at leftStacked rightStacked
  obtain ⟨leftOwn, leftVisible, leftSame, leftPlaced⟩ := Stack.exists_placed leftStacked
  obtain ⟨rightOwn, rightVisible, rightSame, rightPlaced⟩ := Stack.exists_placed rightStacked
  obtain rfl := proper.eq_of_identifier_eq (List.mem_filter.1 leftVisible).1 mates.left_mem leftSame
  obtain rfl :=
    proper.eq_of_identifier_eq (List.mem_filter.1 rightVisible).1 mates.right_mem rightSame
  have different : (leftOwn, row) ≠ (rightOwn, row) := fun same =>
    mates.different (congrArg (fun pair => pair.1.identifier) same)
  rw [← Assignment.spanEnd_eq (proper.ordered _ mates.left_mem),
    ← Assignment.spanEnd_eq (proper.ordered _ mates.right_mem)]
  exact Stack.placed_apart leftPlaced rightPlaced different rfl

end Lane

namespace BarGeometry

/-- A column holds the end of one assignment and the start of another that begins later. -/
def Meeting (earlier later : Assignment) (column : Column) : Prop :=
  earlier.finish < later.start ∧ column.covers earlier.finish = true ∧
    column.covers later.start = true

/-- Two bars, of which one finishes before the other starts, are both drawn over the columns that
hold this finish and this start. -/
theorem both_drawnOver_iff {columns : List Column} (contiguous : Column.Contiguous columns)
    {earlier later : Assignment} (earlierOrdered : earlier.start ≤ earlier.finish)
    (laterOrdered : later.start ≤ later.finish) (apart : earlier.finish < later.start)
    (index : Nat) :
    DrawnOver columns earlier index ∧ DrawnOver columns later index ↔
      ∃ column, columns[index]? = some column ∧ Meeting earlier later column := by
  rw [drawnOver_iff contiguous, drawnOver_iff contiguous, Assignment.spanEnd_eq earlierOrdered,
    Assignment.spanEnd_eq laterOrdered]
  constructor
  · rintro ⟨⟨column, found, low, _⟩, ⟨other, otherFound, _, high⟩⟩
    cases Option.some.inj (found.symm.trans otherFound)
    refine ⟨column, found, apart, Column.covers_iff.2 ⟨low, ?_⟩, Column.covers_iff.2 ⟨?_, high⟩⟩
    all_goals
      simp only [Day.le_def, Day.lt_def] at *
      omega
  · rintro ⟨column, found, _, finishCovered, startCovered⟩
    obtain ⟨low, finishHigh⟩ := Column.covers_iff.1 finishCovered
    obtain ⟨startLow, high⟩ := Column.covers_iff.1 startCovered
    refine ⟨⟨column, found, low, Int.le_trans earlierOrdered finishHigh⟩,
      ⟨column, found, Int.le_trans startLow laterOrdered, high⟩⟩

/-- Two assignments without a common day, whose bars share a column just where it holds the end of
one and the start of the other, which happens in no second column. -/
structure NearlyDisjoint (columns : List Column) (left right : Assignment) : Prop where
  shareNoDay : ∀ day, ¬ (left.covers day = true ∧ right.covers day = true)
  both_iff : ∀ index, DrawnOver columns left index ∧ DrawnOver columns right index ↔
    ∃ column, columns[index]? = some column ∧
      (Meeting left right column ∨ Meeting right left column)
  index_unique : ∀ index other,
    DrawnOver columns left index ∧ DrawnOver columns right index →
      DrawnOver columns left other ∧ DrawnOver columns right other → index = other

theorem NearlyDisjoint.symm {columns : List Column} {left right : Assignment}
    (nearly : NearlyDisjoint columns left right) : NearlyDisjoint columns right left where
  shareNoDay day := fun ⟨rightCovers, leftCovers⟩ => nearly.shareNoDay day ⟨leftCovers, rightCovers⟩
  both_iff index := by
    rw [and_comm, nearly.both_iff]
    simp only [or_comm]
  index_unique index other both otherBoth :=
    nearly.index_unique index other both.symm otherBoth.symm

theorem nearlyDisjoint_of_lt {columns : List Column} (contiguous : Column.Contiguous columns)
    {earlier later : Assignment} (earlierOrdered : earlier.start ≤ earlier.finish)
    (laterOrdered : later.start ≤ later.finish) (apart : earlier.finish < later.start) :
    NearlyDisjoint columns earlier later := by
  have both := both_drawnOver_iff contiguous earlierOrdered laterOrdered apart
  refine ⟨?_, ?_, ?_⟩
  · rintro day ⟨earlierCovers, laterCovers⟩
    simp only [Assignment.covers, Bool.and_eq_true, decide_eq_true_eq, Day.le_def, Day.lt_def] at *
    omega
  · intro index
    rw [both index]
    have noOther : ∀ column, ¬ Meeting later earlier column := by
      intro column meeting
      have reversed := meeting.1
      simp only [Day.le_def, Day.lt_def] at *
      omega
    simp only [noOther, or_false]
  · intro index other drawn otherDrawn
    obtain ⟨column, found, meeting⟩ := (both index).1 drawn
    obtain ⟨otherColumn, otherFound, otherMeeting⟩ := (both other).1 otherDrawn
    exact contiguous.ascending.index_unique found otherFound meeting.2.1 otherMeeting.2.1

theorem not_meeting_of_first_eq_last {column : Column} (single : column.first = column.last)
    (earlier later : Assignment) : ¬ Meeting earlier later column := by
  rintro ⟨apart, finishCovered, startCovered⟩
  obtain ⟨low, _⟩ := Column.covers_iff.1 finishCovered
  obtain ⟨_, high⟩ := Column.covers_iff.1 startCovered
  rw [single] at low
  simp only [Day.le_def, Day.lt_def] at *
  omega

/-- Two bars of one sub-row share at most one column, which holds the end of one and the start of
the other.  Over single days they share none. -/
theorem subRow_mates_nearly_disjoint {range : DayRange} {scale : Scale} {columns : List Column}
    (isTimeline : Column.over? range scale = some columns) {lanes : List Lane}
    {rowHeight : Float32} {showUtilization : Bool} {lane : Lane} (proper : lane.IsProper)
    {left right : Assignment}
    (mates : lane.SubRowMates columns lanes rowHeight showUtilization left right) :
    NearlyDisjoint columns left right ∧
      (scale = .days →
        ∀ index, ¬ (DrawnOver columns left index ∧ DrawnOver columns right index)) := by
  have contiguous := Column.over?_contiguous isTimeline
  have leftOrdered := proper.ordered left mates.left_mem
  have rightOrdered := proper.ordered right mates.right_mem
  have nearly : NearlyDisjoint columns left right := by
    rcases mates.apart proper with before | behind
    · exact nearlyDisjoint_of_lt contiguous leftOrdered rightOrdered before
    · exact (nearlyDisjoint_of_lt contiguous rightOrdered leftOrdered behind).symm
  refine ⟨nearly, ?_⟩
  rintro rfl index both
  obtain ⟨column, found, meeting⟩ := (nearly.both_iff index).1 both
  cases isTimeline
  obtain ⟨day, _, rfl⟩ := List.mem_map.1 (List.mem_of_getElem? found)
  rcases meeting with meeting | meeting
  · exact not_meeting_of_first_eq_last rfl left right meeting
  · exact not_meeting_of_first_eq_last rfl right left meeting

/-- The week from Monday, 2 February 2026, to Sunday. -/
def sampleWeek : DayRange :=
  ⟨⟨740014, by decide, by decide⟩, ⟨740020, by decide, by decide⟩, by decide⟩

def sampleMonday : Assignment := .ofCode ⟨1⟩ ⟨11⟩ "A" sampleWeek.first sampleWeek.first 1

def sampleSunday : Assignment := .ofCode ⟨2⟩ ⟨12⟩ "B" sampleWeek.last sampleWeek.last 1

def sampleLane : Lane :=
  ⟨⟨3⟩, "R", "R", .labor, 8, OrderedSet.empty, [sampleMonday, sampleSunday], []⟩

theorem sampleLane_isProper : sampleLane.IsProper where
  distinct := by decide
  ordered := by decide

/-- Both bars are drawn over the one column of the week, and in the first sub-row. -/
theorem sampleLane_mates (rowHeight : Float32) (showUtilization : Bool) :
    ∃ columns, Column.over? sampleWeek .weeks = some columns ∧
      sampleLane.SubRowMates columns [sampleLane] rowHeight showUtilization
        sampleMonday sampleSunday ∧
      DrawnOver columns sampleMonday 0 ∧ DrawnOver columns sampleSunday 0 := by
  obtain ⟨columns, found, timeline⟩ :=
    Column.over?_isTimeline sampleWeek .weeks (by decide) (by decide)
  have count : Scale.weeks.unitCount sampleWeek.first sampleWeek.last = 1 := by decide
  have length := timeline.count
  obtain ⟨week, rfl⟩ := List.length_eq_one_iff.1 (by omega : columns.length = 1)
  obtain ⟨_, head, coversMonday⟩ := timeline.head
  obtain ⟨_, getLast, coversSunday⟩ := timeline.getLast
  cases head
  cases getLast
  obtain ⟨low, mondayHigh⟩ := Column.covers_iff.1 coversMonday
  obtain ⟨sundayLow, high⟩ := Column.covers_iff.1 coversSunday
  have contiguous := Column.over?_contiguous found
  have monday : DrawnOver [week] sampleMonday 0 :=
    (drawnOver_iff contiguous).2 ⟨week, rfl, low, mondayHigh⟩
  have sunday : DrawnOver [week] sampleSunday 0 :=
    (drawnOver_iff contiguous).2 ⟨week, rfl, sundayLow, high⟩
  have visible : LaneRows.visible [week] sampleLane = [sampleMonday, sampleSunday] := by
    obtain ⟨left, right, isSpan, _⟩ := monday
    obtain ⟨_, mondayPlaced, _⟩ := of?_eq_some_of_span? isSpan 1
    obtain ⟨left, right, isSpan, _⟩ := sunday
    obtain ⟨_, sundayPlaced, _⟩ := of?_eq_some_of_span? isSpan 1
    simp [LaneRows.visible, sampleLane, mondayPlaced, sundayPlaced]
  have rows : Stack.rows [sampleMonday, sampleSunday] = [⟨⟨1⟩, 0⟩, ⟨⟨2⟩, 0⟩] := by
    rw [Stack.rows, List.mergeSort_of_pairwise (by decide)]
    decide
  refine ⟨[week], found, ⟨?_, ?_, by decide, _, 0, List.mem_cons_self, ?_, ?_⟩, monday, sunday⟩
  · exact List.mem_cons_self
  · exact List.mem_cons_of_mem _ List.mem_cons_self
  all_goals
    simp only [visible, rows]
    decide

/-- Bars of one sub-row do not always have columns of their own. -/
theorem subRow_mates_not_always_disjoint :
    ¬ ∀ (range : DayRange) (scale : Scale) (columns : List Column),
      Column.over? range scale = some columns →
        ∀ (lanes : List Lane) (rowHeight : Float32) (showUtilization : Bool) (lane : Lane),
          lane.IsProper → ∀ left right : Assignment,
            lane.SubRowMates columns lanes rowHeight showUtilization left right →
              ∀ index, ¬ (DrawnOver columns left index ∧ DrawnOver columns right index) := by
  intro disjoint
  obtain ⟨columns, found, mates, both⟩ := sampleLane_mates 22 true
  exact disjoint sampleWeek .weeks columns found [sampleLane] 22 true sampleLane
    sampleLane_isProper sampleMonday sampleSunday mates 0 both

/-- In the sample week both bars are drawn over the first column and over no other. -/
theorem subRow_mates_nearly_disjoint_in_week :
    ∃ columns, Column.over? sampleWeek .weeks = some columns ∧ sampleLane.IsProper ∧
      sampleLane.SubRowMates columns [sampleLane] 22 true sampleMonday sampleSunday ∧
      NearlyDisjoint columns sampleMonday sampleSunday ∧
      ∀ index, DrawnOver columns sampleMonday index ∧ DrawnOver columns sampleSunday index ↔
        index = 0 := by
  obtain ⟨columns, found, mates, both⟩ := sampleLane_mates 22 true
  obtain ⟨nearly, _⟩ := subRow_mates_nearly_disjoint found sampleLane_isProper mates
  refine ⟨columns, found, sampleLane_isProper, mates, nearly, fun index => ⟨?_, ?_⟩⟩
  · exact fun drawn => nearly.index_unique index 0 drawn both
  · rintro rfl
    exact both

end BarGeometry

end LoadChart
