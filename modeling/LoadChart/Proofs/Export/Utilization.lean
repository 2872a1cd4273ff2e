import LoadChart.Export
import LoadChart.Proofs.Export.Delimited
import LoadChart.Proofs.Timeline.Touching
import Mathlib.Data.List.Forall2

/-!
# Exports that are read again

The table that is written for lanes and columns, read by the rules of delimited text, gives its
header and one record for each lane and each column that holds one of its days.
-/

namespace LoadChart

namespace Lane

def hasDayIn (lane : Lane) (column : Column) : Bool :=
  lane.daily.any fun point => column.covers point.day

/-- The days of a lane are those of a range. -/
def IsOver (lane : Lane) (range : DayRange) : Prop := lane.daily.map (·.day) = range.days

theorem ofResource_isOver (resource : Resource) (assignments : List Assignment) (range : DayRange) :
    (ofResource resource assignments range).IsOver range := by
  change (range.days.map (dailyPoint resource assignments)).map (·.day) = range.days
  rw [List.map_map]
  exact List.map_id' _

theorem sumPoints?_isSome (points : List UtilizationPoint) :
    (sumPoints? points).isSome = !points.isEmpty := by
  cases points <;> rfl

theorem columnPoint?_isSome (lane : Lane) (column : Column) :
    (lane.columnPoint? column).isSome = lane.hasDayIn column := by
  have some_iff : (lane.pointsBetween column.first column.last).isEmpty = false ↔
      lane.hasDayIn column = true := by
    rw [List.isEmpty_eq_false_iff_exists_mem, hasDayIn, List.any_eq_true]
    simp only [pointsBetween, List.mem_filter]
    rfl
  rw [columnPoint?, sumPoints?_isSome]
  cases points : (lane.pointsBetween column.first column.last).isEmpty with
  | true =>
      refine (Bool.eq_false_iff.2 fun has => ?_).symm
      rw [some_iff.2 has] at points
      cases points
  | false => exact (some_iff.1 points).symm

theorem IsOver.hasDayIn {lane : Lane} {range : DayRange} (isOver : lane.IsOver range)
    {scale : Scale} {columns : List Column} (found : Column.over? range scale = some columns)
    (room : range.last.ordinal < Day.lastOrdinal) :
    ∀ column ∈ columns, lane.hasDayIn column = true := by
  intro column member
  obtain ⟨day, isDay, covers⟩ := Column.over?_exists_day found room column member
  rw [← show lane.daily.map (·.day) = range.days from isOver] at isDay
  obtain ⟨point, isPoint, rfl⟩ := List.mem_map.1 isDay
  exact List.any_eq_true.2 ⟨point, isPoint, covers⟩

end Lane

namespace UtilizationExport

/-- Each lane with each column that holds one of its days, lane by lane and column by column. -/
def cells (lanes : List Lane) (columns : List Column) : List (Lane × Column) :=
  lanes.flatMap fun lane => (columns.filter lane.hasDayIn).map (lane, ·)

/-- Some fields tell a lane by its own code and name, and the figures of its days in a column. -/
def IsRecordOf (lane : Lane) (column : Column) (fields : List String) : Prop :=
  ∃ point, lane.columnPoint? column = some point ∧
    fields = [lane.code, lane.name, lane.category.label, point.day.slashText,
      fixedText 1 point.available, fixedText 1 point.assigned, fixedText 0 point.percent,
      if point.isOverallocated then "yes" else "no"]

theorem forall₂_laneRecords (lane : Lane) (columns : List Column) :
    List.Forall₂ (fun cell fields => IsRecordOf cell.1 cell.2 fields)
      ((columns.filter lane.hasDayIn).map (lane, ·))
      ((columns.filterMap lane.columnPoint?).map (record lane)) := by
  induction columns with
  | nil => exact .nil
  | cons column others induction =>
      have isSome := lane.columnPoint?_isSome column
      cases found : lane.columnPoint? column with
      | none =>
          rw [found] at isSome
          rw [List.filter_cons_of_neg (by simp [← isSome]), List.filterMap_cons_none found]
          exact induction
      | some point =>
          rw [found] at isSome
          rw [List.filter_cons_of_pos isSome.symm, List.filterMap_cons_some found]
          exact .cons ⟨point, found, rfl⟩ induction

def recordsOf (lanes : List Lane) (columns : List Column) : List (List String) :=
  lanes.flatMap fun lane => (columns.filterMap lane.columnPoint?).map (record lane)

theorem records?_of_ordered (lanes : List Lane) {columns : List Column}
    (ordered : ∀ column ∈ columns, column.first ≤ column.last) :
    records? lanes columns = some (recordsOf lanes columns) := by
  have allOrdered : columns.all (fun column => column.first ≤ column.last) = true := by
    simpa using ordered
  have ofLane : laneRecords? columns = fun lane =>
      some ((columns.filterMap lane.columnPoint?).map (record lane)) := by
    funext lane
    rw [laneRecords?, Lane.columnUtilization?, if_pos (by simp [allOrdered])]
    simp [List.filterMap_map]
  have ofLanes : lanes.mapM (laneRecords? columns) =
      some (lanes.map fun lane => (columns.filterMap lane.columnPoint?).map (record lane)) := by
    rw [ofLane]
    exact List.mapM_pure
  rw [records?, ofLanes]
  rfl

theorem forall₂_recordsOf (lanes : List Lane) (columns : List Column) :
    List.Forall₂ (fun cell fields => IsRecordOf cell.1 cell.2 fields)
      (cells lanes columns) (recordsOf lanes columns) := by
  induction lanes with
  | nil => exact .nil
  | cons lane others induction =>
      exact List.rel_append (forall₂_laneRecords lane columns) induction

theorem nil_not_mem_recordsOf (lanes : List Lane) (columns : List Column) :
    [] ∉ recordsOf lanes columns := by
  intro member
  obtain ⟨lane, _, ofLane⟩ := List.mem_flatMap.1 member
  obtain ⟨point, _, same⟩ := List.mem_map.1 ofLane
  cases same

theorem cells_length {lanes : List Lane} {columns : List Column}
    (all : ∀ lane ∈ lanes, ∀ column ∈ columns, lane.hasDayIn column = true) :
    (cells lanes columns).length = lanes.length * columns.length := by
  induction lanes with
  | nil => exact (Nat.zero_mul _).symm
  | cons lane others induction =>
      have ofOthers := induction fun other member => all other (List.mem_cons_of_mem _ member)
      have ofLane : columns.filter lane.hasDayIn = columns :=
        List.filter_eq_self.2 (all lane List.mem_cons_self)
      have parts : cells (lane :: others) columns =
          (columns.filter lane.hasDayIn).map (lane, ·) ++ cells others columns := List.flatMap_cons
      rw [parts, List.length_append, List.length_map, ofLane, ofOthers, List.length_cons,
        Nat.succ_mul, Nat.add_comm]

/-- Whatever the codes and names of the lanes hold, the written table is read as its header and the
records of the lanes with the columns that hold their days, in order and in the number that is told.
Over the columns of the range of the lanes there is a record for each lane with each column. -/
theorem export?_reads_back (lanes : List Lane) (columns : List Column)
    (ordered : ∀ column ∈ columns, column.first ≤ column.last) :
    ∃ text count records, export? lanes columns = some (text, count) ∧
      Delimited.readText? text = some (header :: records) ∧
      List.Forall₂ (fun cell fields => IsRecordOf cell.1 cell.2 fields)
        (cells lanes columns) records ∧
      count = records.length ∧
      ∀ range scale, Column.over? range scale = some columns →
        range.last.ordinal < Day.lastOrdinal → (∀ lane ∈ lanes, lane.IsOver range) →
          count = lanes.length * columns.length := by
  have tell := forall₂_recordsOf lanes columns
  refine ⟨text (recordsOf lanes columns), (recordsOf lanes columns).length, recordsOf lanes columns,
    ?_, ?_, tell, rfl, ?_⟩
  · rw [export?, records?_of_ordered lanes ordered]
    rfl
  · refine Delimited.readText?_writeRecords fun empty => ?_
    rcases List.mem_cons.1 empty with isHeader | isRecord
    · cases isHeader
    · exact nil_not_mem_recordsOf lanes columns isRecord
  · intro range scale found room isOver
    rw [← tell.length_eq]
    exact cells_length fun lane member => (isOver lane member).hasDayIn found room

def sampleDays : DayRange :=
  ⟨⟨740076, by decide, by decide⟩, ⟨740077, by decide, by decide⟩, by decide⟩

def sampleWeeks : List Column := (Column.over? sampleDays .weeks).getD []

/-- A lane whose code holds every mark of delimited text, and whose name holds nothing. -/
def sampleLane : Lane :=
  .ofResource (.ofCode ⟨1⟩ "a;\"b\"\r\n" "" .labor) [] sampleDays

theorem export?_reads_back_marks :
    sampleDays.first.weekdayIndex = 6 ∧
      (∀ column ∈ sampleWeeks, column.first ≤ column.last) ∧
      Column.over? sampleDays .weeks = some sampleWeeks ∧
      sampleDays.last.ordinal < Day.lastOrdinal ∧
      (∀ lane ∈ [sampleLane, sampleLane], lane.IsOver sampleDays) ∧
      ∃ text records, export? [sampleLane, sampleLane] sampleWeeks = some (text, 4) ∧
        Delimited.readText? text = some (header :: records) ∧
        List.Forall₂ (fun cell fields => IsRecordOf cell.1 cell.2 fields)
          (cells [sampleLane, sampleLane] sampleWeeks) records := by
  have inCalendar : (Column.over? sampleDays .weeks).isSome := by decide +kernel
  have found : Column.over? sampleDays .weeks = some sampleWeeks :=
    (Option.some_get inCalendar).symm.trans (congrArg some (Option.get_eq_getD _))
  have two : sampleWeeks.length = 2 := by decide +kernel
  have ordered := (Column.over?_contiguous found).ordered
  have isOver : ∀ lane ∈ [sampleLane, sampleLane], lane.IsOver sampleDays := by
    intro lane member
    obtain rfl : lane = sampleLane := by simpa using member
    exact Lane.ofResource_isOver _ _ sampleDays
  obtain ⟨text, count, records, exported, read, tell, _, all⟩ :=
    export?_reads_back [sampleLane, sampleLane] sampleWeeks ordered
  obtain rfl : count = 4 := by
    rw [all sampleDays .weeks found (by decide) isOver, two]
    rfl
  exact ⟨by decide, ordered, found, by decide, isOver, text, records, exported, read, tell⟩

end UtilizationExport

end LoadChart
