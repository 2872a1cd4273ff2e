import LoadChart.Filter
import Mathlib.Data.List.Forall2

/-!
# Lanes that lose a record

A record stands in the lane of its resource only, and there it counts only on the days of its bar.
So when a list loses the one record of an assignment, its lane loses at most one bar, and a point
that is not under this bar arises from the same additions as before.
-/

namespace LoadChart

/-- The bar of a record uses its resource on a day.  A record without a start has no bar. -/
def AssignmentRecord.Occupies (record : AssignmentRecord) (day : Day) : Prop :=
  ∃ bar, Assignment.ofRecord? record = some bar ∧ bar.covers day

/-- No other record of a list is for the assignment of this one. -/
def AssignmentRecord.IsOnly (record : AssignmentRecord) (records : List AssignmentRecord) : Prop :=
  ∀ other ∈ records, other.identifier = record.identifier → other = record

/-- A point is for the same day, and it is the same unless a record occupies the day. -/
structure UtilizationPoint.KeptBeside (record : AssignmentRecord)
    (before after : UtilizationPoint) : Prop where
  day : after.day = before.day
  same : ¬ record.Occupies before.day → after = before

/-- A lane has lost the bar of a record and nothing else. -/
structure Lane.Loses (record : AssignmentRecord) (before after : Lane) : Prop where
  heading : after = { before with assignments := after.assignments, daily := after.daily }
  assignments : after.assignments =
    before.assignments.filter fun bar => bar.identifier ≠ record.identifier
  daily : List.Forall₂ (UtilizationPoint.KeptBeside record) before.daily after.daily

variable {record : AssignmentRecord} {records : List AssignmentRecord}

theorem Assignment.ofRecord?_identifier {bar : Assignment} (placed : ofRecord? record = some bar) :
    bar.identifier = record.identifier := by
  obtain ⟨_, _, rfl⟩ := Option.map_eq_some_iff.1 placed
  rfl

/-- It makes no difference whether the records or the bars of an assignment are left out. -/
theorem filterMap_ofRecord?_filter (assignment : Identifier) (records : List AssignmentRecord) :
    (records.filter fun record => record.identifier ≠ assignment).filterMap
        Assignment.ofRecord? =
      (records.filterMap Assignment.ofRecord?).filter fun bar => bar.identifier ≠ assignment := by
  rw [List.filterMap_filter, List.filter_filterMap]
  apply List.filterMap_congr
  intro record _
  cases placed : Assignment.ofRecord? record with
  | none => simp
  | some bar =>
      rw [← Assignment.ofRecord?_identifier placed]
      by_cases same : bar.identifier = assignment <;> simp [Option.filter, same]

namespace AssignmentRecord.IsOnly

theorem placed (only : record.IsOnly records) {bar : Assignment}
    (member : bar ∈ records.filterMap Assignment.ofRecord?)
    (own : bar.identifier = record.identifier) : Assignment.ofRecord? record = some bar := by
  obtain ⟨other, isRecord, isBar⟩ := List.mem_filterMap.1 member
  have same := only other isRecord ((Assignment.ofRecord?_identifier isBar).symm.trans own)
  rwa [same] at isBar

theorem filterMap_of_unplaced (only : record.IsOnly records) (unplaced : record.start = none) :
    (records.filter fun other => other.identifier ≠ record.identifier).filterMap
        Assignment.ofRecord? =
      records.filterMap Assignment.ofRecord? := by
  rw [filterMap_ofRecord?_filter, List.filter_eq_self]
  intro bar member
  apply decide_eq_true
  intro own
  have isBar := only.placed member own
  rw [Assignment.ofRecord?, unplaced] at isBar
  cases isBar

end AssignmentRecord.IsOnly

/-- Bars that do not cover a day may be left out of its hours. -/
theorem assignedHours_filter {keep : Assignment → Bool} {bars : List Assignment} {day : Day}
    (beside : ∀ bar ∈ bars, bar.covers day → keep bar) (resource : Resource) :
    assignedHours resource (bars.filter keep) day = assignedHours resource bars day := by
  have covering : (bars.filter keep).filter (·.covers day) = bars.filter (·.covers day) := by
    rw [List.filter_filter]
    apply List.filter_congr
    intro bar member
    rw [Bool.and_eq_left_iff_imp]
    exact beside bar member
  rw [assignedHours, covering, ← assignedHours]

theorem dailyPoint_keptBeside (only : record.IsOnly records) (resource : Resource) (day : Day) :
    (dailyPoint resource (records.filterMap Assignment.ofRecord?) day).KeptBeside record
      (dailyPoint resource ((records.filterMap Assignment.ofRecord?).filter fun bar =>
        bar.identifier ≠ record.identifier) day) := by
  refine ⟨rfl, fun free => ?_⟩
  unfold dailyPoint
  rw [assignedHours_filter]
  intro bar member covers
  apply decide_eq_true
  intro own
  exact free ⟨bar, only.placed member own, covers⟩

theorem Lane.ofResource_loses (only : record.IsOnly records) (resource : Resource)
    (range : DayRange) :
    (ofResource resource (records.filterMap Assignment.ofRecord?) range).Loses record
      (ofResource resource ((records.filter fun other =>
        other.identifier ≠ record.identifier).filterMap Assignment.ofRecord?) range) := by
  rw [filterMap_ofRecord?_filter]
  refine ⟨rfl, rfl, ?_⟩
  apply List.forall₂_map_left_iff.2
  apply List.forall₂_map_right_iff.2
  apply List.forall₂_same.2
  intro day _
  exact dailyPoint_keptBeside only resource day

/-- The pools of the lanes are those of the resources, whatever the records are. -/
theorem knownPools_ofResources (resources : List Resource)
    (records : OrderedMap Identifier (List AssignmentRecord)) (range : DayRange) :
    knownPools (Lane.ofResources resources records range) =
      OrderedSet.ofList (resources.flatMap fun resource => resource.pools.toList) := by
  rw [knownPools, Lane.ofResources, List.flatMap_map]
  rfl

end LoadChart
