import LoadChart.Proofs.Application.RefusedDeletion
import LoadChart.Proofs.Resource.LostRecord

/-!
# Deletions are local

A deletion takes one record out of one list.  The grid built afterwards differs from the one before
only in the lanes of the resource with this list, and there only by one bar and by the points under
it.
-/

namespace LoadChart

/-- A grid has lost the bar of a record of a resource.  What is drawn of its lanes may differ. -/
structure Grid.Loses (resource : Identifier) (record : AssignmentRecord)
    (before after : Grid) : Prop where
  columns : after.columns = before.columns
  groups : after.groups = before.groups
  pools : after.pools = before.pools
  lanes : List.Forall₂
    (fun old new => if old.identifier = resource then old.Loses record new else new = old)
    before.lanes after.lanes
  unplaced : record.start = none → after.lanes = before.lanes

/-- A list loses its only record of an assignment, and the other lists stay. -/
structure LosesRecord (resource : Identifier) (record : AssignmentRecord)
    (before after : OrderedMap Identifier (List AssignmentRecord)) : Prop where
  only : ∀ records, before.find? resource = some records → record.IsOnly records
  find? : ∀ other, after.find? other =
    if other = resource then
      (before.find? other).map
        (List.filter fun own => decide (own.identifier ≠ record.identifier))
    else before.find? other

namespace LosesRecord

variable {identifier : Identifier} {record : AssignmentRecord}
  {before after : OrderedMap Identifier (List AssignmentRecord)}

theorem only_getD (loses : LosesRecord identifier record before after) :
    record.IsOnly ((before.find? identifier).getD []) := by
  cases found : before.find? identifier with
  | none =>
      intro other member
      cases member
  | some records => exact loses.only records found

theorem getD (loses : LosesRecord identifier record before after) :
    (after.find? identifier).getD [] =
      ((before.find? identifier).getD []).filter fun own =>
        own.identifier ≠ record.identifier := by
  rw [loses.find?, if_pos rfl]
  cases before.find? identifier <;> rfl

theorem lanes (loses : LosesRecord identifier record before after) (resources : List Resource)
    (range : DayRange) :
    List.Forall₂
      (fun old new => if old.identifier = identifier then old.Loses record new else new = old)
      (Lane.ofResources resources before range) (Lane.ofResources resources after range) := by
  apply List.forall₂_map_left_iff.2
  apply List.forall₂_map_right_iff.2
  apply List.forall₂_same.2
  intro resource _
  dsimp only
  split
  next own =>
    have same : resource.identifier = identifier := own
    rw [same, loses.getD]
    exact Lane.ofResource_loses loses.only_getD resource range
  next other =>
    have different : resource.identifier ≠ identifier := other
    rw [loses.find?, if_neg different]

theorem lanes_of_unplaced (loses : LosesRecord identifier record before after)
    (unplaced : record.start = none) (resources : List Resource) (range : DayRange) :
    Lane.ofResources resources after range = Lane.ofResources resources before range := by
  apply List.map_congr_left
  intro resource _
  by_cases same : resource.identifier = identifier
  · rw [same, loses.getD, loses.only_getD.filterMap_of_unplaced unplaced]
  · rw [loses.find?, if_neg same]

theorem build? (loses : LosesRecord identifier record before after) {view : ViewState}
    {resources : List Resource} {grid : Grid} (built : Grid.build? view resources before = some grid) :
    ∃ rebuilt, Grid.build? view resources after = some rebuilt ∧
      grid.Loses identifier record rebuilt := by
  obtain ⟨columns, found, rfl⟩ := Option.map_eq_some_iff.1 built
  refine ⟨_, Option.map_eq_some_iff.2 ⟨columns, found, rfl⟩, rfl, rfl, ?_, ?_, ?_⟩
  · dsimp only
    rw [knownPools_ofResources, knownPools_ofResources]
  · exact loses.lanes resources view.range
  · intro unplaced
    exact loses.lanes_of_unplaced unplaced resources view.range

end LosesRecord

namespace Application

/-- All lists together hold an assignment exactly once. -/
def HoldsOnce (app : Application) (assignment : Identifier) : Prop :=
  copies assignment app.records.values.flatten = 1

variable {app after : Application} {assignment : Identifier} {pending : PendingDeletion}
  {records : List AssignmentRecord}

theorem mem_values_records :
    records ∈ app.records.values ↔ ∃ resource, app.recordsOf? resource = some records := by
  simp only [OrderedMap.values, List.mem_map, Prod.exists, exists_eq_right, OrderedMap.mem_entries,
    find?_records]

theorem HoldsOnce.lists (once : app.HoldsOnce assignment) : app.Lists assignment := by
  have some : 0 < copies assignment app.records.values.flatten := by
    rw [once]
    exact Nat.one_pos
  obtain ⟨record, member, own⟩ := List.countP_pos_iff.1 some
  obtain ⟨records, isList, isRecord⟩ := List.mem_flatten.1 member
  obtain ⟨resource, found⟩ := mem_values_records.1 isList
  exact ⟨resource, records, found, record, isRecord, of_decide_eq_true own⟩

theorem HoldsOnce.copies_le {resource : Identifier} (once : app.HoldsOnce assignment)
    (found : app.recordsOf? resource = some records) : copies assignment records ≤ 1 := by
  have part := List.sublist_flatten_of_mem (mem_values_records.2 ⟨resource, found⟩)
  rw [← once]
  exact part.countP_le

theorem HoldsOnce.begins (once : app.HoldsOnce assignment) :
    ∃ pending, Begins assignment pending app (app.deleteAssignment assignment) := by
  rcases deleteAssignment_cases app assignment with ⟨absent, _⟩ | ⟨pending, _, begun⟩
  · have located := (locate?_isSome_iff app assignment).2 once.lists
    rw [absent] at located
    cases located
  · exact ⟨pending, begun⟩

/-- A deletion takes all records of an assignment that is held once out of their list. -/
theorem HoldsOnce.losesRecord (once : app.HoldsOnce assignment)
    (begun : Begins assignment pending app after) :
    LosesRecord pending.resource pending.record app.records after.records := by
  obtain ⟨records, found, atIndex⟩ := begun.held
  have gone : ∀ record ∈ takeOut pending records, record.identifier ≠ assignment := by
    apply copies_eq_zero_iff.1
    have single := once.copies_le found
    have counted := copies_takeOut atIndex assignment
    rw [if_pos begun.own] at counted
    omega
  have filtered : takeOut pending records =
      records.filter fun record => record.identifier ≠ pending.record.identifier := by
    rw [← filter_takeOut atIndex (by simp), List.filter_eq_self.2]
    intro record member
    rw [begun.own]
    exact decide_eq_true (gone record member)
  constructor
  · intro list isFound record member own
    rw [find?_records, found] at isFound
    cases isFound
    rcases eq_or_mem_takeOut atIndex member with same | left
    · exact same
    · exact absurd (own.trans begun.own) (gone record left)
  · intro other
    rw [find?_records, find?_records, begun.records]
    split
    next same => rw [same, found, Option.map_some, Option.map_some, filtered]
    next => rfl

theorem HoldsOnce.freshGrid? (once : app.HoldsOnce assignment)
    (begun : Begins assignment pending app (app.deleteAssignment assignment)) {grid : Grid}
    (built : app.freshGrid? = some grid) :
    ∃ rebuilt, (app.deleteAssignment assignment).freshGrid? = some rebuilt ∧
      grid.Loses pending.resource pending.record rebuilt := by
  have loses := once.losesRecord begun
  obtain ⟨_, _, _, _, _, written⟩ := app.deleteAssignment_writes assignment
  rw [Application.freshGrid?, written]
  rw [written] at loses
  exact loses.build? built

/-- Whenever an assignment is held once, its deletion leaves a grid with the columns, month headers
and pools of the grid before.  The lanes of other resources are the same.  In the lanes of the
resource that held the record all other bars stay in their order, and the points of the days outside
its bar are the same; and if the record has no bar, no lane changes at all. -/
theorem deletion_is_local (reachable : Reachable app) (once : app.HoldsOnce assignment) :
    ∃ resource records record, app.recordsOf? resource = some records ∧ record ∈ records ∧
      record.identifier = assignment ∧
      ∀ before, app.refresh? = some before →
        ∃ after, (app.perform (.deleteAssignment assignment)).refresh? = some after ∧
          before.grid.Loses resource record after.grid := by
  have current : GridCurrent app := reachable.induction GridCurrent.initial GridCurrent.step
  have currentAfter : GridCurrent (app.deleteAssignment assignment) :=
    current.of_follows (deleteAssignment_follows app assignment)
  obtain ⟨pending, begun⟩ := once.begins
  obtain ⟨records, found, atIndex⟩ := begun.held
  refine ⟨pending.resource, records, pending.record, found, List.mem_of_getElem? atIndex,
    begun.own, ?_⟩
  intro before refreshed
  rw [current.refresh?_eq] at refreshed
  obtain ⟨grid, built, rfl⟩ := Option.map_eq_some_iff.1 refreshed
  obtain ⟨rebuilt, builtAfter, loses⟩ := once.freshGrid? begun built
  rw [perform, currentAfter.refresh?_eq]
  exact ⟨_, Option.map_eq_some_iff.2 ⟨rebuilt, builtAfter, rfl⟩, loses⟩

/-- The first of two bars of a lane is deleted. -/
theorem deletion_is_local_pair :
    Reachable samplePair ∧ samplePair.HoldsOnce ⟨5⟩ ∧
      ∃ before after, samplePair.refresh? = some before ∧
        (samplePair.perform (.deleteAssignment ⟨5⟩)).refresh? = some after ∧
        before.grid.Loses ⟨1⟩ sampleRecord after.grid := by
  have reachable : Reachable samplePair :=
    (((Recorded.initial (some ⟨7⟩) sampleRange .days).event
      (.resources ⟨7⟩ (.ok [.ofCode ⟨1⟩ "R" "R" .labor]))).event
      (.assignments sampleKey (.ok [sampleRecord, sampleOther]))).reachable
  have once : samplePair.HoldsOnce ⟨5⟩ := rfl
  obtain ⟨before, refreshed⟩ : ∃ before, samplePair.refresh? = some before := ⟨_, rfl⟩
  obtain ⟨resource, records, record, found, member, own, deleted⟩ :=
    deletion_is_local reachable once
  have stored : (resource, records) ∈ [((⟨1⟩ : Identifier), [sampleRecord, sampleOther])] :=
    OrderedMap.mem_entries.2 ((find?_records samplePair resource).trans found)
  cases List.mem_singleton.1 stored
  have same : record = sampleRecord := by
    rcases List.mem_cons.1 member with same | member
    · exact same
    · rw [List.mem_singleton.1 member] at own
      exact absurd own (by decide)
  obtain ⟨after, rebuilt, loses⟩ := deleted before refreshed
  exact ⟨reachable, once, before, after, refreshed, rebuilt, same ▸ loses⟩

end Application

end LoadChart
