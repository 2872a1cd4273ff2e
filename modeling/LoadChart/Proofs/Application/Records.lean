import LoadChart.Proofs.Application.ConfirmedDeletion
import LoadChart.Proofs.Application.Writes
import LoadChart.Proofs.View.Choice
import Mathlib.Data.List.Nodup

/-!
# What steps do to the records

The lists of records and the deletions under way are changed by a deletion, by the answer to one,
and by a list of resources or assignments that counts.  Everything else keeps them.
-/

namespace LoadChart

/-- The event is an answer with a list of resources or of assignments. -/
def Event.BringsList : Event → Prop
  | .resources _ (.ok _) | .assignments _ (.ok _) => True
  | _ => False

namespace Application

/-- The lists of records and the deletions under way are kept. -/
structure KeepsRecords (before after : Application) : Prop where
  records : ∀ resource, after.recordsOf? resource = before.recordsOf? resource
  pending : after.pending = before.pending

theorem KeepsRecords.trans {first second third : Application} (left : KeepsRecords first second)
    (right : KeepsRecords second third) : KeepsRecords first third where
  records resource := (right.records resource).trans (left.records resource)
  pending := right.pending.trans left.pending

theorem KeepsInputs.keepsRecords {before after : Application} (kept : KeepsInputs before after)
    (pending : after.pending = before.pending) : KeepsRecords before after :=
  ⟨kept.records, pending⟩

theorem perform_keepsRecords {effect : Effect} (app : Application)
    (notDeletion : ∀ assignment, effect ≠ .deleteAssignment assignment) :
    KeepsRecords app (app.perform effect) := by
  cases effect with
  | fetchAssignments =>
      exact (requestAssignments_keepsInputs app).keepsRecords (requestAssignments_pending app)
  | fetchHistogram =>
      exact (requestHistogram_keepsInputs app).keepsRecords (requestHistogram_pending app)
  | refetch => exact (refetchAll_keepsInputs app).keepsRecords (refetchAll_pending app)
  | deleteAssignment assignment => exact absurd rfl (notDeletion assignment)
  | leveling ticket =>
      exact (sendLeveling_keepsInputs app ticket).keepsRecords (sendLeveling_pending app ticket)
  | exportUtilization =>
      simp only [perform]
      split
      all_goals exact ⟨fun _ => rfl, rfl⟩
  | openSettingsFolder | showAbout | notify => exact ⟨fun _ => rfl, rfl⟩

theorem receiveHistogram_keepsRecords (app : Application) (key : HistogramKey)
    (answer : Except Failure Histogram) : KeepsRecords app (app.receiveHistogram key answer) :=
  (receiveHistogram_keepsInputs app key answer).keepsRecords
    (receiveHistogram_pending app key answer)

theorem receiveLeveling_keepsRecords (app : Application) (ticket : LevelingTicket)
    (answer : Except Failure LevelingOutcome) :
    KeepsRecords app (app.receiveLeveling ticket answer) :=
  (receiveLeveling_keepsInputs app ticket answer).keepsRecords
    (receiveLeveling_pending app ticket answer)

theorem refresh?_keepsRecords {before after : Application} (done : before.refresh? = some after) :
    KeepsRecords before after := by
  obtain ⟨grid, gridKey, rfl⟩ := refresh?_writes done
  exact ⟨fun _ => rfl, rfl⟩

theorem receive_keepsRecords {event : Event} (app : Application) (noList : ¬ event.BringsList)
    (noDeletion : ∀ resource assignment answer, event ≠ .deleted resource assignment answer) :
    KeepsRecords app (app.receive event) := by
  cases event with
  | resources program answer =>
      cases answer with
      | ok list => exact absurd trivial noList
      | error failure =>
          refine ⟨?_, receiveResources_pending app program _⟩
          simp only [receive, receiveResources]
          split
          · exact fun _ => rfl
          · split <;> exact fun _ => rfl
  | assignments key answer =>
      cases answer with
      | ok records => exact absurd trivial noList
      | error failure =>
          refine ⟨?_, receiveAssignments_pending app key _⟩
          obtain ⟨_, _, written⟩ := receiveAssignments_writes app key (.error failure)
          rw [receive, written]
          apply recordsOf?_insert
          exact Query.resolve_value?_of_error _ key failure.message
  | histogram key answer => exact receiveHistogram_keepsRecords app key answer
  | leveling ticket answer => exact receiveLeveling_keepsRecords app ticket answer
  | deleted resource assignment answer => exact absurd rfl (noDeletion resource assignment answer)

theorem run?_keepsRecords {before after : Application} {command : Command}
    (done : before.run? command = some after)
    (notDeletion : ∀ assignment, command ≠ .bar (.delete assignment)) :
    KeepsRecords before after := by
  obtain ⟨⟨view, effects⟩, dispatched, performed⟩ := Option.map_eq_some_iff.1 done
  subst performed
  have harmless := ViewState.dispatch?_not_delete dispatched notDeletion
  have start : KeepsRecords before { before with view } := ⟨fun _ => rfl, rfl⟩
  apply List.foldlRecOn effects perform start
  intro app kept effect member
  apply kept.trans
  apply perform_keepsRecords
  rintro assignment rfl
  exact harmless assignment member

/-- What deletions keep, and whatever else keeps the records, is kept by every command. -/
theorem run?_of_kept {invariant : Application → Prop}
    (kept : ∀ before after, KeepsRecords before after → invariant before → invariant after)
    (deleted : ∀ app assignment, invariant app → invariant (app.deleteAssignment assignment))
    {before after : Application} {command : Command} (done : before.run? command = some after)
    (held : invariant before) : invariant after := by
  obtain ⟨⟨view, effects⟩, _, performed⟩ := Option.map_eq_some_iff.1 done
  subst performed
  have start := kept before { before with view } ⟨fun _ => rfl, rfl⟩ held
  apply List.foldlRecOn effects perform start
  intro app held effect _
  by_cases deletion : ∃ assignment, effect = .deleteAssignment assignment
  · obtain ⟨assignment, rfl⟩ := deletion
    exact deleted app assignment held
  · apply kept app _ _ held
    exact perform_keepsRecords app fun assignment same => deletion ⟨assignment, same⟩

/-- No two records of a list are for the same assignment. -/
def DistinctRecords (records : List AssignmentRecord) : Prop :=
  (records.map AssignmentRecord.identifier).Nodup

section
variable {pending : PendingDeletion} {records : List AssignmentRecord} {record : AssignmentRecord}

theorem filter_insertIdx_of_not {keep : AssignmentRecord → Bool} (dropped : ¬ keep record)
    (index : Nat) : (records.insertIdx index record).filter keep = records.filter keep := by
  induction records generalizing index with
  | nil => cases index <;> simp [dropped]
  | cons head tail induction =>
      cases index with
      | zero => simp [dropped]
      | succ index => simp [List.filter_cons, induction]

theorem mem_of_mem_takeOut (member : record ∈ takeOut pending records) : record ∈ records :=
  List.mem_of_mem_eraseIdx member

theorem eq_or_mem_takeOut (found : records[pending.index]? = some pending.record)
    (member : record ∈ records) : record = pending.record ∨ record ∈ takeOut pending records := by
  obtain ⟨inside, same⟩ := List.getElem?_eq_some_iff.1 found
  have permutation := List.getElem_cons_eraseIdx_perm inside
  rw [same] at permutation
  exact List.mem_cons.1 (permutation.mem_iff.2 member)

theorem nodup_takeOut (distinct : DistinctRecords records) :
    DistinctRecords (takeOut pending records) :=
  ((List.eraseIdx_sublist records pending.index).map _).nodup distinct

theorem insertIdx_takeOut (found : records[pending.index]? = some pending.record) :
    (takeOut pending records).insertIdx pending.index pending.record = records := by
  obtain ⟨inside, same⟩ := List.getElem?_eq_some_iff.1 found
  rw [← same]
  exact List.insertIdx_eraseIdx_getElem inside

theorem filter_takeOut {keep : AssignmentRecord → Bool}
    (found : records[pending.index]? = some pending.record) (dropped : ¬ keep pending.record) :
    (takeOut pending records).filter keep = records.filter keep := by
  rw [← filter_insertIdx_of_not dropped pending.index, insertIdx_takeOut found]

/-- In a list with distinct identifiers the record is taken out with its identifier. -/
theorem not_mem_takeOut (found : records[pending.index]? = some pending.record)
    (distinct : DistinctRecords records) :
    ∀ record ∈ takeOut pending records, record.identifier ≠ pending.record.identifier := by
  obtain ⟨inside, same⟩ := List.getElem?_eq_some_iff.1 found
  have permutation := (List.getElem_cons_eraseIdx_perm inside).map AssignmentRecord.identifier
  rw [same, List.map_cons] at permutation
  have fresh := (List.nodup_cons.1 (permutation.nodup_iff.2 distinct)).1
  intro record member equal
  exact fresh (equal ▸ List.mem_map_of_mem member)

theorem takeOut_eq_filter (found : records[pending.index]? = some pending.record)
    (distinct : DistinctRecords records) :
    takeOut pending records =
      records.filter fun record => record.identifier ≠ pending.record.identifier := by
  rw [← filter_takeOut found (by simp), List.filter_eq_self.2]
  intro record member
  exact decide_eq_true (not_mem_takeOut found distinct record member)

theorem putBack_of_holds
    (holds : ∃ record ∈ records, record.identifier = pending.record.identifier) :
    putBack pending records = records := by
  apply if_pos
  simpa using holds

theorem putBack_of_lacks
    (lacks : ∀ record ∈ records, record.identifier ≠ pending.record.identifier) :
    putBack pending records =
      records.insertIdx (min pending.index records.length) pending.record := by
  apply if_neg
  simpa using lacks

theorem putBack_perm (lacks : ∀ record ∈ records, record.identifier ≠ pending.record.identifier) :
    (putBack pending records).Perm (pending.record :: records) := by
  rw [putBack_of_lacks lacks]
  exact List.perm_insertIdx _ _ (Nat.min_le_right _ _)

theorem eq_or_mem_of_mem_putBack (member : record ∈ putBack pending records) :
    record = pending.record ∨ record ∈ records := by
  unfold putBack at member
  split at member
  · exact Or.inr member
  · exact (List.mem_insertIdx (Nat.min_le_right _ _)).1 member

theorem filter_putBack {keep : AssignmentRecord → Bool} (dropped : ¬ keep pending.record) :
    (putBack pending records).filter keep = records.filter keep := by
  unfold putBack
  split
  · rfl
  · exact filter_insertIdx_of_not dropped _

theorem nodup_putBack (distinct : DistinctRecords records) :
    DistinctRecords (putBack pending records) := by
  by_cases holds : ∃ record ∈ records, record.identifier = pending.record.identifier
  · rwa [putBack_of_holds holds]
  · have lacks : ∀ record ∈ records, record.identifier ≠ pending.record.identifier :=
      fun record member same => holds ⟨record, member, same⟩
    rw [DistinctRecords, ((putBack_perm lacks).map _).nodup_iff, List.map_cons, List.nodup_cons]
    refine ⟨?_, distinct⟩
    simpa using lacks

/-- In a list with distinct identifiers there is then exactly one copy. -/
theorem copies_putBack_self (distinct : DistinctRecords records) :
    copies pending.record.identifier (putBack pending records) = 1 := by
  have counted : copies pending.record.identifier (putBack pending records) =
      ((putBack pending records).map AssignmentRecord.identifier).count
        pending.record.identifier := by
    rw [copies, List.count, List.countP_map]
    rfl
  rw [counted]
  apply List.count_eq_one_of_mem (nodup_putBack distinct)
  by_cases holds : ∃ record ∈ records, record.identifier = pending.record.identifier
  · rw [putBack_of_holds holds]
    exact List.mem_map.2 holds
  · have lacks : ∀ record ∈ records, record.identifier ≠ pending.record.identifier :=
      fun record member same => holds ⟨record, member, same⟩
    exact List.mem_map_of_mem ((putBack_perm lacks).mem_iff.2 List.mem_cons_self)

theorem putBack_takeOut (found : records[pending.index]? = some pending.record)
    (distinct : DistinctRecords records) :
    putBack pending (takeOut pending records) = records := by
  obtain ⟨inside, _⟩ := List.getElem?_eq_some_iff.1 found
  have place : min pending.index (takeOut pending records).length = pending.index := by
    rw [takeOut, List.length_eraseIdx_of_lt inside]
    omega
  rw [putBack_of_lacks (not_mem_takeOut found distinct), place, insertIdx_takeOut found]

end

/-- A deletion has begun: the record is out of its list and kept with the deletion. -/
structure Begins (assignment : Identifier) (pending : PendingDeletion)
    (before after : Application) : Prop where
  own : pending.record.identifier = assignment
  held : ∃ records, before.recordsOf? pending.resource = some records ∧
    records[pending.index]? = some pending.record
  records : ∀ resource, after.recordsOf? resource =
    if resource = pending.resource then (before.recordsOf? resource).map (takeOut pending)
    else before.recordsOf? resource
  pending : after.pending = before.pending.insert assignment pending

structure Confirms (assignment : Identifier) (pending : PendingDeletion)
    (before after : Application) : Prop where
  isPending : before.pending.find? assignment = some pending
  records : ∀ resource, after.recordsOf? resource = before.recordsOf? resource
  pending : after.pending = before.pending.erase assignment

/-- A deletion was refused: the record is back in its list. -/
structure Refuses (assignment : Identifier) (pending : PendingDeletion)
    (before after : Application) : Prop where
  isPending : before.pending.find? assignment = some pending
  records : ∀ resource, after.recordsOf? resource =
    if resource = pending.resource then (before.recordsOf? resource).map (putBack pending)
    else before.recordsOf? resource
  pending : after.pending = before.pending.erase assignment

/-- An assignment is located exactly if some list holds it. -/
theorem locate?_isSome_iff (app : Application) (assignment : Identifier) :
    (locate? app.assignments assignment).isSome ↔ app.Lists assignment := by
  constructor
  · intro located
    obtain ⟨pending, isLocated⟩ := Option.isSome_iff_exists.1 located
    obtain ⟨own, records, found, atIndex⟩ := locate?_eq_some isLocated
    exact ⟨_, records, found, _, List.mem_of_getElem? atIndex, own⟩
  · rintro ⟨resource, records, found, record, member, own⟩
    obtain ⟨query, stored, valued⟩ := Option.bind_eq_some_iff.1 found
    obtain ⟨index, place⟩ : ∃ index, placeOf? records assignment = some index := by
      apply Option.isSome_iff_exists.1
      rw [placeOf?, List.findIdx?_isSome]
      exact List.any_eq_true.2 ⟨record, member, decide_eq_true own⟩
    obtain ⟨inside, _⟩ := List.findIdx?_eq_some_iff_getElem.1 place
    apply List.findSome?_isSome_iff.2
    refine ⟨(resource, query), OrderedMap.mem_entries.2 stored, ?_⟩
    simp [valued, place, inside]

theorem deleteAssignment_cases (app : Application) (assignment : Identifier) :
    (locate? app.assignments assignment = none ∧ app.deleteAssignment assignment = app) ∨
      ∃ pending, locate? app.assignments assignment = some pending ∧
        Begins assignment pending app (app.deleteAssignment assignment) := by
  cases located : locate? app.assignments assignment with
  | none => exact Or.inl ⟨rfl, by simp only [deleteAssignment, located]⟩
  | some pending =>
      obtain ⟨own, held⟩ := locate?_eq_some located
      refine Or.inr ⟨pending, rfl, own, held, ?_, ?_⟩
      · intro resource
        simp only [deleteAssignment, located]
        exact recordsOf?_editRecords app _ _ _
      · simp only [deleteAssignment, located]

theorem finishDeletion_refuses {app : Application} {assignment : Identifier}
    {pending : PendingDeletion} (isPending : app.pending.find? assignment = some pending)
    (failure : Failure) :
    Refuses assignment pending app (app.finishDeletion assignment (.error failure)) := by
  refine ⟨isPending, ?_, ?_⟩
  · intro resource
    simp only [finishDeletion, isPending]
    exact recordsOf?_editRecords { app with pending := _ } _ _ _
  · simp only [finishDeletion, isPending]

theorem finishDeletion_cases (app : Application) (assignment : Identifier)
    (answer : Except Failure Unit) :
    (app.pending.find? assignment = none ∧ app.finishDeletion assignment answer = app) ∨
      ∃ pending,
        (answer = .ok () ∧
          Confirms assignment pending app (app.finishDeletion assignment answer)) ∨
        ∃ failure, answer = .error failure ∧
          Refuses assignment pending app (app.finishDeletion assignment answer) := by
  cases isPending : app.pending.find? assignment with
  | none => exact Or.inl ⟨rfl, by simp only [finishDeletion, isPending]⟩
  | some pending =>
      refine Or.inr ⟨pending, ?_⟩
      cases answer with
      | ok _ =>
          refine Or.inl ⟨rfl, isPending, ?_, ?_⟩
          · intro resource
            simp only [finishDeletion, isPending]
            rfl
          · simp only [finishDeletion, isPending]
      | error failure => exact Or.inr ⟨failure, rfl, finishDeletion_refuses isPending failure⟩

end Application

end LoadChart
