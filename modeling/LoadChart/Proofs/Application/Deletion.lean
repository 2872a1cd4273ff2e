import LoadChart.Proofs.Application.GridFreshness
import Mathlib.Data.List.Perm.Basic

/-!
# Records and deletions under way

What each operation does to the lists of records that have arrived and to the deletions under way.
Only a deletion, an answer to one and a list that counts change how often an assignment is listed.
-/

namespace LoadChart

namespace Application

def copies (assignment : Identifier) (records : List AssignmentRecord) : Nat :=
  records.countP fun record => record.identifier = assignment

/-- Some resource has a record of an assignment. -/
def Lists (app : Application) (assignment : Identifier) : Prop :=
  ∃ resource records, app.recordsOf? resource = some records ∧
    ∃ record ∈ records, record.identifier = assignment

theorem copies_eq_zero_iff {assignment : Identifier} {records : List AssignmentRecord} :
    copies assignment records = 0 ↔ ∀ record ∈ records, record.identifier ≠ assignment := by
  simp [copies, List.countP_eq_zero]

section
variable {assignment : Identifier} {records : List AssignmentRecord} {pending : PendingDeletion}

theorem copies_takeOut (found : records[pending.index]? = some pending.record)
    (assignment : Identifier) :
    copies assignment (takeOut pending records) +
        (if pending.record.identifier = assignment then 1 else 0) =
      copies assignment records := by
  obtain ⟨inside, same⟩ := List.getElem?_eq_some_iff.1 found
  have permutation := List.getElem_cons_eraseIdx_perm inside
  rw [same] at permutation
  have counted := permutation.countP_eq fun record => decide (record.identifier = assignment)
  rw [List.countP_cons] at counted
  simpa [copies, takeOut] using counted

theorem copies_insertIdx {index : Nat} (inside : index ≤ records.length)
    (record : AssignmentRecord) :
    copies assignment (records.insertIdx index record) =
      copies assignment records + if record.identifier = assignment then 1 else 0 := by
  have permutation := List.perm_insertIdx record records inside
  have counted := permutation.countP_eq fun record => decide (record.identifier = assignment)
  rw [List.countP_cons] at counted
  simpa [copies] using counted

theorem copies_putBack_of_ne (different : pending.record.identifier ≠ assignment) :
    copies assignment (putBack pending records) = copies assignment records := by
  unfold putBack
  split
  · rfl
  · rw [copies_insertIdx (Nat.min_le_right _ _), if_neg different, Nat.add_zero]

theorem copies_putBack_of_none (none : copies assignment records = 0) :
    copies assignment (putBack pending records) ≤ 1 := by
  unfold putBack
  split
  · omega
  · rw [copies_insertIdx (Nat.min_le_right _ _), none]
    split <;> omega

end

theorem recordsOf?_editRecords (app : Application) (resource other : Identifier)
    (change : List AssignmentRecord → List AssignmentRecord) :
    ((editRecords app.assignments resource change).find? other).bind Query.value? =
      if other = resource then (app.recordsOf? other).map change else app.recordsOf? other := by
  rw [editRecords, OrderedMap.find?_mapValues, recordsOf?]
  cases app.assignments.find? other with
  | none => simp
  | some query => by_cases same : other = resource <;> simp [same]

/-- A list that is found after an edit is an edited one of the edited resource, or one of another
resource as it was before. -/
theorem recordsOf?_of_editRecords {app : Application} {resource other : Identifier}
    {change : List AssignmentRecord → List AssignmentRecord} {records : List AssignmentRecord}
    (found : ((editRecords app.assignments resource change).find? other).bind Query.value? =
      some records) :
    (other = resource ∧ ∃ old, app.recordsOf? other = some old ∧ records = change old) ∨
      (other ≠ resource ∧ app.recordsOf? other = some records) := by
  rw [recordsOf?_editRecords] at found
  split at found
  next same =>
    obtain ⟨old, isOld, changed⟩ := Option.map_eq_some_iff.1 found
    exact Or.inl ⟨same, old, isOld, changed.symm⟩
  next different => exact Or.inr ⟨different, found⟩

theorem locate?_eq_some {app : Application} {assignment : Identifier} {pending : PendingDeletion}
    (located : locate? app.assignments assignment = some pending) :
    pending.record.identifier = assignment ∧
      ∃ records, app.recordsOf? pending.resource = some records ∧
        records[pending.index]? = some pending.record := by
  obtain ⟨⟨resource, query⟩, member, found⟩ := List.exists_of_findSome?_eq_some located
  obtain ⟨records, value, found⟩ := Option.bind_eq_some_iff.1 found
  obtain ⟨index, place, found⟩ := Option.bind_eq_some_iff.1 found
  obtain ⟨record, atIndex, found⟩ := Option.bind_eq_some_iff.1 found
  cases found
  obtain ⟨inside, own, _⟩ := List.findIdx?_eq_some_iff_getElem.1 place
  obtain ⟨_, same⟩ := List.getElem?_eq_some_iff.1 atIndex
  rw [same] at own
  refine ⟨of_decide_eq_true own, records, ?_, atIndex⟩
  rw [recordsOf?, OrderedMap.mem_entries.1 member, Option.bind_some, value]

@[simp] theorem requestResources_pending (app : Application) :
    app.requestResources.pending = app.pending := by
  unfold requestResources
  split
  · rfl
  · dsimp only
    split <;> rfl

@[simp] theorem requestAssignmentsOf_pending (app : Application) (resource : Identifier) :
    (app.requestAssignmentsOf resource).pending = app.pending := by
  unfold requestAssignmentsOf
  dsimp only
  split <;> rfl

@[simp] theorem requestAssignments_pending (app : Application) :
    app.requestAssignments.pending = app.pending := by
  unfold requestAssignments
  generalize app.listed = resources
  induction resources generalizing app with
  | nil => rfl
  | cons resource rest induction =>
      rw [List.foldl_cons, induction, requestAssignmentsOf_pending]

@[simp] theorem requestHistogram_pending (app : Application) :
    app.requestHistogram.pending = app.pending := by
  unfold requestHistogram
  split
  · rfl
  · dsimp only
    split <;> rfl

@[simp] theorem refetchResources_pending (app : Application) :
    app.refetchResources.pending = app.pending := by
  unfold refetchResources
  split
  · exact requestResources_pending app
  · dsimp only
    split <;> rfl

@[simp] theorem refetchAssignments_pending (app : Application) :
    app.refetchAssignments.pending = app.pending := rfl

@[simp] theorem refetchHistogram_pending (app : Application) :
    app.refetchHistogram.pending = app.pending := by
  unfold refetchHistogram
  dsimp only
  split <;> rfl

@[simp] theorem refetchAll_pending (app : Application) :
    app.refetchAll.pending = app.pending := by
  simp [refetchAll]

@[simp] theorem receiveHistogram_pending (app : Application) (key : HistogramKey)
    (answer : Except Failure Histogram) :
    (app.receiveHistogram key answer).pending = app.pending := by
  unfold receiveHistogram
  dsimp only
  split <;> rfl

@[simp] theorem receiveLeveling_pending (app : Application) (ticket : LevelingTicket)
    (answer : Except Failure LevelingOutcome) :
    (app.receiveLeveling ticket answer).pending = app.pending := by
  unfold receiveLeveling
  dsimp only
  split
  · rfl
  · exact refetchAll_pending _

@[simp] theorem sendLeveling_pending (app : Application) (ticket : LevelingTicket) :
    (app.sendLeveling ticket).pending = app.pending := by
  unfold sendLeveling
  split <;> rfl

@[simp] theorem receiveResources_pending (app : Application) (program : Identifier)
    (answer : Except Failure (List Resource)) :
    (app.receiveResources program answer).pending = app.pending := by
  unfold receiveResources
  dsimp only
  split
  · rfl
  · cases answer with
    | ok list => exact requestAssignments_pending _
    | error failure =>
        dsimp only
        split <;> rfl

@[simp] theorem receiveAssignments_pending (app : Application) (key : AssignmentsKey)
    (answer : Except Failure (List AssignmentRecord)) :
    (app.receiveAssignments key answer).pending = app.pending := by
  unfold receiveAssignments
  dsimp only
  split
  · rfl
  · cases answer <;> rfl

/-- A list of resources can only take lists of records away. -/
theorem recordsOf?_of_receiveResources {app : Application} {program : Identifier}
    {answer : Except Failure (List Resource)} {resource : Identifier}
    {records : List AssignmentRecord}
    (found : (app.receiveResources program answer).recordsOf? resource = some records) :
    app.recordsOf? resource = some records := by
  unfold receiveResources at found
  dsimp only at found
  split at found
  · exact found
  · cases answer with
    | ok list =>
        rw [(requestAssignments_keepsInputs _).records, recordsOf?,
          OrderedMap.find?_filterKeys] at found
        split at found
        · exact found
        · cases found
    | error failure =>
        dsimp only at found
        split at found <;> exact found

/-- A list of records that is found after one was received is the received one, if that counts, or
was there before. -/
theorem recordsOf?_of_receiveAssignments {app : Application} {key : AssignmentsKey}
    {answer : Except Failure (List AssignmentRecord)} {resource : Identifier}
    {records : List AssignmentRecord}
    (found : (app.receiveAssignments key answer).recordsOf? resource = some records) :
    app.recordsOf? resource = some records ∨
      (resource = key.resource ∧ answer = .ok records ∧
        (app.assignmentQuery key.resource).wanted = some key) := by
  have stored : (((app.assignments.insert key.resource
      ((app.assignmentQuery key.resource).resolve key (answer.mapError Failure.message)).1).find?
        resource).bind Query.value?) = some records := by
    unfold receiveAssignments at found
    dsimp only at found
    split at found
    · exact found
    · cases answer <;> exact found
  by_cases same : resource = key.resource
  · subst same
    rw [OrderedMap.find?_insert_self, Option.bind_some] at stored
    rcases Query.resolve_value?_eq_some stored with before | ⟨wanted, isAnswer⟩
    · left
      unfold assignmentQuery at before
      unfold recordsOf?
      cases query : app.assignments.find? key.resource with
      | none =>
          rw [query] at before
          cases before
      | some own =>
          rw [query] at before
          exact before
    · cases answer with
      | ok value =>
          cases isAnswer
          exact Or.inr ⟨rfl, rfl, wanted⟩
      | error failure => cases isAnswer
  · rw [OrderedMap.find?_insert_of_ne _ same] at stored
    exact Or.inl stored

end Application

end LoadChart
