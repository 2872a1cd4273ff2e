import LoadChart.Application.Step
import LoadChart.Proofs.Query.Operations

/-!
# What operations write

Each operation returns the state that it was given with a few of its parts replaced, and behind the
outbox it only adds tasks.  What an invariant says of the other parts is kept without looking at the
operation again.
-/

namespace LoadChart

namespace Application

theorem requestResources_writes (app : Application) :
    ∃ resources status tasks,
      app.requestResources = { app with resources, status, outbox := app.outbox ++ tasks } := by
  unfold requestResources
  split
  · exact ⟨app.resources, noProgramText, [], by rw [List.append_nil]⟩
  next program _ =>
    dsimp only
    split
    · exact ⟨(app.resources.request program).1, app.status, [.resources program], rfl⟩
    · exact ⟨(app.resources.request program).1, app.status, [], by rw [List.append_nil]⟩

theorem requestAssignmentsOf_eq (app : Application) (resource : Identifier) :
    ∃ tasks, app.requestAssignmentsOf resource =
      { app with
        assignments := app.assignments.insert resource
          ((app.assignmentQuery resource).request ⟨resource, app.view.range⟩).1
        outbox := app.outbox ++ tasks } := by
  unfold requestAssignmentsOf
  dsimp only
  split
  · exact ⟨[.assignments ⟨resource, app.view.range⟩], rfl⟩
  · exact ⟨[], by rw [List.append_nil]⟩

theorem requestAssignments_writes (app : Application) :
    ∃ assignments tasks,
      app.requestAssignments = { app with assignments, outbox := app.outbox ++ tasks } := by
  unfold requestAssignments
  generalize app.listed = resources
  induction resources generalizing app with
  | nil => exact ⟨app.assignments, [], by rw [List.append_nil, List.foldl_nil]⟩
  | cons resource rest induction =>
      obtain ⟨own, first⟩ := requestAssignmentsOf_eq app resource
      obtain ⟨assignments, tasks, others⟩ := induction (app.requestAssignmentsOf resource)
      refine ⟨assignments, own ++ tasks, ?_⟩
      rw [List.foldl_cons, others, first, List.append_assoc]

theorem requestHistogram_writes (app : Application) :
    ∃ histogram tasks,
      app.requestHistogram = { app with histogram, outbox := app.outbox ++ tasks } := by
  unfold requestHistogram
  split
  · exact ⟨app.histogram, [], by rw [List.append_nil]⟩
  next resource _ =>
    let key : HistogramKey := ⟨resource, app.view.range, app.view.scale.granularity⟩
    dsimp only
    split
    · exact ⟨(app.histogram.request key).1, [.histogram key], rfl⟩
    · exact ⟨(app.histogram.request key).1, [], by rw [List.append_nil]⟩

theorem refetchResources_writes (app : Application) :
    ∃ resources status tasks,
      app.refetchResources = { app with resources, status, outbox := app.outbox ++ tasks } := by
  unfold refetchResources
  split
  · exact requestResources_writes app
  · dsimp only
    split
    next program _ =>
      exact ⟨app.resources.invalidate.1, app.status, [.resources program], rfl⟩
    next => exact ⟨app.resources.invalidate.1, app.status, [], by rw [List.append_nil]⟩

theorem refetchHistogram_eq (app : Application) :
    app.refetchHistogram =
      { app with
        histogram := app.histogram.invalidate.1
        outbox := app.outbox ++ app.histogram.wanted.toList.map Task.histogram } := by
  unfold refetchHistogram
  dsimp only [Query.invalidate]
  cases app.histogram.wanted with
  | none => simp
  | some key => simp [send]

theorem deleteAssignment_writes (app : Application) (assignment : Identifier) :
    ∃ assignments pending dataRevision status tasks,
      app.deleteAssignment assignment =
        { app with assignments, pending, dataRevision, status, outbox := app.outbox ++ tasks } := by
  unfold deleteAssignment
  split
  · exact ⟨app.assignments, app.pending, app.dataRevision, app.status, [],
      by rw [List.append_nil]⟩
  · exact ⟨_, _, _, _, _, rfl⟩

theorem finishDeletion_writes (app : Application) (assignment : Identifier)
    (answer : Except Failure Unit) :
    ∃ assignments pending dataRevision status notices,
      app.finishDeletion assignment answer =
        { app with assignments, pending, dataRevision, status, notices } := by
  unfold finishDeletion
  split
  · exact ⟨_, _, _, _, _, rfl⟩
  · cases answer with
    | ok _ => exact ⟨_, _, _, _, _, rfl⟩
    | error failure => exact ⟨_, _, _, _, _, rfl⟩

theorem sendLeveling_writes (app : Application) (ticket : LevelingTicket) :
    ∃ leveling tasks,
      app.sendLeveling ticket =
        { app with view := { app.view with leveling }, outbox := app.outbox ++ tasks } := by
  unfold sendLeveling
  split
  · exact ⟨app.view.leveling, _, rfl⟩
  · exact ⟨(app.view.leveling.finish ticket (.error noProgramText)).1, [],
      by rw [List.append_nil]⟩

/-- A list of resources that counts has the assignments of the listed resources asked for; any other
answer leaves the list and the assignments as they were. -/
theorem receiveResources_cases (app : Application) (program : Identifier)
    (answer : Except Failure (List Resource)) :
    (∃ resources dataRevision notices,
      resources.value? = app.resources.value? ∧
        app.receiveResources program answer = { app with resources, dataRevision, notices }) ∨
    ∃ resources listed dataRevision status,
      app.receiveResources program answer =
        requestAssignments
          { app with
            resources, dataRevision, status,
            assignments := app.assignments.filterKeys listed } := by
  unfold receiveResources
  dsimp only
  split
  next superseded =>
    exact Or.inl ⟨_, _, _, Query.resolve_value?_of_superseded superseded, rfl⟩
  · cases answer with
    | ok list => exact Or.inr ⟨_, _, _, _, rfl⟩
    | error failure =>
        have kept := Query.resolve_value?_of_error app.resources program failure.message
        dsimp only
        split
        all_goals exact Or.inl ⟨_, _, _, kept, rfl⟩

theorem receiveAssignments_writes (app : Application) (key : AssignmentsKey)
    (answer : Except Failure (List AssignmentRecord)) :
    ∃ dataRevision notices,
      app.receiveAssignments key answer =
        { app with
          assignments := app.assignments.insert key.resource
            ((app.assignmentQuery key.resource).resolve key (answer.mapError Failure.message)).1
          dataRevision
          notices } := by
  unfold receiveAssignments
  dsimp only
  split
  · exact ⟨_, _, rfl⟩
  · cases answer with
    | ok _ => exact ⟨_, _, rfl⟩
    | error failure => exact ⟨_, _, rfl⟩

theorem receiveHistogram_writes (app : Application) (key : HistogramKey)
    (answer : Except Failure Histogram) :
    ∃ notices,
      app.receiveHistogram key answer =
        { app with
          histogram := (app.histogram.resolve key (answer.mapError Failure.message)).1
          notices } := by
  unfold receiveHistogram
  dsimp only
  split
  · exact ⟨_, rfl⟩
  · exact ⟨app.notices, rfl⟩

/-- An apply that was accepted has everything asked for again. -/
theorem receiveLeveling_cases (app : Application) (ticket : LevelingTicket)
    (answer : Except Failure LevelingOutcome) :
    ∃ leveling,
      app.receiveLeveling ticket answer = { app with view := { app.view with leveling } } ∨
      ∃ status notices,
        app.receiveLeveling ticket answer =
          refetchAll { app with view := { app.view with leveling }, status, notices } := by
  unfold receiveLeveling
  dsimp only
  split
  · exact ⟨_, Or.inl rfl⟩
  · exact ⟨_, Or.inr ⟨_, _, rfl⟩⟩

theorem refresh?_writes {before after : Application} (done : before.refresh? = some after) :
    ∃ grid gridKey, after = { before with grid, gridKey } := by
  unfold refresh? at done
  split at done
  · cases done
    exact ⟨_, _, rfl⟩
  · obtain ⟨grid, _, same⟩ := Option.map_eq_some_iff.1 done
    exact ⟨grid, _, same.symm⟩

end Application

end LoadChart
