import LoadChart.Proofs.Application.History
import LoadChart.Proofs.Application.Writes
import LoadChart.Proofs.Leveling.Selection

/-!
# Only listed shifts are applied

The leveling window lets the user tick shifts of the listed result and apply them while it is
listed.  In every run in which it is used that way, the shifts that are ticked are listed, and what
the service is told to apply is a list of them that is not empty, in order and without repetitions.
-/

namespace LoadChart

namespace LevelingState

/-- What the window offers: to tick shifts that are listed, and to apply some while they are. -/
def Offers (state : LevelingState) : LevelingCommand → Prop
  | .toggleShift activity =>
      ∃ result, state.shiftResult? = some result ∧ activity ∈ result.activities
  | .request .apply => ∃ result, state.shiftResult? = some result
  | _ => True

end LevelingState

namespace ViewState

theorem histogramEffects_not_leveling (view : ViewState) (ticket : LevelingTicket) :
    .leveling ticket ∉ view.histogramEffects := by
  unfold histogramEffects
  split <;> simp

theorem rangeEffects_not_leveling (view : ViewState) (ticket : LevelingTicket) :
    .leveling ticket ∉ view.rangeEffects := by
  simp [rangeEffects, histogramEffects_not_leveling]

theorem setFilter_leveling (view : ViewState) (filter : Filter) :
    (view.setFilter filter).leveling = view.leveling := by
  unfold setFilter
  split <;> rfl

/-- Only the commands for it change the leveling window, or leave a request for leveling to be
sent. -/
theorem dispatch?_not_leveling {view after : ViewState} {command : Command} {effects : List Effect}
    (done : view.dispatch? command = some (after, effects))
    (other : ∀ own, command ≠ .leveling own) :
    after.leveling = view.leveling ∧ ∀ ticket, .leveling ticket ∉ effects := by
  cases command with
  | leveling own => exact absurd rfl (other own)
  | setScale scale =>
      simp only [dispatch?] at done
      split at done
      · cases done
        exact ⟨rfl, fun _ => List.not_mem_nil⟩
      · cases done
        exact ⟨rfl, histogramEffects_not_leveling _⟩
  | setRange first last =>
      simp only [dispatch?, setRange] at done
      split at done
      · cases done
        exact ⟨rfl, rangeEffects_not_leveling _⟩
      · cases done
        exact ⟨rfl, by simp⟩
  | shiftRange days =>
      simp only [dispatch?, shiftRange?] at done
      split at done
      · cases done
        exact ⟨rfl, fun _ => List.not_mem_nil⟩
      · obtain ⟨range, _, same⟩ := Option.map_eq_some_iff.1 done
        cases same
        exact ⟨rfl, rangeEffects_not_leveling _⟩
  | setFilter filter =>
      cases done
      exact ⟨setFilter_leveling view filter, fun _ => List.not_mem_nil⟩
  | clearFilters =>
      cases done
      exact ⟨setFilter_leveling view .standard, fun _ => List.not_mem_nil⟩
  | selectResource resource =>
      simp only [dispatch?] at done
      split at done
      · cases done
        exact ⟨rfl, fun _ => List.not_mem_nil⟩
      · cases done
        exact ⟨rfl, histogramEffects_not_leveling _⟩
  | bar command =>
      cases command with
      | select assignment =>
          cases done
          exact ⟨rfl, fun _ => List.not_mem_nil⟩
      | delete assignment =>
          cases done
          refine ⟨?_, by simp⟩
          split <;> rfl
  | toggleUtilization | toggleHighlight | retry | exportUtilization | openSettingsFolder
    | showAbout =>
      cases done
      exact ⟨rfl, by simp⟩

end ViewState

namespace Task

def ticket? : Task → Option LevelingTicket
  | .leveling ticket _ _ _ => some ticket
  | _ => none

end Task

namespace Application

/-- What a user can do where only what the leveling window offers is done in it. -/
def Offers (app : Application) : Command → Prop
  | .leveling command => app.view.leveling.Offers command
  | _ => True

/-- The leveling window stays as it was, and no request for leveling is handed over. -/
structure LeavesLeveling (before after : Application) : Prop where
  leveling : after.view.leveling = before.view.leveling
  tasks : ∃ tasks, after.outbox = before.outbox ++ tasks ∧ ∀ task ∈ tasks, task.ticket? = none

namespace LeavesLeveling

theorem of_outbox_eq {before after : Application}
    (leveling : after.view.leveling = before.view.leveling) (outbox : after.outbox = before.outbox) :
    LeavesLeveling before after :=
  ⟨leveling, [], by rw [outbox, List.append_nil], by simp⟩

theorem of_task {before after : Application} {task : Task}
    (leveling : after.view.leveling = before.view.leveling)
    (outbox : after.outbox = before.outbox ++ [task]) (other : task.ticket? = none) :
    LeavesLeveling before after :=
  ⟨leveling, [task], outbox, by simpa using other⟩

theorem trans {first second third : Application} (left : LeavesLeveling first second)
    (right : LeavesLeveling second third) : LeavesLeveling first third := by
  obtain ⟨leftTasks, leftOutbox, leftOther⟩ := left.tasks
  obtain ⟨rightTasks, rightOutbox, rightOther⟩ := right.tasks
  refine ⟨right.leveling.trans left.leveling, leftTasks ++ rightTasks, ?_, ?_⟩
  · rw [rightOutbox, leftOutbox, List.append_assoc]
  · intro task member
    rcases List.mem_append.1 member with isLeft | isRight
    · exact leftOther task isLeft
    · exact rightOther task isRight

theorem foldl {α : Type} {step : Application → α → Application}
    (kept : ∀ app item, LeavesLeveling app (step app item)) (items : List α) (app : Application) :
    LeavesLeveling app (items.foldl step app) := by
  induction items generalizing app with
  | nil => exact .of_outbox_eq rfl rfl
  | cons item items induction => exact (kept app item).trans (induction (step app item))

end LeavesLeveling

theorem requestResources_leavesLeveling (app : Application) :
    LeavesLeveling app app.requestResources := by
  unfold requestResources
  split
  · exact .of_outbox_eq rfl rfl
  · dsimp only
    split
    · exact .of_task rfl rfl rfl
    · exact .of_outbox_eq rfl rfl

theorem requestAssignmentsOf_leavesLeveling (app : Application) (resource : Identifier) :
    LeavesLeveling app (app.requestAssignmentsOf resource) := by
  unfold requestAssignmentsOf
  dsimp only
  split
  · exact .of_task rfl rfl rfl
  · exact .of_outbox_eq rfl rfl

theorem requestAssignments_leavesLeveling (app : Application) :
    LeavesLeveling app app.requestAssignments :=
  .foldl requestAssignmentsOf_leavesLeveling app.listed app

theorem requestHistogram_leavesLeveling (app : Application) :
    LeavesLeveling app app.requestHistogram := by
  unfold requestHistogram
  split
  · exact .of_outbox_eq rfl rfl
  · dsimp only
    split
    · exact .of_task rfl rfl rfl
    · exact .of_outbox_eq rfl rfl

theorem refetchResources_leavesLeveling (app : Application) :
    LeavesLeveling app app.refetchResources := by
  unfold refetchResources
  split
  · exact requestResources_leavesLeveling app
  · dsimp only
    split
    · exact .of_task rfl rfl rfl
    · exact .of_outbox_eq rfl rfl

theorem refetchAssignments_leavesLeveling (app : Application) :
    LeavesLeveling app app.refetchAssignments := by
  refine ⟨rfl, _, rfl, ?_⟩
  intro task member
  obtain ⟨key, _, rfl⟩ := List.mem_map.1 member
  rfl

theorem refetchHistogram_leavesLeveling (app : Application) :
    LeavesLeveling app app.refetchHistogram := by
  unfold refetchHistogram
  dsimp only
  split
  · exact .of_task rfl rfl rfl
  · exact .of_outbox_eq rfl rfl

theorem refetchAll_leavesLeveling (app : Application) : LeavesLeveling app app.refetchAll :=
  ((refetchResources_leavesLeveling app).trans (refetchAssignments_leavesLeveling _)).trans
    (refetchHistogram_leavesLeveling _)

theorem deleteAssignment_leavesLeveling (app : Application) (assignment : Identifier) :
    LeavesLeveling app (app.deleteAssignment assignment) := by
  unfold deleteAssignment
  split
  · exact .of_outbox_eq rfl rfl
  · exact .of_task rfl rfl rfl

theorem perform_leavesLeveling (app : Application) {effect : Effect}
    (other : ∀ ticket, effect ≠ .leveling ticket) : LeavesLeveling app (app.perform effect) := by
  cases effect with
  | fetchAssignments => exact requestAssignments_leavesLeveling app
  | fetchHistogram => exact requestHistogram_leavesLeveling app
  | refetch => exact refetchAll_leavesLeveling app
  | deleteAssignment assignment => exact deleteAssignment_leavesLeveling app assignment
  | leveling ticket => exact absurd rfl (other ticket)
  | exportUtilization =>
      unfold perform
      dsimp only
      split
      all_goals exact .of_outbox_eq rfl rfl
  | openSettingsFolder | showAbout | notify => exact .of_outbox_eq rfl rfl

theorem performAll_leavesLeveling {effects : List Effect}
    (other : ∀ ticket, .leveling ticket ∉ effects) (app : Application) :
    LeavesLeveling app (effects.foldl perform app) := by
  induction effects generalizing app with
  | nil => exact .of_outbox_eq rfl rfl
  | cons effect effects induction =>
      have first : ∀ ticket, effect ≠ .leveling ticket := fun ticket same =>
        other ticket (same ▸ List.mem_cons_self)
      have rest : ∀ ticket, .leveling ticket ∉ effects := fun ticket member =>
        other ticket (List.mem_cons_of_mem _ member)
      exact (perform_leavesLeveling app first).trans (induction rest _)

theorem receive_leavesLeveling (app : Application) {event : Event}
    (other : ∀ ticket answer, event ≠ .leveling ticket answer) :
    LeavesLeveling app (app.receive event) := by
  cases event with
  | leveling ticket answer => exact absurd rfl (other ticket answer)
  | resources program answer =>
      rcases app.receiveResources_cases program answer with ⟨_, _, _, _, same⟩ | ⟨_, _, _, _, same⟩
      · rw [receive, same]
        exact .of_outbox_eq rfl rfl
      · rw [receive, same]
        refine LeavesLeveling.trans ?_ (requestAssignments_leavesLeveling _)
        exact .of_outbox_eq rfl rfl
  | assignments key answer =>
      obtain ⟨_, _, same⟩ := app.receiveAssignments_writes key answer
      rw [receive, same]
      exact .of_outbox_eq rfl rfl
  | histogram key answer =>
      obtain ⟨_, same⟩ := app.receiveHistogram_writes key answer
      rw [receive, same]
      exact .of_outbox_eq rfl rfl
  | deleted _ assignment answer =>
      obtain ⟨_, _, _, _, _, same⟩ := app.finishDeletion_writes assignment answer
      rw [receive, same]
      exact .of_outbox_eq rfl rfl

/-- A step in which the leveling window is used as it offers. -/
inductive OfferedStep : Application → Application → Prop where
  | command {before after : Application} {command : Command} :
      before.Offers command → before.run? command = some after → OfferedStep before after
  | event (app : Application) (event : Event) : OfferedStep app (app.receive event)
  | refresh {before after : Application} : before.refresh? = some after → OfferedStep before after

/-- The runs in which the leveling window is used as it offers. -/
inductive OfferedRun : Application → Prop where
  | initial (program : Option Identifier) (range : DayRange) (scale : Scale) :
      OfferedRun (.initial program range scale)
  | step {before after : Application} :
      OfferedRun before → OfferedStep before after → OfferedRun after
  | surroundings {app : Application} (status : String) (notices : Notices Float)
      (showAbout : Bool) (outbox : List Task) :
      OfferedRun app → OfferedRun { app with status, notices, showAbout, outbox }

/-- Whatever is told to be applied are the ticked shifts, which are in order and without
repetitions, and some of those of the result that is listed before and after. -/
def AppliesListed (before after : Application) : Prop :=
  ∃ tasks, after.outbox = before.outbox ++ tasks ∧
    ∀ ticket program options shifts, .leveling ticket program options shifts ∈ tasks →
      ticket.request = .apply →
        shifts = before.view.leveling.selected.toList ∧ shifts ≠ [] ∧ shifts.Nodup ∧
          shifts.Pairwise (· < ·) ∧
          ∃ result, before.view.leveling.shiftResult? = some result ∧
            after.view.leveling.shiftResult? = some result ∧ shifts ⊆ result.activities

theorem AppliesListed.of_other {before after : Application} {tasks : List Task}
    (outbox : after.outbox = before.outbox ++ tasks) (other : ∀ task ∈ tasks, task.ticket? = none) :
    AppliesListed before after := by
  refine ⟨tasks, outbox, ?_⟩
  intro ticket program options shifts member
  cases other _ member

theorem AppliesListed.of_outbox_eq {before after : Application}
    (outbox : after.outbox = before.outbox) : AppliesListed before after :=
  .of_other (outbox.trans (List.append_nil _).symm) (by simp)

/-- What a step does to the ticks and hands over, if only listed shifts are ticked before. -/
structure Proper (before after : Application) : Prop where
  selects : after.view.leveling.SelectsListed
  applies : AppliesListed before after

variable {app before between after : Application}

theorem LeavesLeveling.proper (leaves : LeavesLeveling between after)
    (outbox : between.outbox = before.outbox) (selects : between.view.leveling.SelectsListed) :
    Proper before after := by
  obtain ⟨tasks, added, other⟩ := leaves.tasks
  exact ⟨leaves.leveling.symm ▸ selects, .of_other (outbox ▸ added) other⟩

theorem receiveLeveling_proper (selects : app.view.leveling.SelectsListed)
    (ticket : LevelingTicket) (answer : Except Failure LevelingOutcome) :
    Proper app (app.receiveLeveling ticket answer) := by
  have finished := selects.finish ticket (answer.mapError Failure.message)
  unfold receiveLeveling
  dsimp only
  split
  · exact ⟨finished, .of_outbox_eq rfl⟩
  · exact (refetchAll_leavesLeveling _).proper rfl finished

theorem sendLeveling_proper (selects : before.view.leveling.SelectsListed)
    {request : LevelingRequest}
    (offered : request = .apply → ∃ result, before.view.leveling.shiftResult? = some result)
    (ticked : request = .apply → before.view.leveling.selected.toList ≠ []) :
    let begun := before.view.leveling.begin request
    Proper before
      (sendLeveling { before with view := { before.view with leveling := begun.1 } } begun.2) := by
  have begunSelects := selects.begin request
  intro begun
  unfold sendLeveling
  dsimp only
  split
  next program _ =>
    refine ⟨begunSelects, _, rfl, ?_⟩
    intro ticket ownProgram options shifts member isApply
    cases List.mem_singleton.1 member
    obtain rfl : request = .apply := isApply
    obtain ⟨result, listed⟩ := offered rfl
    have ascending := before.view.leveling.selected.ascending
    have listedAfter := (LevelingState.shiftResult?_begin_apply _).trans listed
    refine ⟨rfl, ticked rfl, ?_, ?_, result, listed, listedAfter, ?_⟩
    · refine ascending.imp ?_
      rintro left _ below rfl
      exact Int.lt_irrefl _ below
    · exact ascending.imp fun below => Int.ofNat_lt.1 below
    · exact fun activity isTicked => selects result listed activity isTicked
  · exact ⟨begunSelects.finish _ _, .of_outbox_eq rfl⟩

theorem run?_leveling_proper (selects : before.view.leveling.SelectsListed)
    {command : LevelingCommand} (offered : before.view.leveling.Offers command)
    (done : before.run? (.leveling command) = some after) : Proper before after := by
  cases command with
  | openWindow | closeWindow | setOptions options =>
      cases done
      exact ⟨selects, .of_outbox_eq rfl⟩
  | toggleShift activity =>
      cases done
      obtain ⟨result, listed, isListed⟩ := offered
      refine ⟨selects.toggleShift fun other otherListed => ?_, .of_outbox_eq rfl⟩
      cases otherListed.symm.trans listed
      exact isListed
  | request request =>
      simp only [run?, ViewState.dispatch?, Option.map_some, ViewState.dispatchLeveling,
        Option.some.injEq] at done
      split at done
      · subst done
        exact ⟨selects, .of_outbox_eq rfl⟩
      next ready =>
        subst done
        refine sendLeveling_proper selects ?_ ?_
        · rintro rfl
          exact offered
        · rintro rfl empty
          exact ready ⟨rfl, List.isEmpty_iff.2 empty⟩

theorem OfferedStep.proper (step : OfferedStep before after)
    (selects : before.view.leveling.SelectsListed) : Proper before after := by
  cases step with
  | @command _ command offered done =>
      by_cases leveling : ∃ own, command = .leveling own
      · obtain ⟨own, rfl⟩ := leveling
        exact run?_leveling_proper selects offered done
      · obtain ⟨⟨view, effects⟩, dispatched, performed⟩ := Option.map_eq_some_iff.1 done
        obtain ⟨same, other⟩ := ViewState.dispatch?_not_leveling dispatched fun own isOwn =>
          leveling ⟨own, isOwn⟩
        subst performed
        have placed : LeavesLeveling before { before with view } := .of_outbox_eq same rfl
        exact (placed.trans (performAll_leavesLeveling other _)).proper rfl selects
  | event event =>
      by_cases leveling : ∃ ticket answer, event = .leveling ticket answer
      · obtain ⟨ticket, answer, rfl⟩ := leveling
        exact receiveLeveling_proper selects ticket answer
      · exact (receive_leavesLeveling before fun ticket answer isOwn =>
          leveling ⟨ticket, answer, isOwn⟩).proper rfl selects
  | refresh done =>
      obtain ⟨_, _, rfl⟩ := refresh?_writes done
      exact ⟨selects, .of_outbox_eq rfl⟩

theorem OfferedRun.selectsListed (run : OfferedRun app) : app.view.leveling.SelectsListed := by
  induction run with
  | initial program range scale =>
      exact (requestResources_leavesLeveling _).leveling.symm ▸ LevelingState.SelectsListed.initial
  | step _ step selects => exact (step.proper selects).selects
  | surroundings _ _ _ _ _ selects => exact selects

/-- In every run in which the leveling window is used as it offers, only shifts of the listed result
are ticked.  What a step of such a run tells the service to apply are the ticked shifts: they are
some, in order, without repetitions, and all of the result that is listed. -/
theorem applied_shifts_are_listed (run : OfferedRun app) :
    (∀ result, app.view.leveling.shiftResult? = some result →
      ∀ activity ∈ app.view.leveling.selected, activity ∈ result.activities) ∧
      ∀ after, OfferedStep app after → AppliesListed app after :=
  ⟨run.selectsListed, fun _ step => (step.proper run.selectsListed).applies⟩

def sampleDay : Day := ⟨740063, by decide, by decide⟩

def sampleShift (activity : Identifier) : ActivityShift :=
  ⟨activity, "", "", sampleDay, sampleDay, sampleDay, sampleDay, 0, ""⟩

def sampleResult : LevelingResult :=
  ⟨true, [sampleShift ⟨1⟩, sampleShift ⟨2⟩], 1, 0, none, 0, 0, [], none, none⟩

theorem applied_shifts_are_listed_without_one :
    ∃ app after, OfferedRun app ∧ OfferedStep app after ∧
      app.view.leveling.shiftResult? = some sampleResult ∧
      after.outbox = app.outbox ++ [.leveling ⟨.apply, 2⟩ ⟨9⟩ .standard [⟨2⟩]] ∧
      (∀ activity ∈ app.view.leveling.selected, activity ∈ sampleResult.activities) ∧
      AppliesListed app after := by
  let start : Application := .initial (some ⟨9⟩) ⟨sampleDay, sampleDay, Int.le_refl _⟩ .days
  let asked := (start.run? (.leveling (.request .preview))).get rfl
  let answered := asked.receive (.leveling ⟨.preview, 1⟩ (.ok (.result sampleResult)))
  let ticked := (answered.run? (.leveling (.toggleShift ⟨1⟩))).get rfl
  let applied := (ticked.run? (.leveling (.request .apply))).get rfl
  have ask : OfferedStep start asked :=
    @OfferedStep.command _ _ (.leveling (.request .preview)) trivial rfl
  have listed : answered.view.leveling.shiftResult? = some sampleResult := rfl
  have untick : OfferedStep answered ticked :=
    @OfferedStep.command _ _ (.leveling (.toggleShift ⟨1⟩)) ⟨sampleResult, listed, by decide⟩ rfl
  have apply : OfferedStep ticked applied :=
    @OfferedStep.command _ _ (.leveling (.request .apply)) ⟨sampleResult, listed⟩ rfl
  have run : OfferedRun ticked :=
    .step (.step (.step (.initial _ _ _) ask) (.event asked _)) untick
  obtain ⟨ticks, steps⟩ := applied_shifts_are_listed run
  exact ⟨ticked, applied, run, apply, listed, rfl, ticks sampleResult listed, steps applied apply⟩

end Application

end LoadChart
