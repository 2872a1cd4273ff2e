import LoadChart.Proofs.Application.History
import LoadChart.Session

/-!
# Sessions run the application

A session starts the application from its settings and moves it only by commands, answers of the
service, refreshes and what the surroundings do.  So what holds of all recorded histories holds in
every session.
-/

namespace LoadChart

namespace Application

variable {app after : Application} {ledger : Ledger} {dialogs : Dialogs}

theorem writeUtilization?_writes {place : UtilizationExport.Place}
    (done : app.writeUtilization? place = some after) :
    ∃ status notices, after = { app with status, notices } := by
  obtain ⟨written, _, rfl⟩ := Option.map_eq_some_iff.1 done
  cases written with
  | ok table => exact ⟨_, app.notices, rfl⟩
  | error failure => exact ⟨app.status, _, rfl⟩

theorem answerDialog?_writes {command : Command}
    (done : app.answerDialog? dialogs command = some after) :
    ∃ status notices, after = { app with status, notices } := by
  unfold answerDialog? at done
  split at done
  · split at done
    · cases done
      exact ⟨_, _, rfl⟩
    · split at done
      · exact writeUtilization?_writes done
      · cases done
        exact ⟨_, _, rfl⟩
  · split at done
    · cases done
      exact ⟨app.status, _, rfl⟩
    · cases done
      exact ⟨_, _, rfl⟩
  · cases done
    exact ⟨_, _, rfl⟩

theorem Recorded.runAll? {commands : List Command} (recorded : Recorded app ledger)
    (done : app.runAll? dialogs commands = some after) : Recorded after ledger := by
  induction commands generalizing app with
  | nil =>
      cases done
      exact recorded
  | cons command rest induction =>
      obtain ⟨answered, step, later⟩ := Option.bind_eq_some_iff.1 done
      obtain ⟨ran, isRun, dialog⟩ := Option.bind_eq_some_iff.1 step
      obtain ⟨status, notices, rfl⟩ := answerDialog?_writes dialog
      exact induction ((recorded.command isRun).surroundings status notices ran.showAbout) later

theorem Recorded.ofSettings? {settings : Settings} {today : Day}
    (started : ofSettings? settings today = some app) : Recorded app .empty := by
  obtain ⟨range, _, rfl⟩ := Option.map_eq_some_iff.1 started
  exact .initial settings.program range settings.scale

end Application

namespace Session

/-- The application of a session has a history. -/
def IsRecorded (session : Session) : Prop := ∃ ledger, session.app.Recorded ledger

variable {session after : Session} {desktop : Desktop}

theorem IsRecorded.answerTask (recorded : session.IsRecorded) (task : Task) :
    (session.answerTask task).IsRecorded := by
  obtain ⟨ledger, recorded⟩ := recorded
  obtain ⟨response?, routes⟩ := session.routes.respondTo? (task.call.request? session.service)
  unfold IsRecorded Session.answerTask
  dsimp only
  cases task.event? (task.call.answer _) with
  | none => exact ⟨ledger, recorded⟩
  | some event => exact ⟨_, recorded.event event⟩

theorem IsRecorded.answerAll (recorded : session.IsRecorded) : session.answerAll.IsRecorded := by
  obtain ⟨ledger, recorded⟩ := recorded
  refine List.foldlRecOn _ Session.answerTask ⟨_, recorded.send⟩ ?_
  intro session recorded task _
  exact IsRecorded.answerTask recorded task

theorem IsRecorded.drawAgain? (recorded : session.IsRecorded)
    (drawn : session.drawAgain? desktop = some after) : after.IsRecorded := by
  obtain ⟨ledger, recorded⟩ := recorded
  obtain ⟨app, refreshed, same⟩ := Option.bind_eq_some_iff.1 drawn
  cases same
  exact ⟨ledger, recorded.refresh refreshed⟩

theorem IsRecorded.frame? {signal : Signal} (recorded : session.IsRecorded)
    (drawn : session.frame? desktop signal = some after) : after.IsRecorded := by
  obtain ⟨ledger, recorded⟩ := recorded.answerAll
  obtain ⟨app, refreshed, done⟩ := Option.bind_eq_some_iff.1 drawn
  dsimp only at done
  generalize Memory.react _ _ _ = reacted at done
  obtain ⟨memory, reaction⟩ := reacted
  obtain ⟨ran, isRun, done⟩ := Option.bind_eq_some_iff.1 done
  have closed := (recorded.refresh refreshed).surroundings app.status app.notices
    (app.showAbout && !reaction.closesAbout)
  have expired := (closed.runAll? isRun).surroundings ran.status
    (ran.notices.expire (Float.ofNat session.answerAll.frames * desktop.frameSeconds)) ran.showAbout
  split at done
  · obtain ⟨last, again, same⟩ := Option.bind_eq_some_iff.1 done
    cases same
    have lastRecorded : last.IsRecorded := IsRecorded.drawAgain? ⟨ledger, expired⟩ again
    exact lastRecorded
  · cases done
    exact ⟨ledger, expired⟩

/-- Whatever the settings, the signals of the user, the answers of the service and those of the
dialogs are, the application of a session goes through recorded states. -/
theorem isRecorded_of_frames? {settings : Settings} {today : Day} {routes : Routes}
    {signals : List Signal} (started : start? settings today routes = some session)
    (drawn : session.frames? desktop signals = some after) : after.IsRecorded := by
  obtain ⟨app, fromSettings, rfl⟩ := Option.map_eq_some_iff.1 started
  have recorded :
      (send ⟨app, .initial, .ofText settings.serviceAddress, routes, [], 0⟩).IsRecorded :=
    ⟨_, .ofSettings? fromSettings⟩
  clear started
  generalize send _ = session at recorded drawn
  induction signals generalizing session with
  | nil =>
      cases drawn
      exact recorded
  | cons signal rest induction =>
      obtain ⟨next, first, later⟩ := Option.bind_eq_some_iff.1 drawn
      exact induction _ (recorded.frame? first) later

end Session

end LoadChart
