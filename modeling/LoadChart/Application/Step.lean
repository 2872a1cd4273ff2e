import LoadChart.Application.State
import LoadChart.Export

/-!
# Steps of the application

How the application takes the answers of the service and the commands of the user.  A deletion takes
the record out of its list at once.  If the service refuses, the record goes back to where it was,
unless a list that arrived meanwhile has it again.  Dialogs keep the program waiting, so their
answers are at hand when a command opens one.
-/

namespace LoadChart

namespace Application

def placeOf? (records : List AssignmentRecord) (assignment : Identifier) : Option Nat :=
  records.findIdx? fun record => record.identifier = assignment

/-- The first resource that holds a record, with its place and the record. -/
def locate? (assignments : OrderedMap Identifier AssignmentQuery) (assignment : Identifier) :
    Option PendingDeletion :=
  assignments.entries.findSome? fun (resource, query) => do
    let records ← query.value?
    let index ← placeOf? records assignment
    let record ← records[index]?
    return ⟨resource, index, record⟩

/-- Changes the list of one resource, if it has one. -/
def editRecords (assignments : OrderedMap Identifier AssignmentQuery) (resource : Identifier)
    (change : List AssignmentRecord → List AssignmentRecord) :
    OrderedMap Identifier AssignmentQuery :=
  assignments.mapValues fun key query => if key = resource then query.edit change else query

def takeOut (pending : PendingDeletion) (records : List AssignmentRecord) :
    List AssignmentRecord :=
  records.eraseIdx pending.index

/-- Puts a record back at its place, or at the end of a list that has become shorter. -/
def putBack (pending : PendingDeletion) (records : List AssignmentRecord) :
    List AssignmentRecord :=
  if records.any fun record => record.identifier = pending.record.identifier then records
  else records.insertIdx (min pending.index records.length) pending.record

def deleteAssignment (app : Application) (assignment : Identifier) : Application :=
  match locate? app.assignments assignment with
  | none => app
  | some pending =>
      { app with
        assignments := editRecords app.assignments pending.resource (takeOut pending)
        pending := app.pending.insert assignment pending
        dataRevision := app.dataRevision + 1
        status := "Deleting assignment..."
        outbox := app.outbox ++ [.delete pending.resource assignment] }

/-- Takes the answer to a deletion, if one is under way. -/
def finishDeletion (app : Application) (assignment : Identifier) (answer : Except Failure Unit) :
    Application :=
  match app.pending.find? assignment with
  | none => app
  | some pending =>
      let app := { app with pending := app.pending.erase assignment }
      match answer with
      | .ok () => { app with status := "Assignment deleted" }
      | .error failure =>
          { app with
            assignments := editRecords app.assignments pending.resource (putBack pending)
            dataRevision := app.dataRevision + 1
            notices := app.notices.error ("Delete failed: " ++ failure.message) }

end Application

/-- Why the folder of the settings is not shown. -/
inductive FolderProblem where
  | noFolder
  | notOpened (path reason : String)

/-- The text shown for a folder that is not shown. -/
def FolderProblem.message : FolderProblem → String
  | .noFolder => "could not determine the configuration directory"
  | .notOpened path reason => "Could not open " ++ path ++ ": " ++ reason

/-- What the user and the system answer to the dialogs. -/
structure Dialogs where
  /-- The file that is chosen for a table with a proposed name, unless the choice is cancelled. -/
  choose? : (proposed : String) → Option UtilizationExport.Place
  folderProblem? : Option FolderProblem

namespace Application

def receiveResources (app : Application) (program : Identifier)
    (answer : Except Failure (List Resource)) : Application :=
  let (resources, resolution) := app.resources.resolve program (answer.mapError Failure.message)
  let app := { app with resources }
  if resolution = .superseded then app
  else
    let app := { app with dataRevision := app.dataRevision + 1 }
    match answer with
    | .ok list =>
        let listed := app.listed
        requestAssignments
          { app with
            status := "Loaded " ++ numberText list.length ++ " resources"
            assignments := app.assignments.filterKeys fun resource => listed.contains resource }
    | .error failure =>
        if app.resources.value?.isSome then
          { app with
            notices := app.notices.error ("Could not refresh resources: " ++ failure.message) }
        else app

def receiveAssignments (app : Application) (key : AssignmentsKey)
    (answer : Except Failure (List AssignmentRecord)) : Application :=
  let (query, resolution) :=
    (app.assignmentQuery key.resource).resolve key (answer.mapError Failure.message)
  let app := { app with assignments := app.assignments.insert key.resource query }
  if resolution = .superseded then app
  else
    let app := { app with dataRevision := app.dataRevision + 1 }
    match answer with
    | .ok _ => app
    | .error failure =>
        { app with
          notices := app.notices.error ("Could not load assignments: " ++ failure.message) }

def receiveHistogram (app : Application) (key : HistogramKey)
    (answer : Except Failure Histogram) : Application :=
  let (histogram, resolution) := app.histogram.resolve key (answer.mapError Failure.message)
  let app := { app with histogram }
  match resolution, answer with
  | .applied, .error failure =>
      { app with
        notices := app.notices.error ("Could not load histogram: " ++ failure.message) }
  | _, _ => app

/-- Takes the answer to a leveling request.  After shifts were applied everything is asked for
again. -/
def receiveLeveling (app : Application) (ticket : LevelingTicket)
    (answer : Except Failure LevelingOutcome) : Application :=
  let (leveling, applied?) := app.view.leveling.finish ticket (answer.mapError Failure.message)
  let app := { app with view := { app.view with leveling } }
  match applied? with
  | none => app
  | some count =>
      refetchAll
        { app with
          status := "Applied " ++ numberText count ++ " leveling shifts"
          notices := app.notices.info ("Applied " ++ numberText count ++ " shifts; reloading") }

def receive (app : Application) : Event → Application
  | .resources program answer => app.receiveResources program answer
  | .assignments key answer => app.receiveAssignments key answer
  | .histogram key answer => app.receiveHistogram key answer
  | .leveling ticket answer => app.receiveLeveling ticket answer
  | .deleted _ assignment answer => app.finishDeletion assignment answer

/-- Hands a leveling request to the service; without a program it fails at once. -/
def sendLeveling (app : Application) (ticket : LevelingTicket) : Application :=
  match app.program with
  | some program =>
      app.send
        (.leveling ticket program app.view.leveling.options app.view.leveling.shiftIdentifiers)
  | none =>
      let leveling := (app.view.leveling.finish ticket (.error noProgramText)).1
      { app with view := { app.view with leveling } }

/-- Does the work that a command left.  What a dialog is for is done when it has been answered. -/
def perform (app : Application) : Effect → Application
  | .fetchAssignments => app.requestAssignments
  | .fetchHistogram => app.requestHistogram
  | .refetch => app.refetchAll
  | .deleteAssignment assignment => app.deleteAssignment assignment
  | .leveling ticket => app.sendLeveling ticket
  | .exportUtilization =>
      if app.grid.filtered.isEmpty then
        { app with status := "Nothing to export: no visible resources" }
      else app
  | .openSettingsFolder => app
  | .showAbout => { app with showAbout := true }
  | .notify message => { app with notices := app.notices.error message }

/-- Runs a command and does the work that it leaves, unless the range would leave the
calendar. -/
def run? (app : Application) (command : Command) : Option Application :=
  (app.view.dispatch? command).map fun (view, effects) =>
    effects.foldl perform { app with view }

def proposedName (app : Application) : String :=
  "utilization-" ++ app.view.range.first.isoText ++ "-" ++ app.view.range.last.isoText ++ ".csv"

def writeUtilization? (app : Application) (place : UtilizationExport.Place) : Option Application :=
  (UtilizationExport.write? app.grid.filtered app.grid.columns place).map fun
    | .ok (_, count) =>
        { app with status := "Exported " ++ numberText count ++ " utilization rows" }
    | .error failure => { app with notices := app.notices.error failure.message }

/-- Takes the answer to the dialog that a command opens, if it opens one. -/
def answerDialog? (dialogs : Dialogs) (app : Application) : Command → Option Application
  | .exportUtilization =>
      if app.grid.filtered.isEmpty then some app
      else
        match dialogs.choose? app.proposedName with
        | some place => app.writeUtilization? place
        | none => some app
  | .openSettingsFolder =>
      match dialogs.folderProblem? with
      | some problem => some { app with notices := app.notices.error problem.message }
      | none => some app
  | _ => some app

/-- Runs commands one after the other, with the dialogs that they open. -/
def runAll? (dialogs : Dialogs) (app : Application) (commands : List Command) :
    Option Application :=
  commands.foldlM
    (fun app command => (app.run? command).bind fun app => app.answerDialog? dialogs command) app

end Application

end LoadChart
