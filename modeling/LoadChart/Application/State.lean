import LoadChart.Filter
import LoadChart.Layout
import LoadChart.Notice
import LoadChart.Service.Answer
import LoadChart.Service.Query
import LoadChart.Settings
import LoadChart.View

/-!
# State of the application

The view, the queries to the service, the deletions under way and the grid built last, which holds
everything the chart draws.  Tasks that are to be handed to the service wait in the outbox.  A task
is a request with the key by which its answer is known, and an event is an answer that has
arrived.
-/

namespace LoadChart

/-- The key of a list of assignments. -/
structure AssignmentsKey where
  resource : Identifier
  range : DayRange
deriving DecidableEq

/-- The key of a histogram. -/
structure HistogramKey where
  resource : Identifier
  range : DayRange
  granularity : Granularity
deriving DecidableEq

/-- A request handed to the service. -/
inductive Task where
  | resources (program : Identifier)
  | assignments (key : AssignmentsKey)
  | histogram (key : HistogramKey)
  | leveling (ticket : LevelingTicket) (program : Identifier) (options : LevelingOptions)
      (shifts : List Identifier)
  | delete (resource assignment : Identifier)

/-- An answer that has arrived. -/
inductive Event where
  | resources (program : Identifier) (answer : Except Failure (List Resource))
  | assignments (key : AssignmentsKey) (answer : Except Failure (List AssignmentRecord))
  | histogram (key : HistogramKey) (answer : Except Failure Histogram)
  | leveling (ticket : LevelingTicket) (answer : Except Failure LevelingOutcome)
  | deleted (resource assignment : Identifier) (answer : Except Failure Unit)

namespace Task

def call : Task → Call
  | .resources program => .listResources program
  | .assignments key => .listAssignments key.resource
  | .histogram key => .histogram key.resource key.range key.granularity
  | .leveling ticket program options shifts => .leveling ticket.request program options shifts
  | .delete _ assignment => .deleteAssignment assignment

/-- The event for the answer to a task.  An answer of another kind tells nothing. -/
def event? : Task → Except Failure Answer → Option Event
  | .resources program, .ok (.resources value) => some (.resources program (.ok value))
  | .resources program, .error failure => some (.resources program (.error failure))
  | .assignments key, .ok (.assignments value) => some (.assignments key (.ok value))
  | .assignments key, .error failure => some (.assignments key (.error failure))
  | .histogram key, .ok (.histogram value) => some (.histogram key (.ok value))
  | .histogram key, .error failure => some (.histogram key (.error failure))
  | .leveling ticket _ _ _, .ok (.leveling value) => some (.leveling ticket (.ok value))
  | .leveling ticket _ _ _, .error failure => some (.leveling ticket (.error failure))
  | .delete resource assignment, .ok .deleted => some (.deleted resource assignment (.ok ()))
  | .delete resource assignment, .error failure =>
      some (.deleted resource assignment (.error failure))
  | _, _ => none

end Task

/-- What the chart draws. -/
structure Grid where
  columns : List Column
  groups : List MonthGroup
  lanes : List Lane
  filtered : List Lane
  rows : List LaneRows
  stats : FilterStats
  pools : OrderedSet Identifier

namespace Grid

def empty : Grid := ⟨[], [], [], [], [], .zero, OrderedSet.empty⟩

/-- Builds the grid, unless its columns leave the calendar. -/
def build? (view : ViewState) (resources : List Resource)
    (records : OrderedMap Identifier (List AssignmentRecord)) : Option Grid :=
  view.columns?.map fun columns =>
    let lanes := Lane.ofResources resources records view.range
    let filtered := view.filter.apply lanes
    { columns
      groups := MonthGroup.ofColumns columns
      lanes
      filtered
      rows := LaneRows.ofLanes filtered columns ViewState.rowHeight view.showUtilization
      stats := .ofLanes lanes
      pools := knownPools lanes }

end Grid

/-- An assignment taken out of its list while its deletion is under way. -/
structure PendingDeletion where
  resource : Identifier
  /-- Its place in the list. -/
  index : Nat
  record : AssignmentRecord

/-- The revisions from which a grid was built. -/
structure GridKey where
  view : Nat
  data : Nat
deriving DecidableEq

abbrev AssignmentQuery := Query AssignmentsKey (List AssignmentRecord)

/-- The whole application. -/
structure Application where
  program : Option Identifier
  view : ViewState
  resources : Query Identifier (List Resource)
  assignments : OrderedMap Identifier AssignmentQuery
  histogram : Query HistogramKey Histogram
  pending : OrderedMap Identifier PendingDeletion
  /-- Moves on whenever the data of a query change. -/
  dataRevision : Nat
  gridKey : Option GridKey
  grid : Grid
  notices : Notices Float
  status : String
  showAbout : Bool
  outbox : List Task

namespace Application

def noProgramText : String := "No program configured"

def send (app : Application) (task : Task) : Application :=
  { app with outbox := app.outbox ++ [task] }

def requestResources (app : Application) : Application :=
  match app.program with
  | none => { app with status := noProgramText }
  | some program =>
      let (resources, isSent) := app.resources.request program
      let app := { app with resources }
      if isSent then app.send (.resources program) else app

def initial (program : Option Identifier) (range : DayRange) (scale : Scale) : Application :=
  requestResources
    { program
      view := .initial range scale
      resources := .initial
      assignments := .empty
      histogram := .initial
      pending := .empty
      dataRevision := 0
      gridKey := none
      grid := .empty
      notices := .empty
      status := "Ready"
      showAbout := false
      outbox := [] }

/-- The application as settings start it, unless its first range leaves the calendar. -/
def ofSettings? (settings : Settings) (today : Day) : Option Application :=
  (settings.firstRange? today).map fun range => initial settings.program range settings.scale

def listed (app : Application) : List Identifier :=
  (app.resources.value?.getD []).map (·.identifier)

/-- The query for the assignments of a resource, a new one if there is none. -/
def assignmentQuery (app : Application) (resource : Identifier) : AssignmentQuery :=
  (app.assignments.find? resource).getD .initial

def requestAssignmentsOf (app : Application) (resource : Identifier) : Application :=
  let key : AssignmentsKey := ⟨resource, app.view.range⟩
  let (query, isSent) := (app.assignmentQuery resource).request key
  let app := { app with assignments := app.assignments.insert resource query }
  if isSent then app.send (.assignments key) else app

def requestAssignments (app : Application) : Application :=
  app.listed.foldl requestAssignmentsOf app

def requestHistogram (app : Application) : Application :=
  match app.view.selectedResource with
  | none => app
  | some resource =>
      let key : HistogramKey := ⟨resource, app.view.range, app.view.scale.granularity⟩
      let (histogram, isSent) := app.histogram.request key
      let app := { app with histogram }
      if isSent then app.send (.histogram key) else app

/-- Asks for the resources again. -/
def refetchResources (app : Application) : Application :=
  if app.resources.value?.isNone then app.requestResources
  else
    let (resources, wanted) := app.resources.invalidate
    let app := { app with resources }
    match wanted with
    | some program => app.send (.resources program)
    | none => app

/-- Asks for all wanted assignments again. -/
def refetchAssignments (app : Application) : Application :=
  let wanted := app.assignments.values.filterMap (·.wanted)
  { app with
    assignments := app.assignments.mapValues fun _ query => query.invalidate.1
    outbox := app.outbox ++ wanted.map Task.assignments }

/-- Asks for the wanted histogram again. -/
def refetchHistogram (app : Application) : Application :=
  let (histogram, wanted) := app.histogram.invalidate
  let app := { app with histogram }
  match wanted with
  | some key => app.send (.histogram key)
  | none => app

/-- Asks for everything again, also for what failed. -/
def refetchAll (app : Application) : Application :=
  app.refetchResources.refetchAssignments.refetchHistogram

def isFetching (app : Application) : Bool :=
  app.resources.isFetching || app.histogram.isFetching
    || app.assignments.values.any (·.isFetching)

def records (app : Application) : OrderedMap Identifier (List AssignmentRecord) :=
  ⟨app.assignments.entries.filterMap fun entry => entry.2.value?.map (entry.1, ·), by
    refine List.pairwise_filterMap.2 (app.assignments.ascending.imp ?_)
    intro left right below leftEntry leftFound rightEntry rightFound
    obtain ⟨_, _, rfl⟩ := Option.map_eq_some_iff.1 leftFound
    obtain ⟨_, _, rfl⟩ := Option.map_eq_some_iff.1 rightFound
    exact below⟩

/-- The grid of the present state, built from nothing but the view and the data. -/
def freshGrid? (app : Application) : Option Grid :=
  Grid.build? app.view (app.resources.value?.getD []) app.records

def presentKey (app : Application) : GridKey := ⟨app.view.revision, app.dataRevision⟩

/-- Builds the grid again if a revision has moved on.  There is no answer where the columns leave
the calendar. -/
def refresh? (app : Application) : Option Application :=
  if app.gridKey = some app.presentKey then some app
  else app.freshGrid?.map fun grid => { app with grid, gridKey := some app.presentKey }

end Application

end LoadChart
