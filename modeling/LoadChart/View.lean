import LoadChart.Filter
import LoadChart.Layout
import LoadChart.Leveling.Basic
import LoadChart.Leveling.State

/-!
# State of the view

What the user asks of the view, everything the user chooses, changed by commands alone, and the work
that is left to do after a change.  The revision moves on whenever something changes from which the
grid is built.
-/

namespace LoadChart

/-- A change to the leveling window. -/
inductive LevelingCommand where
  | openWindow
  | closeWindow
  | setOptions (options : LevelingOptions)
  | request (request : LevelingRequest)
  | toggleShift (activity : Identifier)

/-- What the user asks of the view. -/
inductive Command where
  | setScale (scale : Scale)
  | setRange (first last : Day)
  | shiftRange (days : Int)
  | toggleUtilization
  | toggleHighlight
  | setFilter (filter : Filter)
  | clearFilters
  | selectResource (resource : Option Identifier)
  | bar (command : BarCommand)
  | retry
  | leveling (command : LevelingCommand)
  | exportUtilization
  | openSettingsFolder
  | showAbout

/-- Work that is left to do after a command. -/
inductive Effect where
  /-- The range changed, so the assignments of it are needed. -/
  | fetchAssignments
  /-- The selected resource, the range or the scale changed. -/
  | fetchHistogram
  /-- Everything is asked for again. -/
  | refetch
  | deleteAssignment (assignment : Identifier)
  | leveling (ticket : LevelingTicket)
  | exportUtilization
  | openSettingsFolder
  | showAbout
  /-- The user is told that something is not possible. -/
  | notify (message : String)

/-- What the user sees and has chosen. -/
structure ViewState where
  range : DayRange
  scale : Scale
  showUtilization : Bool
  highlightOverallocations : Bool
  filter : Filter
  selectedResource : Option Identifier
  selectedAssignment : Option Identifier
  leveling : LevelingState
  revision : Nat

namespace ViewState

def rowHeight : Float32 := 30

def headerHeight : Float32 := 44

def sidebarWidth : Float32 := 320

def initial (range : DayRange) (scale : Scale) : ViewState :=
  { range
    scale
    showUtilization := true
    highlightOverallocations := true
    filter := .standard
    selectedResource := none
    selectedAssignment := none
    leveling := .initial
    revision := 0 }

def touch (view : ViewState) : ViewState := { view with revision := view.revision + 1 }

def histogramEffects (view : ViewState) : List Effect :=
  if view.selectedResource.isSome then [.fetchHistogram] else []

def rangeEffects (view : ViewState) : List Effect := .fetchAssignments :: view.histogramEffects

def nothingSelectedText : String := "Select at least one shift to apply"

def dispatchLeveling (view : ViewState) : LevelingCommand → ViewState × List Effect
  | .openWindow => ({ view with leveling := { view.leveling with isOpen := true } }, [])
  | .closeWindow => ({ view with leveling := { view.leveling with isOpen := false } }, [])
  | .setOptions options => ({ view with leveling := { view.leveling with options } }, [])
  | .toggleShift activity => ({ view with leveling := view.leveling.toggleShift activity }, [])
  | .request request =>
      if request = .apply ∧ view.leveling.selected.isEmpty then
        (view, [.notify nothingSelectedText])
      else
        let (leveling, ticket) := view.leveling.begin request
        ({ view with leveling }, [.leveling ticket])

/-- Replaces the range, unless it is reversed. -/
def setRange (view : ViewState) (first last : Day) : ViewState × List Effect :=
  match DayRange.of? first last with
  | some range =>
      let view := { view with range }.touch
      (view, view.rangeEffects)
  | none => (view, [.notify (TimelineError.reversedText first last)])

/-- Moves the range, unless that leaves the calendar. -/
def shiftRange? (view : ViewState) (days : Int) : Option (ViewState × List Effect) :=
  if days = 0 then some (view, [])
  else
    (view.range.shift? days).map fun range =>
      let view := { view with range }.touch
      (view, view.rangeEffects)

def setFilter (view : ViewState) (filter : Filter) : ViewState :=
  if filter = view.filter then view else { view with filter }.touch

/-- Selects a bar, or takes the selection from one that is to be deleted. -/
def dispatchBar (view : ViewState) : BarCommand → ViewState × List Effect
  | .select assignment => ({ view with selectedAssignment := some assignment }, [])
  | .delete assignment =>
      let view :=
        if view.selectedAssignment = some assignment then { view with selectedAssignment := none }
        else view
      (view, [.deleteAssignment assignment])

/-- Changes the view, and tells what is left to do.  There is no answer where the range would
leave the calendar. -/
def dispatch? (view : ViewState) : Command → Option (ViewState × List Effect)
  | .setScale scale =>
      if scale = view.scale then some (view, [])
      else
        let view := { view with scale }.touch
        some (view, view.histogramEffects)
  | .setRange first last => some (view.setRange first last)
  | .shiftRange days => view.shiftRange? days
  | .toggleUtilization =>
      some ({ view with showUtilization := !view.showUtilization }.touch, [])
  | .toggleHighlight =>
      some ({ view with highlightOverallocations := !view.highlightOverallocations }.touch, [])
  | .setFilter filter => some (view.setFilter filter, [])
  | .clearFilters => some (view.setFilter .standard, [])
  | .selectResource resource =>
      let view := { view with selectedAssignment := none }
      if resource = view.selectedResource then some (view, [])
      else
        let view := { view with selectedResource := resource }
        some (view, view.histogramEffects)
  | .bar command => some (view.dispatchBar command)
  | .retry => some (view, [.refetch])
  | .leveling command => some (view.dispatchLeveling command)
  | .exportUtilization => some (view, [.exportUtilization])
  | .openSettingsFolder => some (view, [.openSettingsFolder])
  | .showAbout => some (view, [.showAbout])

/-- The columns over the range, unless they leave the calendar. -/
def columns? (view : ViewState) : Option (List Column) := Column.over? view.range view.scale

end ViewState

end LoadChart
