import LoadChart.Calendar.Day
import LoadChart.Screen.Box
import LoadChart.View

/-!
# Controls

Everything on the screen that takes the pointer or the keyboard, where it is drawn, and what it
does.
-/

namespace LoadChart

/-- The menus of the menu bar. -/
inductive Menu where
  | file
  | view
  | leveling
  | help
deriving DecidableEq

/-- The two ends of a range. -/
inductive RangeEnd where
  | first
  | last
deriving DecidableEq

/-- The parts of a date. -/
inductive DatePart where
  | year
  | month
  | day
deriving DecidableEq

/-- Where things are drawn. -/
inductive Surface where
  /-- The panels, below everything else. -/
  | panels
  | notices
  | levelingWindow
  | aboutWindow
  | menu (menu : Menu)
  | barMenu (assignment : Identifier)
  | datePicker (rangeEnd : RangeEnd)
  /-- The list of what a part of a date can be. -/
  | choices (rangeEnd : RangeEnd) (part : DatePart)
  | tip
deriving DecidableEq

namespace Surface

/-- Panels lie below windows, windows below pop-ups, and tips above all. -/
def level : Surface → Nat
  | .panels => 0
  | .notices | .levelingWindow | .aboutWindow => 1
  | .menu _ | .barMenu _ | .datePicker _ | .choices _ _ => 2
  | .tip => 3

end Surface

/-- Tables whose columns are as wide as their contents. -/
inductive Table where
  | histogram
  | metrics
  | shifts
deriving DecidableEq

/-- The sides and corners by which a window is made larger. -/
inductive Side where
  | right
  | left
  | bottom
  | top
  | bottomRight
  | topRight
  | bottomLeft
  | topLeft
deriving DecidableEq

namespace Side

def all : List Side :=
  [.right, .left, .bottom, .top, .bottomRight, .topRight, .bottomLeft, .topLeft]

end Side

/-- Parts of panels whose contents can be moved where there is no room for them. -/
inductive Region where
  | resources
  | chart
  | shifts
  | choices
deriving DecidableEq

/-- The parts of a region that are dragged to move its contents. -/
inductive RegionPart where
  | contents
  | barBelow
  | barBeside
deriving DecidableEq

/-- The ways in which a date picker moves its date. -/
inductive DateStep where
  | years (forward : Bool)
  | months (forward : Bool)
  | days (forward : Bool)
deriving DecidableEq

/-- The parts of a date picker. -/
inductive PickerPart where
  /-- The button that shows what a part of the date can be. -/
  | part (part : DatePart)
  /-- Something that a part of the date can be. -/
  | choice (part : DatePart) (value : Int)
  | step (step : DateStep)
  /-- A day, by its place among the days that are shown. -/
  | day (place : Nat)
  | cancel
  | save
deriving DecidableEq

/-- Things that take the pointer or the keyboard. -/
inductive Control where
  /-- The ground of a surface. -/
  | ground (surface : Surface)
  /-- An edge by which a surface is made larger. -/
  | edge (surface : Surface) (side : Side)
  /-- The part of a window with its title. -/
  | title (surface : Surface)
  | region (region : Region) (part : RegionPart)
  /-- A text that can be marked. -/
  | words (text : String)
  | menuButton (menu : Menu)
  | menuItem (text : String)
  | search
  | category (category : Category)
  | onlyOverallocated
  | onlyAssigned
  | pool (pool : Identifier)
  | clearFilters
  | resource (resource : Identifier)
  | histogram
  | previousPeriod
  | today
  | nextPeriod
  | rangeEnd (rangeEnd : RangeEnd)
  | scale (scale : Scale)
  | chart
  | lane (resource : Identifier)
  | bar (assignment : Identifier)
  | preserveCriticalPath
  | levelWithinFloat
  | maxIterations
  | levelingRequest (request : LevelingRequest)
  | shift (activity : Identifier)
  | closeLeveling
  | closeAbout
  | openSettings
  | retry
  | picker (rangeEnd : RangeEnd) (part : PickerPart)
deriving DecidableEq

namespace Control

/-- Whether a control is told from others by its name.  Texts are not. -/
def isNamed : Control → Bool
  | .words _ => false
  | _ => true

def isMenuButton : Control → Bool
  | .menuButton _ => true
  | _ => false

def isBar : Control → Bool
  | .bar _ => true
  | _ => false

end Control

/-- What a control does when it is used. -/
inductive Deed where
  | command (command : Command)
  /-- Opens a menu, or closes it if it is open. -/
  | toggleMenu (menu : Menu)
  /-- Closes the menu in which the control is. -/
  | closeMenu
  /-- Opens the menu of a bar at the pointer. -/
  | openBarMenu (assignment : Identifier)
  /-- Opens a date picker; one without a day begins at the given one. -/
  | openDatePicker (rangeEnd : RangeEnd) (day : Day)
  /-- Shows what a part of a date can be, or hides it if it is shown. -/
  | toggleChoices (rangeEnd : RangeEnd) (part : DatePart)
  /-- Moves a date picker to a day. -/
  | showDay (rangeEnd : RangeEnd) (day : Day)
  /-- Closes a date picker, which forgets its day. -/
  | closeDatePicker (rangeEnd : RangeEnd)
  | closeAbout

/-- A text that can be typed into. -/
structure Entry where
  text : String
  /-- The distance of the text from the left edge of its control. -/
  indent : Float32
  /-- What an edited text does. -/
  edit : String → List Deed
  /-- It is a button until a click or the Tab key opens it with all its letters selected.  While
  it is open it shows what is typed, even where that means nothing. -/
  isButton : Bool := false

/-- A control, and how it answers. -/
structure Target where
  control : Control
  /-- It can be clicked. -/
  clicks : Bool := true
  /-- It can be dragged. -/
  drags : Bool := false
  enabled : Bool := true
  /-- It can have the focus of the keyboard. -/
  focuses : Bool := true
  onClick : List Deed := []
  /-- What a click of the other button does. -/
  onContext : List Deed := []
  /-- What the Delete key does while nothing has the focus. -/
  onDelete : List Deed := []
  /-- What turning the wheel forwards or backwards does while the control key is down. -/
  onWheel : Bool → List Deed := fun _ => []
  /-- The texts shown while the pointer rests on a point of it. -/
  tip : Point → List String := fun _ => []
  entry : Option Entry := none

namespace Target

def takesFocus (target : Target) : Bool :=
  target.enabled && target.focuses && (target.clicks || target.drags)

end Target

namespace Surface

def owner? : Surface → Option Control
  | .menu opened => some (.menuButton opened)
  | .barMenu assignment => some (.bar assignment)
  | .datePicker rangeEnd => some (.rangeEnd rangeEnd)
  | .choices rangeEnd part => some (.picker rangeEnd (.part part))
  | _ => none

end Surface

end LoadChart
