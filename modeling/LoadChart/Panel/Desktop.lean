import LoadChart.Application.State
import LoadChart.Application.Step
import LoadChart.Panel.Bars
import LoadChart.Panel.Chart
import LoadChart.Panel.DatePicker
import LoadChart.Panel.Sidebar
import LoadChart.Panel.Windows

/-!
# The desktop

All panels on the screen, with windows and pop-ups above them, or a single panel that has the screen
for itself.  In the middle is the range bar over the chart, or why there is nothing to show.
-/

namespace LoadChart

namespace Central

/-- What keeps the chart from being shown. -/
inductive Obstacle where
  | noProgram
  | loading
  | failed (message : String)

/-- What keeps the chart from being shown, if anything does. -/
def obstacle? (app : Application) : Option Obstacle :=
  if app.program.isNone then some .noProgram
  else if app.resources.isInitialLoad then some .loading
  else
    match app.resources.value?, app.resources.error with
    | none, some message => some (.failed message)
    | _, _ => none

def notice (width : Float32) (blocks : List Block) : Block :=
  Block.column Block.gapY (Block.blankY 56 :: blocks.map fun block => .centered width 0 block)

def obstacleBlocks : Obstacle → List Block
  | .noProgram =>
      [Block.label "No program configured" Lettering.heading,
        Block.label "Set program_id in settings.json or RESOURCE_GANTT_PROGRAM_ID." Lettering.body,
        Block.button { control := .openSettings, onClick := [.command .openSettingsFolder] }
          "Open Settings Folder"]
  | .loading =>
      [.blank Block.rowHeight Block.rowHeight, Block.label "Loading resources..." Lettering.body]
  | .failed message =>
      [Block.label "Could not load resources" Lettering.body, Block.label message Lettering.body,
        Block.blankY 4,
        Block.button { control := .retry, onClick := [.command .retry] } "Retry"]

def rangeBar (app : Application) (today : Day) : RangeBar := ⟨app.view, today⟩

/-- The room of the chart, below the range bar. -/
def chartRoom (app : Application) (today : Day) (room : Box) : Box :=
  { room with
    top := room.top + ((rangeBar app today).block room.width).height + Block.separator.height
      + 2 * Block.gapY }

def chart (app : Application) : Chart := .ofGrid app.view app.grid

def items (app : Application) (today : Day) (room : Box) : List Drawn :=
  match obstacle? app with
  | some obstacle => (notice room.width (obstacleBlocks obstacle)).draw room.topLeft
  | none =>
      ((rangeBar app today).block room.width).draw room.topLeft
        ++ (chart app).items (chartRoom app today room)

def popUps (app : Application) (today : Day) (room : Box) (memory : Memory) : List Sheet :=
  match obstacle? app with
  | some _ => []
  | none =>
      DatePicker.sheets (rangeBar app today) room.topLeft memory
        ++ (chart app).barMenu (chartRoom app today room) memory

end Central

/-- The screen, and what the program knows of its surroundings. -/
structure Desktop where
  screen : Box
  today : Day
  /-- The address of the service. -/
  address : String
  /-- The seconds between two frames. -/
  frameSeconds : Float
  dialogs : Dialogs

namespace Desktop

def statusHeight : Float32 := 24

def sidebarMargin : Float32 := 8

def centralMargin : Float32 := 4

def windowOffset : Float32 := 16

def menuCorner (desktop : Desktop) : Point :=
  ⟨desktop.screen.left + 8, desktop.screen.top + 2⟩

def statusRoom (desktop : Desktop) : Box :=
  let screen := desktop.screen
  ⟨screen.left + 10, screen.bottom - statusHeight, screen.right - 10, screen.bottom⟩

def middle (desktop : Desktop) : Box :=
  { desktop.screen with
    top := desktop.screen.top + MenuBar.height
    bottom := desktop.screen.bottom - statusHeight }

def sidebarRoom (desktop : Desktop) : Box :=
  Box.grow { desktop.middle with right := desktop.middle.left + ViewState.sidebarWidth }
    (-sidebarMargin)

def centralRoom (desktop : Desktop) : Box :=
  Box.grow { desktop.middle with left := desktop.middle.left + ViewState.sidebarWidth }
    (-centralMargin)

def windowCorner (desktop : Desktop) : Point :=
  ⟨desktop.middle.left + ViewState.sidebarWidth + windowOffset, desktop.middle.top + windowOffset⟩

def sidebarEdge (desktop : Desktop) : Drawn :=
  let middle := desktop.middle
  let edge := middle.left + ViewState.sidebarWidth
  let reach := LevelingWindow.edgeReach
  .hidden { control := .edge .panels .right, clicks := false, drags := true }
    { middle with left := edge - reach, right := edge + reach }

def panels (desktop : Desktop) (app : Application) (memory : Memory) : Sheet :=
  ⟨.panels,
    MenuBar.buttons.draw desktop.menuCorner
      ++ StatusBar.items app desktop.statusRoom
      ++ Sidebar.items app memory desktop.sidebarRoom
      ++ [desktop.sidebarEdge]
      ++ Central.items app desktop.today desktop.centralRoom,
    Sidebar.tables app⟩

def scene (desktop : Desktop) (app : Application) (memory : Memory) : Scene :=
  ⟨[desktop.panels app memory]
    ++ MenuBar.openMenu app.view desktop.menuCorner memory
    ++ Central.popUps app desktop.today desktop.centralRoom memory
    ++ LevelingWindow.sheet app.view.leveling memory desktop.windowCorner
    ++ if app.showAbout then [AboutWindow.sheet desktop.screen desktop.address] else []⟩

def withNotices (desktop : Desktop) (app : Application) (scene : Scene) : Scene :=
  ⟨scene.sheets ++ NoticeStack.sheet desktop.screen app.notices⟩

end Desktop

/-- A panel that has the screen for itself. -/
inductive LonePanel where
  | filterBar (bar : FilterBar)
  | resourceTable (table : ResourceTable)
  | histogram (panel : HistogramPanel)
  | leveling (state : LevelingState)
  | menuBar (view : ViewState)
  | rangeBar (bar : RangeBar)
  | grid (chart : Chart)
  | about (address : String)
  | noticeStack (notices : Notices Float)
  | sidebar (app : Application)
  | central (app : Application) (today : Day)
  | status (app : Application)

namespace LonePanel

def ofBlock (room : Box) (block : Block) : Scene :=
  ⟨[{ surface := .panels, items := block.draw room.topLeft }]⟩

/-- A scene with things on the panels, below other sheets. -/
def ofItems (items : List Drawn) (above : List Sheet) : Scene :=
  ⟨{ surface := .panels, items } :: above⟩

def draw (panel : LonePanel) (room : Box) (memory : Memory) : Scene :=
  match panel with
  | .filterBar bar => ofBlock room (bar.block memory room.width)
  | .resourceTable table => ofBlock room (table.block room.height)
  | .histogram panel => ofBlock room (panel.block room.width room.left)
  | .leveling state =>
      ofItems [] (LevelingWindow.sheet state memory
        ⟨room.left + Desktop.windowOffset, room.top + Desktop.windowOffset⟩)
  | .menuBar view =>
      ofItems (MenuBar.buttons.draw room.topLeft) (MenuBar.openMenu view room.topLeft memory)
  | .rangeBar bar =>
      ofItems ((bar.block room.width).draw room.topLeft)
        (DatePicker.sheets bar room.topLeft memory)
  | .grid chart => ofItems (chart.items room) (chart.barMenu room memory)
  | .about address => ⟨[AboutWindow.sheet room address]⟩
  | .noticeStack notices => ⟨NoticeStack.sheet room notices⟩
  | .sidebar app => ofItems (Sidebar.items app memory room) []
  | .central app today =>
      ofItems (Central.items app today room) (Central.popUps app today room memory)
  | .status app => ofItems (StatusBar.items app room) []

end LonePanel

end LoadChart
