import LoadChart.Application.State
import LoadChart.Calendar.Text
import LoadChart.Filter
import LoadChart.Screen.Block
import LoadChart.Screen.Memory
import LoadChart.View

/-!
# Bars of controls

The menu bar has four menus; an open one hangs below its button, above everything else.  The range
bar moves the range, and shows its two ends, the scales and its length.  The filter bar has the
search text, the categories, two boxes to tick and the pools, each with its count; the counts are
those of all lanes, so that they do not shrink while filters are set.  The status bar has the newest
message, and on the right the scale and the numbers of resources.
-/

namespace LoadChart

namespace Menu

def all : List Menu := [.file, .view, .leveling, .help]

def title : Menu → String
  | .file => "  File  "
  | .view => "  View  "
  | .leveling => "  Leveling  "
  | .help => "  Help  "

end Menu

namespace MenuBar

def margin : Float32 := 6

def height : Float32 := 22

def item (text : String) (commands : List Command) : Block :=
  .control { control := .menuItem text, onClick := commands.map .command ++ [.closeMenu] }
    (.flushed 0 Block.rowHeight (.padded 2 0 (.words text Lettering.body)))

/-- An item that cannot be clicked unless it is of use. -/
def itemIf (enabled : Bool) (text : String) (command : Command) : Block :=
  .control
    { control := .menuItem text
      enabled
      onClick := [.command command, .closeMenu] }
    (.flushed 0 Block.rowHeight (.padded 2 0 (.words text Lettering.body)))

/-- A box to tick, which leaves its menu open. -/
def tick (text : String) (command : Command) : Block :=
  Block.tickBox { control := .menuItem text, onClick := [.command command] } text

def fileItems : List Block :=
  [item "\ueaf0  Export Utilization CSV..." [.exportUtilization], Block.separator,
    item "\ue256  Open Settings Folder" [.openSettingsFolder]]

def scaleItem (scale : Scale) : Block :=
  Block.tickBox
    { control := .menuItem scale.label
      onClick := [.command (.setScale scale), .closeMenu] }
    scale.label

def viewItems (view : ViewState) : List Block :=
  [Block.label "Timeline Scale" Lettering.small]
  ++ Scale.all.map scaleItem
  ++ [Block.label "Ctrl+Scroll changes the scale" Lettering.small, Block.separator,
    tick "Utilization rows" .toggleUtilization,
    tick "Highlight overallocations" .toggleHighlight, Block.separator,
    itemIf view.filter.isActive "  Clear Filters" .clearFilters, item "\ue094  Reload" [.retry]]

def levelingItems : List Block :=
  [item "  Open Leveling Panel" [.leveling .openWindow], Block.separator]
  ++ [LevelingRequest.preview, .runSerial, .runParallel, .compare].map fun request =>
    item ("  " ++ request.label) [.leveling .openWindow, .leveling (.request request)]

def helpItems : List Block := [item "About" [.showAbout]]

def items (view : ViewState) : Menu → List Block
  | .file => fileItems
  | .view => viewItems view
  | .leveling => levelingItems
  | .help => helpItems

def justified (blocks : List Block) : List Block :=
  let width := Block.greatest 0 (blocks.map Block.width)
  blocks.map fun block => match block with
    | .control target block => .control target (.flushed width 0 block)
    | block => block

def popUp (surface : Surface) (corner : Point) (items : List Block) : Sheet :=
  let block := Block.padded margin margin (Block.column Block.gapY (justified items))
  { surface
    items := (Block.control { control := .ground surface, clicks := false } block).draw corner }

def buttons : Block :=
  Block.row Block.gapX (Menu.all.map fun menu =>
    .control { control := .menuButton menu, onClick := [.toggleMenu menu] }
      (.flushed 0 Block.rowHeight (.padded 2 0 (.words menu.title Lettering.body))))

def buttonLeft (left : Float32) (menu : Menu) : Float32 :=
  left + (Menu.all.takeWhile (· ≠ menu)).foldl (fun width menu =>
    width + Lettering.width Lettering.body menu.title.toList + 4 + Block.gapX) 0

/-- The open menu, below its button. -/
def openMenu (view : ViewState) (corner : Point) (memory : Memory) : List Sheet :=
  match memory.menu with
  | some menu =>
      [popUp (.menu menu)
        ⟨buttonLeft corner.x menu - margin, corner.y + Block.rowHeight + 2⟩ (items view menu)]
  | none => []

end MenuBar

/-- What the range bar shows. -/
structure RangeBar where
  view : ViewState
  /-- The day of the user. -/
  today : Day

namespace RangeBar

def gap : Float32 := 6

def dayText (day : Day) : String := day.isoText ++ " 📆"

def todayDeeds (bar : RangeBar) : List Deed :=
  ((bar.today.plus? (bar.view.range.length - 1)).map fun last =>
    .command (.setRange bar.today last)).toList

def endDay (bar : RangeBar) : RangeEnd → Day
  | .first => bar.view.range.first
  | .last => bar.view.range.last

def endButton (bar : RangeBar) (rangeEnd : RangeEnd) : Block :=
  let day := bar.endDay rangeEnd
  Block.button { control := .rangeEnd rangeEnd, onClick := [.openDatePicker rangeEnd day] }
    (dayText day)

def previousButton (bar : RangeBar) : Block :=
  Block.button
    { control := .previousPeriod
      onClick := [.command (.shiftRange (-bar.view.range.length))]
      tip := fun _ => ["Previous period"] }
    "\ue138"

def nextButton (bar : RangeBar) : Block :=
  Block.button
    { control := .nextPeriod
      onClick := [.command (.shiftRange bar.view.range.length)]
      tip := fun _ => ["Next period"] }
    "\ue13a"

def todayButton (bar : RangeBar) : Block :=
  Block.button { control := .today, onClick := bar.todayDeeds } "Today"

def scaleButton (scale : Scale) : Block :=
  Block.button { control := .scale scale, onClick := [.command (.setScale scale)] } scale.label

def moveParts (bar : RangeBar) : List Block :=
  [bar.previousButton, bar.todayButton, bar.nextButton, Block.separatorX,
    Block.label "From" Lettering.body]

def firstParts (bar : RangeBar) : List Block :=
  bar.moveParts ++ [bar.endButton .first, Block.label "to" Lettering.body]

def parts (bar : RangeBar) : List Block :=
  bar.firstParts ++ [bar.endButton .last, Block.separatorX] ++ Scale.all.map scaleButton

def block (bar : RangeBar) (width : Float32) : Block :=
  Block.apart width (Block.row gap bar.parts)
    (Block.label (integerText bar.view.range.length ++ " days") 11)

def endLeft (bar : RangeBar) (left : Float32) (rangeEnd : RangeEnd) : Float32 :=
  let parts := match rangeEnd with
    | .first => bar.moveParts
    | .last => bar.firstParts
  left + (Block.row gap parts).width + gap

end RangeBar

/-- What the filter bar shows. -/
structure FilterBar where
  filter : Filter
  stats : FilterStats
  pools : OrderedSet Identifier

namespace FilterBar

def searchIcon : String := "\ue30c"

def searchHint : String := "Search code or name"

def change (bar : FilterBar) (edit : FilterEdit) : List Deed :=
  [.command (.setFilter (bar.filter.edit edit))]

def counted (text : String) (count : Nat) : String := text ++ " (" ++ numberText count ++ ")"

def searchLine (bar : FilterBar) (memory : Memory) (width : Float32) : Block :=
  let icon := Block.label searchIcon Lettering.body
  let search := memory.shownText .search bar.filter.search
  let shown := if search.isEmpty then searchHint else search
  let target : Target :=
    { control := .search
      drags := true
      entry := some
        { text := bar.filter.search
          indent := 4
          edit := fun text => bar.change (.search text) } }
  .line [icon,
    .control target (.flushed (width - icon.width - Block.gapX) Block.rowHeight
      (.padded 4 2 (.words shown Lettering.body)))]

def categoryButton (bar : FilterBar) (category : Category) : Block :=
  Block.button
    { control := .category category, onClick := bar.change (.toggleCategory category) }
    (counted (category.icon ++ " " ++ category.label) (bar.stats.countOf category))

def flagBoxes (bar : FilterBar) : List Block :=
  [Block.tickBox
      { control := .onlyOverallocated
        onClick := bar.change (.setOnlyOverallocated !bar.filter.onlyOverallocated) }
      (counted "Overallocated" bar.stats.overallocated),
    Block.tickBox
      { control := .onlyAssigned
        onClick := bar.change (.setOnlyAssigned !bar.filter.onlyAssigned) }
      (counted "With assignments" bar.stats.assigned)]

/-- The button of a pool, which shows the beginning of its identifier. -/
def poolButton (bar : FilterBar) (pool : Identifier) : Block :=
  Block.button
    { control := .pool pool, onClick := bar.change (.togglePool pool), tip := fun _ => [pool.text] }
    (pool.text.take 8).toString

/-- The buttons of all pools, if there are any. -/
def poolLines (bar : FilterBar) (width : Float32) : List Block :=
  match bar.pools.toList with
  | [] => []
  | pools =>
      [Block.wrapped width (Block.label "Pools" Lettering.small :: pools.map bar.poolButton)]

/-- The number of resources, and the button that clears the filter. -/
def totalLine (bar : FilterBar) (width : Float32) : Block :=
  Block.apart width (Block.label (numberText bar.stats.total ++ " resources") 11)
    (Block.smallButton
      { control := .clearFilters
        enabled := bar.filter.isActive
        onClick := [.command .clearFilters] }
      "Clear filters")

def block (bar : FilterBar) (memory : Memory) (width : Float32) : Block :=
  Block.column Block.gapY
    ([bar.searchLine memory width, Block.blankY 0,
        Block.wrapped width (Category.all.map bar.categoryButton),
        Block.wrapped width bar.flagBoxes]
      ++ bar.poolLines width ++ [bar.totalLine width])

end FilterBar

namespace StatusBar

def size : Float32 := 10.5

/-- The texts on the right, from the right to the left. -/
def texts (app : Application) : List String :=
  let stats := app.grid.stats
  ["Scale: " ++ app.view.scale.label, " · ",
    "Resources: " ++ numberText app.grid.filtered.length ++ "/" ++ numberText stats.total]
  ++ if stats.overallocated = 0 then []
    else [" · ", numberText stats.overallocated ++ " overallocated"]

def fromRight (right top : Float32) : List String → List Drawn
  | [] => []
  | text :: rest =>
      let block := Block.label text size
      block.draw ⟨right - block.width, top⟩
        ++ fromRight (right - block.width - Block.gapX) top rest

def items (app : Application) (room : Box) : List Drawn :=
  let top := room.top + (room.height - Block.rowHeight) / 2
  (Block.label app.status 11).draw ⟨room.left, top⟩ ++ fromRight room.right top (texts app)

end StatusBar

end LoadChart
