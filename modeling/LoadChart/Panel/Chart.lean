import LoadChart.Application.State
import LoadChart.Panel.Bars
import LoadChart.Screen.Box
import LoadChart.Screen.Shape

/-!
# The chart

The lanes of the grid under a header of months and columns.  A lane shows its bars, one above the
other where they share a day, and below them its utilization in each column.  A click on a bar
selects it and its resource, one on the rest of a lane its resource, and one elsewhere takes the
selection away.  A bar has a menu of its own.
-/

namespace LoadChart

/-- What the chart shows. -/
structure Chart where
  view : ViewState
  columns : List Column
  groups : List MonthGroup
  lanes : List Lane
  rows : List LaneRows

/-- A bar, its lane and its place. -/
structure ChartBar where
  lane : Lane
  assignment : Assignment
  geometry : BarGeometry
  box : Box

/-- A lane and its place. -/
structure ChartLane where
  index : Nat
  lane : Lane
  rows : LaneRows
  box : Box

namespace Chart

def labelWidth : Float32 := 180

def footHeight : Float32 := 40

def ofGrid (view : ViewState) (grid : Grid) : Chart :=
  ⟨view, grid.columns, grid.groups, grid.filtered, grid.rows⟩

def columnWidth (chart : Chart) : Float32 := chart.view.scale.columnWidth

def bodyHeight (chart : Chart) : Float32 :=
  chart.rows.getLast?.elim 0 fun rows => rows.top + rows.height

/-- The box of the chart: all columns and lanes, or more if there is more room. -/
def area (chart : Chart) (room : Box) : Box :=
  Box.ofSize room.topLeft
    (greaterLength (labelWidth + Float32.ofNat chart.columns.length * chart.columnWidth)
      room.width)
    (greaterLength (ViewState.headerHeight + chart.bodyHeight + footHeight) room.height)

def gridLeft (area : Box) : Float32 := area.left + labelWidth

def bodyTop (area : Box) : Float32 := area.top + ViewState.headerHeight

def columnLeft (chart : Chart) (area : Box) (index : Nat) : Float32 :=
  gridLeft area + Float32.ofNat index * chart.columnWidth

def placedLanes (chart : Chart) (area : Box) : List ChartLane :=
  ((chart.lanes.zip chart.rows).zipIdx).map fun ((lane, rows), index) =>
    { index
      lane
      rows
      box := Box.ofSize ⟨area.left, bodyTop area + rows.top⟩ area.width rows.height }

def barBox (area : Box) (lane : ChartLane) (geometry : BarGeometry) (subRow : Nat) : Box :=
  Box.ofSize
    ⟨gridLeft area + geometry.left + 1,
      lane.box.top + LaneRows.barInset + Float32.ofNat subRow * LaneRows.subRowHeight + 1⟩
    (greaterLength (geometry.width - 2) 4) (LaneRows.subRowHeight - 2)

def bars (chart : Chart) (area : Box) (lane : ChartLane) : List ChartBar :=
  lane.rows.stacked.filterMap fun stacked => do
    let assignment ←
      lane.lane.assignments.find? fun assignment => assignment.identifier = stacked.identifier
    let geometry ← BarGeometry.of? chart.columns assignment chart.columnWidth
    return ⟨lane.lane, assignment, geometry, barBox area lane geometry stacked.subRow⟩

def isHighlighted (chart : Chart) (lane : Lane) : Bool :=
  chart.view.highlightOverallocations && lane.isOverallocated

def isSelectedBar (chart : Chart) (bar : ChartBar) : Bool :=
  chart.view.selectedAssignment = some bar.assignment.identifier

def headerSize : Float32 := 12

def columnSize : Float32 := 10.5

def nameSize : Float32 := 11.5

def barSize : Float32 := 9.5

/-- A text that begins at a point, in the middle of its height. -/
def textFrom (start : Point) (size : Float32) (text : String) (color : Color) : Shape :=
  .text text color
    (Box.ofSize ⟨start.x, start.y - Lettering.lineHeight size / 2⟩
      (Lettering.width size text.toList) (Lettering.lineHeight size))

def textAround (middle : Point) (size : Float32) (text : String) (color : Color) : Shape :=
  .text text color
    (Box.around middle (Lettering.width size text.toList) (Lettering.lineHeight size))

def textUpTo (finish : Point) (size : Float32) (text : String) (color : Color) : Shape :=
  textFrom ⟨finish.x - Lettering.width size text.toList, finish.y⟩ size text color

def warningIcon : String := "\ue4e0"

def barText (assignment : Assignment) : String :=
  assignment.code ++ " · " ++ fixedText 0 (assignment.units * 100) ++ "%"

def noLanesText : String := "No resources match the current filters"

def columnShapes (chart : Chart) (area : Box) : List Shape :=
  let top := bodyTop area
  chart.columns.zipIdx.flatMap fun (column, index) =>
    let left := chart.columnLeft area index
    let line := .line ⟨left, top⟩ ⟨left, top + area.height⟩ ⟨0.5, .gridLine⟩
    if column.isWeekend then
      [.filled ⟨left, top, left + chart.columnWidth, area.height + top⟩ .square .backgroundWeekend,
        line]
    else [line]

/-- The color below a lane: other lanes follow one another light and dark. -/
def laneColor (chart : Chart) (lane : ChartLane) : Color :=
  if chart.view.selectedResource = some lane.lane.identifier then .backgroundSelected
  else if chart.isHighlighted lane.lane then .backgroundOverallocated
  else if lane.index % 2 = 0 then .backgroundLane
  else .transparent

def laneShapes (chart : Chart) (lane : ChartLane) : List Shape :=
  [.filled lane.box .square (chart.laneColor lane),
    .line lane.box.bottomLeft lane.box.bottomRight ⟨0.5, .border⟩]

def labelShapes (lane : ChartLane) : List Shape :=
  let gutter := Box.ofSize lane.box.topLeft labelWidth lane.box.height
  let middle := gutter.top + 14
  [.filled gutter .square .backgroundPanel,
    .line gutter.topRight gutter.bottomRight ⟨1, .border⟩,
    textFrom ⟨gutter.left + 8, middle⟩ nameSize lane.lane.category.icon
      (.ofCategory lane.lane.category),
    textFrom ⟨gutter.left + 26, middle⟩ nameSize (lane.lane.code ++ "  " ++ lane.lane.name)
      .textPrimary]
  ++ if lane.lane.isOverallocated then
      [textUpTo ⟨gutter.right - 4, middle⟩ nameSize warningIcon .overallocated]
    else []

def barRounding : Float32 := 5

/-- The corners of a bar: square where it goes on outside the columns. -/
def barCorners (geometry : BarGeometry) : Corners :=
  let start := if geometry.clippedStart then 0 else barRounding
  let finish := if geometry.clippedEnd then 0 else barRounding
  ⟨start, finish, start, finish⟩

def barColor (bar : ChartBar) : Color :=
  if bar.assignment.isCritical then .critical else .ofCategory bar.lane.category

def barEdges (chart : Chart) (bar : ChartBar) : List Shape :=
  (if chart.isHighlighted bar.lane && bar.lane.coversOverallocation bar.assignment then
    [.outline bar.box (barCorners bar.geometry) ⟨1.5, .overallocated⟩]
  else [])
  ++ if chart.isSelectedBar bar then
    [.outline (bar.box.grow 1.5) (.same (barRounding + 1.5)) ⟨2, .accent⟩]
  else []

/-- A bar over its shadow; its text is left out where there is no room for it. -/
def barShapes (chart : Chart) (bar : ChartBar) : List Shape :=
  let corners := barCorners bar.geometry
  [.filled (bar.box.shift 1 1.5) corners (.shade 35), .filled bar.box corners (barColor bar)]
  ++ chart.barEdges bar
  ++ if 30 < bar.box.width then
      [textFrom ⟨bar.box.left + 5, bar.box.center.y⟩ barSize (barText bar.assignment) .textOnBar]
    else []

def cellShapes (chart : Chart) (left top bottom : Float32) (point : UtilizationPoint) :
    List Shape :=
  let cell := Box.ofSize ⟨left + 1, top + 2⟩ (chart.columnWidth - 2) (bottom - top - 4)
  .filled cell (.same 2) ((Color.ofPercent point.percent).fade 0.55)
    :: if 40 ≤ chart.columnWidth && 0 < point.assigned then
        [textAround cell.center barSize (fixedText 0 point.percent ++ "%") .textPrimary]
      else []

def utilizationShapes (chart : Chart) (area : Box) (lane : ChartLane) : List Shape :=
  if chart.view.showUtilization then
    chart.columns.zipIdx.flatMap fun (column, index) =>
      (lane.lane.columnPoint? column).elim [] fun point =>
        chart.cellShapes (chart.columnLeft area index) (lane.box.top + lane.rows.barsHeight)
          lane.box.bottom point
  else []

def groupShapes (chart : Chart) (area : Box) : List Shape :=
  let half := ViewState.headerHeight / 2
  chart.groups.flatMap fun group =>
    let left := chart.columnLeft area group.firstColumn
    let cell :=
      Box.ofSize ⟨left, area.top⟩ (Float32.ofNat group.span * chart.columnWidth) half
    [.line cell.topLeft cell.bottomLeft ⟨1, .border⟩,
      textFrom ⟨left + 5, cell.center.y⟩ headerSize group.label .textPrimary]

def columnLabelShapes (chart : Chart) (area : Box) : List Shape :=
  let half := ViewState.headerHeight / 2
  chart.columns.zipIdx.flatMap fun (column, index) =>
    let left := chart.columnLeft area index
    [.line ⟨left, area.top + half⟩ ⟨left, area.top + ViewState.headerHeight⟩ ⟨0.5, .gridLine⟩,
      textAround ⟨left + chart.columnWidth / 2, area.top + half + half / 2⟩ columnSize column.label
        (if column.isWeekend then .textDim else .textSecondary)]

def headerShapes (chart : Chart) (area : Box) : List Shape :=
  let bottom := area.top + ViewState.headerHeight
  [.filled (Box.ofSize area.topLeft area.width ViewState.headerHeight) .square .backgroundHeader,
    .line ⟨area.left, bottom⟩ ⟨area.left + area.width, bottom⟩ ⟨1, .border⟩,
    textFrom ⟨area.left + 10, area.top + ViewState.headerHeight / 2⟩ headerSize "Resource"
      .textSecondary]
  ++ chart.groupShapes area ++ chart.columnLabelShapes area

def rowShapes (chart : Chart) (area : Box) (lane : ChartLane) : List Shape :=
  chart.laneShapes lane ++ labelShapes lane
    ++ (chart.bars area lane).flatMap chart.barShapes
    ++ chart.utilizationShapes area lane

def shapes (chart : Chart) (room : Box) : List Shape :=
  let area := chart.area room
  [.filled area .square .backgroundDark] ++ chart.columnShapes area
  ++ (chart.placedLanes area).flatMap (chart.rowShapes area)
  ++ chart.headerShapes area
  ++ if chart.lanes.isEmpty then
      [textFrom ⟨gridLeft area + 12, bodyTop area + 24⟩ nameSize noLanesText .textDim]
    else []

end Chart

namespace Chart

def barTip (bar : ChartBar) : List String :=
  let assignment := bar.assignment
  [assignment.code ++ "  " ++ assignment.name,
    assignment.start.slashText ++ " → " ++ assignment.finish.slashText,
    bar.lane.code ++ ": " ++ fixedText 0 (assignment.units * 100) ++ "% ("
      ++ fixedText 1 (assignment.units * bar.lane.capacity) ++ " h/day)"]
  ++ (if assignment.isCritical then ["Critical path"] else [])
  ++ ["Early start: " ++ optionalDayText assignment.earlyStart,
    "Late finish: " ++ optionalDayText assignment.lateFinish,
    "Total float: " ++ optionalFloatText assignment.totalFloat]

def selectLane (lane : Lane) : Deed := .command (.selectResource (some lane.identifier))

def deleteDeed (bar : ChartBar) : Deed :=
  .command (.bar (.delete bar.assignment.identifier))

def barTarget (chart : Chart) (bar : ChartBar) : Target :=
  let identifier := bar.assignment.identifier
  { control := .bar identifier
    onClick := [selectLane bar.lane, .command (.bar (.select identifier))]
    onContext := [.openBarMenu identifier]
    onDelete := if chart.isSelectedBar bar then [deleteDeed bar] else []
    tip := fun _ => barTip bar }

def laneTarget (lane : Lane) : Target :=
  { control := .lane lane.identifier, onClick := [selectLane lane] }

/-- The chart as a whole; the wheel changes the scale. -/
def groundTarget (chart : Chart) : Target :=
  let scale := chart.view.scale
  { control := .chart
    onClick := [.command (.selectResource none)]
    onWheel := fun forward =>
      [.command (.setScale (if forward then scale.finer else scale.coarser))] }

def rowControls (chart : Chart) (area : Box) (lane : ChartLane) : List Drawn :=
  .control (laneTarget lane.lane) lane.box
    :: (chart.bars area lane).map fun bar => .control (chart.barTarget bar) bar.box

/-- The contents of the room, if there is more than room for. -/
def regionItems (area room : Box) : List Drawn :=
  if room.width < area.width || room.height < area.height then
    [.hidden (Block.regionContents .chart) room]
  else []

def barItems (area room : Box) : List Drawn :=
  (if room.width < area.width then
    [.hidden (Block.regionBar .chart .barBelow) { room with top := room.bottom }]
  else [])
  ++ if room.height < area.height then
    [.hidden (Block.regionBar .chart .barBeside) { room with left := room.right }]
  else []

def items (chart : Chart) (room : Box) : List Drawn :=
  let area := chart.area room
  let controls :=
    .control chart.groundTarget area
      :: (chart.placedLanes area).flatMap (chart.rowControls area)
  regionItems area room ++ controls.filterMap (Drawn.cut? room) ++ barItems area room
    ++ (chart.shapes room).filterMap fun shape => match shape with
      | .text text _ box => some (.words text box)
      | _ => none

def allBars (chart : Chart) (room : Box) : List ChartBar :=
  let area := chart.area room
  (chart.placedLanes area).flatMap (chart.bars area)

/-- The menu of a bar, if it is open and the bar is drawn. -/
def barMenu (chart : Chart) (room : Box) (memory : Memory) : List Sheet :=
  match memory.barMenu with
  | none => []
  | some (assignment, corner) =>
      match (chart.allBars room).find? fun bar => bar.assignment.identifier = assignment with
      | none => []
      | some bar =>
          [MenuBar.popUp (.barMenu assignment) corner
            [.control
              { control := .menuItem "Delete assignment"
                onClick := [deleteDeed bar, .closeMenu] }
              (.flushed 0 Block.rowHeight
                (.padded 2 0 (.words "Delete assignment" Lettering.body)))]]

end Chart

end LoadChart
