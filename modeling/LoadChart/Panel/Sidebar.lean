import LoadChart.Application.State
import LoadChart.Calendar.Text
import LoadChart.Panel.Bars
import LoadChart.Resource.Lane
import LoadChart.Resource.Utilization
import LoadChart.Screen.Block
import LoadChart.Service.Decoding

/-!
# The side bar

The filter bar, the table of visible resources, and the histogram of the selected one.  A click on a
row selects its resource, or takes the selection away.  The histogram comes from the service, or is
computed from the assignments that have arrived.
-/

namespace LoadChart

/-- What the table of resources shows. -/
structure ResourceTable where
  lanes : List Lane
  selected : Option Identifier

namespace ResourceTable

def nameText (lane : Lane) : String := lane.code ++ "  " ++ lane.name

def nameWidth : Float32 := 150

def title (table : ResourceTable) : Block :=
  .line [Block.label "Resources" 15,
    Block.label ("(" ++ numberText table.lanes.length ++ ")") 11]

def header : Block :=
  .line [Block.blankX 16, .flushed nameWidth 16 (Block.label "RESOURCE" 9),
    .flushed 40 16 (Block.label "H/DAY" 9), .flushed 40 16 (Block.label "PEAK" 9)]

def rowParts (lane : Lane) : Block :=
  .flushed 0 Block.rowHeight (Block.row 6
    [Block.label lane.category.icon Lettering.body,
      .centered nameWidth Block.rowHeight (Block.cutLabel (nameText lane) 12 nameWidth),
      Block.label (fixedText 0 lane.capacity) 10,
      Block.label (fixedText 0 lane.peak ++ "%") 10])

def choose (table : ResourceTable) (lane : Lane) : List Deed :=
  let selected := table.selected = some lane.identifier
  [.command (.selectResource (if selected then none else some lane.identifier))]

/-- A row, which takes all clicks on its parts. -/
def laneRow (table : ResourceTable) (lane : Lane) : Block :=
  .over { control := .resource lane.identifier, onClick := table.choose lane }
    (.padded 6 3 (rowParts lane))

def rowGap : Float32 := 5

def head (table : ResourceTable) : Block :=
  .above Block.gapY table.title (.above 2 (Block.blankY 0) header)

/-- The table in a height.  Its rows take at most half of what its head leaves. -/
def block (table : ResourceTable) (height : Float32) : Block :=
  let rows := Block.column rowGap (table.lanes.map table.laneRow)
  .above Block.gapY table.head
    (Block.inRegion .resources ((height - table.head.height - Block.gapY) / 2) rows)

end ResourceTable

/-- Where the figures of the histogram come from. -/
inductive HistogramSource where
  | service (histogram : Histogram)
  | assignments (summary : UtilizationSummary)

namespace HistogramSource

def points : HistogramSource → List UtilizationPoint
  | .service histogram => histogram.points
  | .assignments summary => summary.points

/-- The figures of the service, in the shape of computed ones. -/
def summary : HistogramSource → UtilizationSummary
  | .service histogram =>
      { points := histogram.points
        peak := histogram.peak
        peakDay := histogram.peakDay
        average := histogram.average
        available := histogram.available
        assigned := histogram.assigned
        overallocated := histogram.overallocated }
  | .assignments summary => summary

def isService : HistogramSource → Bool
  | .service _ => true
  | .assignments _ => false

end HistogramSource

/-- What the histogram shows. -/
structure HistogramPanel where
  lane : Lane
  source : HistogramSource
  error : Option String

namespace HistogramPanel

def chartHeight : Float32 := 90

def noDataText : String := "No data"

def computedText : String := "Computed from loaded assignments"

def pointText (point : UtilizationPoint) : String :=
  point.day.slashText ++ "\n" ++ fixedText 1 point.assigned ++ " h / "
    ++ fixedText 1 point.available ++ " h (" ++ fixedText 0 point.percent ++ "%)"

/-- The bar under a place: all bars are equally wide. -/
def pointAt? (points : List UtilizationPoint) (width place : Float32) :
    Option UtilizationPoint :=
  let slot := width / Float32.ofNat points.length
  points[(place / slot).toUInt64.toNat]?

def chart (panel : HistogramPanel) (width left : Float32) : Block :=
  match panel.source.points with
  | [] => .centered width chartHeight (.words noDataText 9.5)
  | points =>
      .control
        { control := .histogram
          clicks := false
          tip := fun pointer =>
            ((pointAt? points width (pointer.x - left)).map pointText).toList }
        (.blank width chartHeight)

def figures (summary : UtilizationSummary) : List (String × String) :=
  [("Peak", fixedText 0 summary.peak ++ "% on " ++ optionalDayText summary.peakDay),
    ("Average", fixedText 0 summary.average ++ "%"),
    ("Overallocated", numberText summary.overallocated),
    ("Hours", fixedText 1 summary.assigned ++ " / " ++ fixedText 1 summary.available)]

def figureTable (panel : HistogramPanel) : Block :=
  Block.table 12 2 2 ((figures panel.source.summary).map fun (name, figure) =>
    [Block.label name Lettering.body, Block.label figure Lettering.body])

def block (panel : HistogramPanel) (width left : Float32) : Block :=
  Block.column Block.gapY
    ([Block.line [Block.label (ResourceTable.nameText panel.lane) Lettering.body]]
      ++ (panel.error.map fun error => Block.label error Lettering.small).toList
      ++ [panel.chart width left, panel.figureTable]
      ++ if panel.source.isService then [] else [Block.label computedText Lettering.small])

end HistogramPanel

namespace Sidebar

def filterBar (app : Application) : FilterBar := ⟨app.view.filter, app.grid.stats, app.grid.pools⟩

def resourceTable (app : Application) : ResourceTable :=
  ⟨app.grid.filtered, app.view.selectedResource⟩

/-- The lane of the selected resource, whether it is visible or not. -/
def selectedLane? (app : Application) : Option Lane :=
  app.view.selectedResource.bind fun resource =>
    app.grid.lanes.find? fun lane => lane.identifier = resource

/-- The histogram of the service while it is the one that is wanted, or else what the assignments
tell. -/
def histogramSource (app : Application) (lane : Lane) : HistogramSource :=
  match app.histogram.value? with
  | some histogram =>
      if app.histogram.isStale then computed app lane else .service histogram
  | none => computed app lane
where
  /-- What the assignments tell. -/
  computed (app : Application) (lane : Lane) : HistogramSource :=
    .assignments
      (summarize ((bucketize? lane.daily app.view.scale.granularity).getD []))

def histogramPanel (app : Application) (lane : Lane) : HistogramPanel :=
  ⟨lane, histogramSource app lane, app.histogram.error⟩

def tables (app : Application) : List Table :=
  if (selectedLane? app).isSome then [.histogram] else []

def head (app : Application) (memory : Memory) (width : Float32) : Block :=
  Block.column Block.gapY [(filterBar app).block memory width, Block.blankY 0, Block.separator]

def items (app : Application) (memory : Memory) (room : Box) : List Drawn :=
  let head := head app memory room.width
  let table := (resourceTable app).block (room.height - head.height - Block.gapY)
  let histogram := (selectedLane? app).elim [] fun lane =>
    [Block.separator, (histogramPanel app lane).block room.width room.left]
  (Block.column Block.gapY ([head, table] ++ histogram)).draw room.topLeft

end Sidebar

end LoadChart
