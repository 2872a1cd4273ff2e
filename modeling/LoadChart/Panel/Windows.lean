import LoadChart.Calendar.Text
import LoadChart.Leveling.Basic
import LoadChart.Leveling.State
import LoadChart.Notice
import LoadChart.Screen.Block
import LoadChart.Screen.Memory

/-!
# Windows

The leveling window has the options and the requests, the results of both strategies side by side,
their comparison, and the shifts of the newest result with boxes to tick.  The about window has the
name and the version of the program, and the address of the service.  Notices stand in the bottom
right corner of the screen, the newest at the bottom, and do not take the pointer.
-/

namespace LoadChart

namespace LevelingWindow

def width : Float32 := 620

def height : Float32 := 520

def title : String := "Resource Leveling"

def setOptions (options : LevelingOptions) : List Deed :=
  [.command (.leveling (.setOptions options))]

def ask (request : LevelingRequest) : List Deed := [.command (.leveling (.request request))]

def setRounds (options : LevelingOptions) (text : String) : List Deed :=
  match readRounds? text with
  | some count =>
      if count = options.maxIterations then []
      else setOptions { options with maxIterations := count }
  | none => []

/-- The number of rounds, which is a button until it is typed into. -/
def roundsField (options : LevelingOptions) (memory : Memory) : Block :=
  let text := numberText options.maxIterations
  let words := Block.words (memory.shownText .maxIterations text) Lettering.body
  let block := Block.centered 40 Block.rowHeight (.padded 8 4 words)
  .control
    { control := .maxIterations
      drags := true
      entry := some
        { text
          indent := (block.width - words.width) / 2
          edit := setRounds options
          isButton := true } }
    block

def optionLine (options : LevelingOptions) (memory : Memory) : Block :=
  Block.wrapped width
    [Block.tickBox
        { control := .preserveCriticalPath
          onClick := setOptions
            { options with preserveCriticalPath := !options.preserveCriticalPath } }
        "Preserve critical path",
      Block.tickBox
        { control := .levelWithinFloat
          onClick := setOptions { options with levelWithinFloat := !options.levelWithinFloat } }
        "Level within float",
      Block.label "Max iterations" Lettering.body, roundsField options memory]

def requestLine : Block :=
  Block.line ([LevelingRequest.preview, .runSerial, .runParallel, .compare].map fun request =>
    Block.button { control := .levelingRequest request, onClick := ask request } request.label)

def resultTexts (result : LevelingResult) : List (String × Float32) :=
  [(if result.success then "Succeeded" else "Incomplete", Lettering.body),
    (numberText result.shifts.length ++ " shifts in " ++ numberText result.iterations
      ++ " iterations", Lettering.body),
    ("Remaining overallocations: " ++ numberText result.remaining, Lettering.body),
    ("Project extension: " ++ integerText result.extension ++ " d", Lettering.body)]
  ++ (result.newFinish.map fun day => ("New finish: " ++ day.slashText, Lettering.body)).toList
  ++ (result.threads.map fun count =>
      ("Threads: " ++ numberText count, Lettering.body)).toList
  ++ result.warnings.map fun warning => (warning, Lettering.small)

def spinner : Block := .blank Block.rowHeight Block.rowHeight

def statusBlocks : RequestStatus LevelingResult → List Block
  | .idle => [Block.label "Not run yet" Lettering.body]
  | .loading => [spinner]
  | .failed message => [Block.label message Lettering.body]
  | .loaded result => (resultTexts result).map fun (text, size) => Block.label text size

def strategyColumn (state : LevelingState) (strategy : Strategy) : Block :=
  .flushed ((width - Block.gapX) / 2) 0 (Block.column Block.gapY
    (Block.label strategy.label Lettering.body :: statusBlocks (state.result strategy)))

def strategies (state : LevelingState) : Block :=
  let serial := strategyColumn state .serial
  let parallel := strategyColumn state .parallel
  let height := greaterLength serial.height parallel.height
  .beside Block.gapX (serial.upTo height) (parallel.upTo height)

/-- The text where there is nothing to compare. -/
def nothingToCompareText : String := "Run both strategies or Compare to see metrics"

def metricTable (rows : List MetricRow) : Block :=
  Block.table 24 Block.gapY 3
    (["", Strategy.serial.label, Strategy.parallel.label] ::
      rows.map (fun row => [row.label, row.serial, row.parallel])
    |>.map fun texts => texts.map fun text => Block.label text Lettering.body)

/-- The comparison: the one that was asked for, or that of the results of both strategies. -/
def comparison (state : LevelingState) : List Block :=
  match state.comparison with
  | .loading => [Block.line [spinner, Block.label "Comparing strategies..." Lettering.body]]
  | .failed message => [Block.label message Lettering.body]
  | .loaded value =>
      [metricTable (MetricRow.ofMetrics value.serial value.parallel),
        Block.blankY 0, Block.label ("Recommendation: " ++ value.recommendation) Lettering.body]
  | .idle =>
      match state.serial.loaded?, state.parallel.loaded? with
      | some serial, some parallel =>
          [metricTable (MetricRow.ofMetrics serial.metrics parallel.metrics)]
      | _, _ => [Block.label nothingToCompareText Lettering.body]

/-- The greatest height of the list of shifts. -/
def shiftsHeight : Float32 := 180

def shiftRow (shift : ActivityShift) : List Block :=
  [Block.plainTickBox
      { control := .shift shift.activity
        onClick := [.command (.leveling (.toggleShift shift.activity))] },
    Block.label (shift.code ++ " " ++ shift.name) Lettering.body,
    Block.label (shift.oldStart.shortSlashText ++ " → " ++ shift.newStart.shortSlashText)
      Lettering.body,
    Block.label ("+" ++ integerText shift.delay ++ " d") Lettering.body,
    Block.label shift.reason Lettering.small]

def applyStatus : RequestStatus Nat → List Block
  | .idle => []
  | .loading => [spinner]
  | .failed message => [Block.label message Lettering.body]
  | .loaded count =>
      [Block.label ("Applied " ++ numberText count ++ " shifts") Lettering.body]

def applyLine (state : LevelingState) : Block :=
  let count := state.selected.toList.length
  Block.line
    (Block.button
        { control := .levelingRequest .apply
          enabled := !state.selected.isEmpty && !state.apply.isLoading
          onClick := ask .apply }
        ("Apply " ++ numberText count ++ " shifts")
      :: applyStatus state.apply)

/-- The shifts of the newest result, if there is one. -/
def shifts (state : LevelingState) : List Block :=
  match state.shiftResult? with
  | none => []
  | some result =>
      let source := state.shiftSource.elim "" Strategy.label
      [Block.label ("Shifts (" ++ source ++ ")") Lettering.body,
        Block.inRegion .shifts shiftsHeight (Block.table 12 2 5 (result.shifts.map shiftRow)),
        applyLine state]

def contents (state : LevelingState) (memory : Memory) : Block :=
  Block.column Block.gapY
    ([optionLine state.options memory, requestLine, Block.separator, strategies state,
        Block.separator]
      ++ comparison state ++ [Block.separator] ++ shifts state)

def margin : Float32 := 6

def titleHeight : Float32 := 34

/-- The box of the window around its contents, with its top left corner at a point. -/
def box (block : Block) (corner : Point) : Box :=
  Box.ofSize corner (greaterLength width block.width + 2 * margin)
    (greaterLength height block.height + titleHeight)

def edgeReach : Float32 := 5

def cornerReach : Float32 := 10

def sideBox (box : Box) : Side → Box
  | .right => Box.grow { box with left := box.right } edgeReach
  | .left => Box.grow { box with right := box.left } edgeReach
  | .bottom => Box.grow { box with top := box.bottom } edgeReach
  | .top => Box.grow { box with bottom := box.top } edgeReach
  | .bottomRight => Box.grow { box with left := box.right, top := box.bottom } cornerReach
  | .topRight => Box.grow { box with left := box.right, bottom := box.top } cornerReach
  | .bottomLeft => Box.grow { box with right := box.left, top := box.bottom } cornerReach
  | .topLeft => Box.grow { box with right := box.left, bottom := box.top } cornerReach

def edgeTarget (side : Side) : Target :=
  { control := .edge .levelingWindow side, clicks := false, drags := true }

def edges (box : Box) : List Drawn :=
  Side.all.map fun side => .control (edgeTarget side) (sideBox box side)

/-- The edges once more, for the keyboard, which reaches them before and after the contents. -/
def edgesAgain (box : Box) : List Drawn :=
  Side.all.map fun side => .hidden (edgeTarget side) (sideBox box side)

/-- The title, which is drawn after the contents. -/
def titleItems (box : Box) : List Drawn :=
  let bar : Box := ⟨box.left, box.top, box.right, box.top + titleHeight⟩
  let closeBox := Box.around ⟨box.right - 16, bar.center.y⟩ 16 16
  [.control
      { control := .closeLeveling, onClick := [.command (.leveling .closeWindow)] } closeBox,
    .hidden { control := .title .levelingWindow } bar,
    .words title (Box.around bar.center (Lettering.width 14 title.toList)
      (Lettering.lineHeight 14))]

def comparesFigures (state : LevelingState) : Bool :=
  match state.comparison with
  | .loading | .failed _ => false
  | .loaded _ => true
  | .idle => state.serial.loaded?.isSome && state.parallel.loaded?.isSome

def tables (state : LevelingState) : List Table :=
  (if comparesFigures state then [.metrics] else [])
    ++ if state.shiftResult?.isSome then [.shifts] else []

/-- The window, if it is open. -/
def sheet (state : LevelingState) (memory : Memory) (corner : Point) : List Sheet :=
  if state.isOpen then
    let contents := contents state memory
    let box := box contents corner
    [⟨.levelingWindow,
      .control { control := .ground .levelingWindow, clicks := false, drags := true } box
        :: (edges box
          ++ contents.draw ⟨corner.x + margin, corner.y + titleHeight + margin⟩
          ++ edgesAgain box ++ titleItems box),
      tables state⟩]
  else []

end LevelingWindow

namespace AboutWindow

def width : Float32 := 320

def height : Float32 := 224

def title : String := "About"

def versionText : String := "Version 0.1.0-dev"

def closeButton : Block :=
  .control { control := .closeAbout, onClick := [.closeAbout] }
    (.centered 100 28 (.words "Close" Lettering.body))

def contents (address : String) : Block :=
  Block.column Block.gapY
    ([Block.blankY 8, Block.label "Resource Gantt" Lettering.heading, Block.blankY 0,
        Block.label versionText Lettering.body, Block.blankY 6,
        Block.label "Resource timeline and utilization viewer" Lettering.body,
        Block.label address Lettering.small, Block.blankY 10, closeButton].map fun block =>
      .centered width 0 block)

def sheet (screen : Box) (address : String) : Sheet :=
  let box := Box.around screen.center (width + 12) height
  let titleBox := Box.around ⟨box.center.x, box.top + 17⟩
    (Lettering.width Lettering.heading title.toList) (Lettering.lineHeight Lettering.heading)
  let titleTarget : Target := { control := .title .aboutWindow }
  { surface := .aboutWindow
    items :=
      .control { control := .ground .aboutWindow } box
        :: ((contents address).draw ⟨box.left + 6, box.top + 40⟩
          ++ [.hidden titleTarget titleBox, .words title titleBox]) }

end AboutWindow

namespace NoticeStack

variable {τ : Type}

def block (notices : Notices τ) : Block :=
  Block.column Block.gapX (notices.items.map fun notice =>
    .padded 6 6 (.words notice.text Lettering.body))

/-- The notices, if there are any. -/
def sheet (screen : Box) (notices : Notices τ) : List Sheet :=
  if notices.items.isEmpty then []
  else
    let block := block notices
    let corner : Point := ⟨screen.right - 12 - block.width, screen.bottom - 36 - block.height⟩
    [{ surface := .notices
       items :=
         (Block.control { control := .ground .notices, clicks := false } block).draw corner }]

end NoticeStack

end LoadChart
