import LoadChart.Screen.Focus
import LoadChart.Screen.Pointing
import LoadChart.Text.Passage

/-!
# What the screen remembers

The pointer, the focus, open menus and date pickers, the texts that are typed into, the order of
the windows and the scene drawn last.
-/

namespace LoadChart

/-- A date picker, and the day at which it is. -/
structure DatePicker where
  isOpen : Bool
  day : Option Day

namespace DatePicker

def closed : DatePicker := ⟨false, none⟩

end DatePicker

/-- What is remembered of a text that can be typed into. -/
structure Writing where
  control : Control
  selection : Selection
  /-- What was typed into one that is a button until it is opened. -/
  draft : Option String

/-- What the screen remembers from frame to frame. -/
structure Memory where
  pointer : Option Point
  /-- The frames since the pointer was moved. -/
  restFrames : Nat
  /-- Something was clicked since the pointer was moved. -/
  isSpent : Bool
  /-- The control on which a button of the pointer went down. -/
  held : Option Control
  menu : Option Menu
  barMenu : Option (Identifier × Point)
  firstPicker : DatePicker
  lastPicker : DatePicker
  /-- The part of a date for which it is shown what it can be. -/
  choices : Option (RangeEnd × DatePart)
  focus : Focus
  writings : List Writing
  /-- The text with the focus as it was edited in this frame, before the program has taken it. -/
  echo : Option String
  /-- The surface that was pressed in this frame. -/
  raised : Option Surface
  /-- The surfaces drawn so far, from the lowest to the topmost. -/
  known : List Surface
  /-- The surfaces of the frame before. -/
  shown : List Surface
  /-- The tables drawn so far. -/
  tables : List Table
  seen : Scene

namespace Memory

def initial : Memory :=
  { pointer := none
    restFrames := 0
    isSpent := false
    held := none
    menu := none
    barMenu := none
    firstPicker := .closed
    lastPicker := .closed
    choices := none
    focus := .nowhere
    writings := []
    echo := none
    raised := none
    known := []
    shown := []
    tables := []
    seen := .empty }

def picker (memory : Memory) : RangeEnd → DatePicker
  | .first => memory.firstPicker
  | .last => memory.lastPicker

def setPicker (memory : Memory) (rangeEnd : RangeEnd) (picker : DatePicker) : Memory :=
  match rangeEnd with
  | .first => { memory with firstPicker := picker }
  | .last => { memory with lastPicker := picker }

def writing? (memory : Memory) (control : Control) : Option Writing :=
  memory.writings.find? fun writing => writing.control = control

def setWriting (memory : Memory) (writing : Writing) : Memory :=
  { memory with
    writings := writing :: memory.writings.filter fun other => other.control ≠ writing.control }

def draft? (memory : Memory) (control : Control) : Option String :=
  (memory.writing? control).bind Writing.draft

def hasFocus (memory : Memory) (control : Control) : Bool :=
  memory.focus.control = some control

/-- The text that a control shows: what is typed into it, or else the one that the program has. -/
def shownText (memory : Memory) (control : Control) (text : String) : String :=
  if memory.hasFocus control then (memory.echo.or (memory.draft? control)).getD text else text

/-- The text of a control, with the letters that are chosen in it. -/
def passage (memory : Memory) (control : Control) (entry : Entry) : Passage :=
  let letters := (memory.shownText control entry.text).toList
  (memory.writing? control).elim (.atEnd letters) fun writing =>
    .choose letters writing.selection

def aim (memory : Memory) : Aim := memory.pointer.elim .nothing (Aim.ofScene memory.seen)

def aimed (memory : Memory) : Option Target := memory.aim.click

/-- Whether the pointer is on a surface, as it was drawn last. -/
def isOn (memory : Memory) (surface : Surface) : Bool :=
  match memory.pointer, memory.seen.box? (.ground surface) with
  | some pointer, some box => box.contains pointer
  | _, _ => false

def topmost? (memory : Memory) : Option Surface :=
  (memory.seen.sheets.reverse.map (·.surface)).find? fun surface =>
    surface ≠ .panels && surface ≠ .tip && surface ≠ .notices && memory.isOn surface

/-- The order of surfaces once some are drawn: those that were not there before and the one that
was pressed come to the top. -/
def arrange (memory : Memory) (drawn : List Surface) : List Surface :=
  let known := memory.known ++ drawn.filter fun surface => !memory.known.contains surface
  let rises := fun surface =>
    drawn.contains surface
      && (!memory.shown.contains surface || memory.raised = some surface)
  (known.filter fun surface => !rises surface) ++ known.filter rises

def tipFrames : Nat := 4

/-- The sheet with the tip of the control under the pointer, if it is time for it. -/
def tipSheet (memory : Memory) (scene : Scene) : List Sheet :=
  match memory.pointer with
  | some pointer =>
      if memory.restFrames < tipFrames || memory.isSpent || memory.menu.isSome
        || memory.barMenu.isSome then []
      else
        let place := Box.ofSize pointer 0 0
        match Aim.tip scene pointer with
        | [] => []
        | tip => [{ surface := .tip, items := tip.map fun text => .words text place }]
  | none => []

/-- Whether a sheet is seen.  A window or pop-up that is new takes a frame to find its size. -/
def sees (memory : Memory) (sheet : Sheet) : Bool :=
  sheet.surface = .panels || memory.known.contains sheet.surface

/-- Whether a frame has to be drawn twice, since the widths of a table on it are not known. -/
def isUnsettled (memory : Memory) (drawn : Scene) : Bool :=
  drawn.sheets.any fun sheet =>
    memory.sees sheet && sheet.tables.any fun table => !memory.tables.contains table

/-- Whether a sheet is drawn no later than another. -/
def isBelow (order : List Surface) (left right : Sheet) : Bool :=
  left.surface.level < right.surface.level
    || (left.surface.level = right.surface.level
      && order.idxOf left.surface ≤ order.idxOf right.surface)

def look (memory : Memory) (drawn : Scene) : Memory :=
  let surfaces := drawn.sheets.map (·.surface)
  let order := memory.arrange surfaces
  let sheets := (drawn.sheets.filter memory.sees).mergeSort (isBelow order)
  { memory with
    known := order
    shown := surfaces
    focus :=
      if memory.focus.control.isNone then memory.focus
      else memory.focus.keep (drawn.stops.map Prod.fst)
    tables := memory.tables ++ drawn.sheets.flatMap (·.tables)
    seen := ⟨sheets ++ memory.tipSheet ⟨sheets⟩⟩ }

end Memory

end LoadChart
