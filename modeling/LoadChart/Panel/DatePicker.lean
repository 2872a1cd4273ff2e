import LoadChart.Calendar.Text
import LoadChart.Panel.Bars

/-!
# The date picker

A pop-up with the weeks of one month, below the button for an end of the range.  It has a day of
its own, which the end becomes when it is saved.
-/

namespace LoadChart

namespace DateStep

def all : List DateStep :=
  [.years false, .months false, .days false, .days true, .months true, .years true]

def text : DateStep → String
  | .years false => "<<<"
  | .months false => "<<"
  | .days false => "<"
  | .days true => ">"
  | .months true => ">>"
  | .years true => ">>>"

def tip : DateStep → String
  | .years false => "subtract one year"
  | .months false => "subtract one month"
  | .days false => "subtract one day"
  | .days true => "add one day"
  | .months true => "add one month"
  | .years true => "add one year"

/-- The same day of another month, or the last of that month if it is too short. -/
def inMonth (day : Day) (year : Int) (month : Nat) : Day :=
  (Day.ofCivil? ⟨year, month, min day.dayOfMonth (monthLength year month)⟩).getD day

def addMonths (day : Day) (count : Int) : Day :=
  let months := day.year * 12 + (day.month - 1 : Int) + count
  inMonth day (months / 12) ((months % 12).toNat + 1)

def move (day : Day) : DateStep → Day
  | .years forward => addMonths day (if forward then 12 else -12)
  | .months forward => addMonths day (if forward then 1 else -1)
  | .days forward => (day.plus? (if forward then 1 else -1)).getD day

end DateStep

namespace DatePart

def all : List DatePart := [.year, .month, .day]

def ofDay (day : Day) : DatePart → Int
  | .year => day.year
  | .month => day.month
  | .day => day.dayOfMonth

def text (value : Int) : DatePart → String
  | .month => Day.monthName value.toNat
  | .year | .day => integerText value

/-- What a part of a day can be.  Years go from a hundred before this one to ten after it. -/
def choices (today day : Day) : DatePart → List Int
  | .year => upFrom (today.year - 100) 111
  | .month => upFrom 1 12
  | .day => upFrom 1 (monthLength day.year day.month)
where
  /-- So many numbers from one on. -/
  upFrom (first : Int) (count : Nat) : List Int :=
    (List.range count).map fun (index : Nat) => first + index

def replace (day : Day) (value : Int) : DatePart → Day
  | .year => DateStep.inMonth day value day.month
  | .month => DateStep.inMonth day day.year value.toNat
  | .day => (Day.ofCivil? ⟨day.year, day.month, value.toNat⟩).getD day

end DatePart

namespace DatePicker

def width : Float32 := 333

def rowHeight : Float32 := 20

def gap : Float32 := 2

/-- The weeks of the month of a day, each from Monday to Sunday. -/
def weeks (day : Day) : List (List Day) :=
  let first := day.monthStart
  let length := monthLength first.year first.month
  let count := (first.weekdayIndex + length + 6) / 7
  (List.range count).map fun week =>
    (List.range 7).filterMap fun index =>
      first.plus? (((week * 7 + index : Nat) : Int) - first.weekdayIndex)

def cells (gap : Float32) (blocks : List Block) : Block :=
  let count := Float32.ofNat blocks.length
  let cell := (width - gap * (count - 1)) / count
  .row gap (blocks.map fun block => match block with
    | .control target block => .control target (.centered cell rowHeight block)
    | block => .centered cell rowHeight block)

def button (target : Target) (text : String) : Block :=
  .control target (.words text Lettering.body)

def partRow (rangeEnd : RangeEnd) (day : Day) : Block :=
  cells gap (DatePart.all.map fun part =>
    button
      { control := .picker rangeEnd (.part part), onClick := [.toggleChoices rangeEnd part] }
      (part.text (part.ofDay day)))

def stepRow (rangeEnd : RangeEnd) (day : Day) : Block :=
  cells gap (DateStep.all.map fun step =>
    button
      { control := .picker rangeEnd (.step step)
        onClick := [.showDay rangeEnd (step.move day)]
        tip := fun _ => [step.tip] }
      step.text)

def headerRow : Block :=
  cells 1 (["Week", "Mo", "Tu", "We", "Th", "Fr", "Sa", "Su"].map fun text =>
    Block.label text Lettering.body)

/-- A week beside its number, as one of the weeks that are shown. -/
def weekRow (rangeEnd : RangeEnd) (index : Nat) (week : List Day) : Block :=
  cells 1 ((week.take 1).map (fun monday =>
      Block.label (numberText monday.isoWeek) Lettering.body)
    ++ week.zipIdx.map fun (day, weekday) =>
      button
        { control := .picker rangeEnd (.day (7 * index + weekday))
          onClick := [.showDay rangeEnd day] }
        (numberText day.dayOfMonth))

def saveDeeds (view : ViewState) (rangeEnd : RangeEnd) (day : Day) : List Deed :=
  let (first, last) := match rangeEnd with
    | .first => (day, view.range.last)
    | .last => (view.range.first, day)
  [.closeDatePicker rangeEnd, .command (.setRange first last)]

def endRow (view : ViewState) (rangeEnd : RangeEnd) (day : Day) : Block :=
  cells gap [.blank 0 0,
    button { control := .picker rangeEnd .cancel, onClick := [.closeDatePicker rangeEnd] } "Cancel",
    button { control := .picker rangeEnd .save, onClick := saveDeeds view rangeEnd day }
      "Save"]

def block (view : ViewState) (rangeEnd : RangeEnd) (day : Day) : Block :=
  .column gap
    ([partRow rangeEnd day, stepRow rangeEnd day, headerRow]
      ++ (weeks day).zipIdx.map (fun (week, index) => weekRow rangeEnd index week)
      ++ [endRow view rangeEnd day])

/-- The day at which the date picker of an end of the range is, if it is open. -/
def openDay? (bar : RangeBar) (memory : Memory) (rangeEnd : RangeEnd) : Option Day :=
  let picker := memory.picker rangeEnd
  if picker.isOpen then some (picker.day.getD (bar.endDay rangeEnd)) else none

/-- The top left corner of a date picker, below its button. -/
def topLeft (bar : RangeBar) (corner : Point) (rangeEnd : RangeEnd) : Point :=
  ⟨bar.endLeft corner.x rangeEnd, corner.y + (bar.block 0).height⟩

def popUp (surface : Surface) (corner : Point) (block : Block) : Sheet :=
  let block := Block.padded MenuBar.margin MenuBar.margin block
  { surface, items := (Block.control { control := .ground surface } block).draw corner }

/-- The date picker of an end of the range, if it is open. -/
def sheet (bar : RangeBar) (corner : Point) (memory : Memory) (rangeEnd : RangeEnd) :
    List Sheet :=
  (openDay? bar memory rangeEnd).toList.map fun day =>
    popUp (.datePicker rangeEnd) (topLeft bar corner rangeEnd) (block bar.view rangeEnd day)

/-- The greatest height of a list of choices. -/
def choicesHeight : Float32 := 200

def choiceBlock (today : Day) (rangeEnd : RangeEnd) (day : Day) (part : DatePart) : Block :=
  Block.inRegion .choices choicesHeight <| .column Block.gapY <| MenuBar.justified <|
    (part.choices today day).map fun value =>
      Block.button
        { control := .picker rangeEnd (.choice part value)
          onClick := [.showDay rangeEnd (part.replace day value)] }
        (part.text value)

def partLeft (part : DatePart) : Float32 :=
  let count := Float32.ofNat (DatePart.all.takeWhile (· ≠ part)).length
  count * ((width - 2 * gap) / 3 + gap)

/-- The list of choices below its button, if it is shown. -/
def choiceSheet (bar : RangeBar) (corner : Point) (memory : Memory) (rangeEnd : RangeEnd) :
    List Sheet :=
  match openDay? bar memory rangeEnd, memory.choices with
  | some day, some (shown, part) =>
      if shown = rangeEnd then
        let corner := topLeft bar corner rangeEnd
        [popUp (.choices rangeEnd part)
          ⟨corner.x + MenuBar.margin + partLeft part, corner.y + MenuBar.margin + rowHeight⟩
          (choiceBlock bar.today rangeEnd day part)]
      else []
  | _, _ => []

def sheets (bar : RangeBar) (corner : Point) (memory : Memory) : List Sheet :=
  [RangeEnd.first, .last].flatMap fun rangeEnd =>
    sheet bar corner memory rangeEnd ++ choiceSheet bar corner memory rangeEnd

end DatePicker

end LoadChart
