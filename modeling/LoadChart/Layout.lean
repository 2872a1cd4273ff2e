import LoadChart.Resource.Basic
import LoadChart.Resource.Lane
import LoadChart.Timeline.Column

/-!
# Layout of lanes

The place of an assignment over the columns of the timeline: a bar covers whole columns and is cut
off at the first and the last of them.  Assignments of one lane that share a day are drawn in
different sub-rows.  They are taken by their start and then by their identifier, and each goes to
the first sub-row whose last bar finished before it starts; those that touch no column take no
sub-row. A lane is as high as its sub-rows and its row of utilization need.
-/

namespace LoadChart

/-- The place of a bar over the columns. -/
structure BarGeometry where
  left : Float32
  width : Float32
  /-- The assignment starts before the first column. -/
  clippedStart : Bool
  /-- The assignment finishes after the last column. -/
  clippedEnd : Bool

namespace BarGeometry

/-- The first and the last place of the columns that a bar covers, if it touches any. -/
def span? (columns : List Column) (assignment : Assignment) : Option (Nat × Nat) := do
  let first ← columns.head?
  let last ← columns.getLast?
  if assignment.spanEnd < first.first ∨ last.last < assignment.start then none
  else
    let left ←
      if assignment.start < first.first then some 0 else Column.indexOf? columns assignment.start
    let right ←
      if last.last < assignment.spanEnd then some (columns.length - 1)
      else Column.indexOf? columns assignment.spanEnd
    return (left, right)

/-- The place of an assignment over columns of one width, unless it touches none. -/
def of? (columns : List Column) (assignment : Assignment) (width : Float32) :
    Option BarGeometry := do
  let first ← columns.head?
  let last ← columns.getLast?
  let (left, right) ← span? columns assignment
  return {
    left := Float32.ofNat left * width
    width := Float32.ofNat (right - left + 1) * width
    clippedStart := assignment.start < first.first
    clippedEnd := last.last < assignment.spanEnd }

end BarGeometry

/-- An assignment and the sub-row it is drawn in. -/
structure StackedAssignment where
  identifier : Identifier
  subRow : Nat
deriving DecidableEq

namespace Stack

/-- Whether an assignment is placed no later than another. -/
def placedBefore (left right : Assignment) : Bool :=
  left.start < right.start || (left.start = right.start && left.identifier ≤ right.identifier)

/-- The sub-row for a bar over days, and the last day of each sub-row after it. -/
def place (start finish : Day) : List Day → Nat × List Day
  | [] => (0, [finish])
  | rowEnd :: rest =>
      if rowEnd < start then (0, finish :: rest)
      else
        let (row, rest) := place start finish rest
        (row + 1, rowEnd :: rest)

/-- Places assignments one after the other, given the last day of each sub-row. -/
def placeAll : List Day → List Assignment → List StackedAssignment
  | _, [] => []
  | rowEnds, assignment :: rest =>
      let (row, rowEnds) := place assignment.start assignment.spanEnd rowEnds
      ⟨assignment.identifier, row⟩ :: placeAll rowEnds rest

/-- The sub-rows of assignments, in the order in which they are placed. -/
def rows (assignments : List Assignment) : List StackedAssignment :=
  placeAll [] (assignments.mergeSort placedBefore)

/-- The number of sub-rows that are used, at least one. -/
def rowCount (stacked : List StackedAssignment) : Nat :=
  (stacked.map (·.subRow + 1)).foldl max 1

end Stack

/-- What a user can do to a bar. -/
inductive BarCommand where
  | select (identifier : Identifier)
  | delete (identifier : Identifier)
deriving DecidableEq

namespace BarCommand

def identifier : BarCommand → Identifier
  | .select identifier => identifier
  | .delete identifier => identifier

/-- The assignment that a command asks to delete, if any. -/
def deletion? : BarCommand → Option Identifier
  | .select _ => none
  | .delete identifier => some identifier

end BarCommand

/-- The vertical place of one lane below the header of the grid. -/
structure LaneRows where
  identifier : Identifier
  top : Float32
  /-- The height of the bars, without the row of utilization. -/
  barsHeight : Float32
  height : Float32
  stacked : List StackedAssignment

namespace LaneRows

def subRowHeight : Float32 := 22

def utilizationHeight : Float32 := 16

def barInset : Float32 := 3

def visible (columns : List Column) (lane : Lane) : List Assignment :=
  lane.assignments.filter fun assignment => (BarGeometry.of? columns assignment 1).isSome

def higher (left right : Float32) : Float32 := if right < left then left else right

def layFrom (columns : List Column) (rowHeight utilization top : Float32) :
    List Lane → List LaneRows
  | [] => []
  | lane :: rest =>
      let stacked := Stack.rows (visible columns lane)
      let stackedHeight := Float32.ofNat (Stack.rowCount stacked) * subRowHeight + barInset * 2
      let barsHeight := higher rowHeight stackedHeight
      let height := barsHeight + utilization
      ⟨lane.identifier, top, barsHeight, height, stacked⟩
        :: layFrom columns rowHeight utilization (top + height) rest

/-- Lays out lanes, with or without rows of utilization. -/
def ofLanes (lanes : List Lane) (columns : List Column) (rowHeight : Float32)
    (showUtilization : Bool) : List LaneRows :=
  layFrom columns rowHeight (if showUtilization then utilizationHeight else 0) 0 lanes

end LaneRows

end LoadChart
