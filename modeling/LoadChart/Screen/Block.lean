import LoadChart.Screen.Box
import LoadChart.Screen.Scene

/-!
# Blocks

Panels are put together from blocks, as a text is put together from lines: side by side with
their middles on one line, or one above the other with their left edges aligned.  Every block
knows how much room it takes, and can be drawn with its top left corner at any point.
-/

namespace LoadChart

/-- A part of a panel. -/
inductive Block where
  /-- Room that is left free. -/
  | blank (width height : Float32)
  /-- A text that does not take the pointer. -/
  | words (text : String) (size : Float32)
  /-- A text that is cut where it is wider than a width. -/
  | cutWords (text : String) (size width : Float32)
  /-- A control below a block, which it is as large as. -/
  | control (target : Target) (block : Block)
  /-- A control over a block, which takes all clicks on its parts. -/
  | over (target : Target) (block : Block)
  /-- A control around a block, which the keyboard reaches before its parts. -/
  | around (target : Target) (block : Block)
  /-- Two blocks side by side. -/
  | beside (gap : Float32) (left right : Block)
  /-- Two blocks one above the other. -/
  | above (gap : Float32) (upper lower : Block)
  /-- A block in the middle of a box that is at least of a size. -/
  | centered (width height : Float32) (block : Block)
  /-- A block at the left edge of a box that is at least of a size. -/
  | flushed (width height : Float32) (block : Block)
  /-- A block with room around it. -/
  | padded (x y : Float32) (block : Block)
  /-- The upper part of a block, if it is higher than a height. -/
  | clipped (height : Float32) (block : Block)

namespace Block

def width : Block → Float32
  | .blank width _ => width
  | .words text size => Lettering.width size text.toList
  | .cutWords text size width => lesserLength width (Lettering.width size text.toList)
  | .control _ block => block.width
  | .over _ block => block.width
  | .around _ block => block.width
  | .beside gap left right => left.width + gap + right.width
  | .above _ upper lower => greaterLength upper.width lower.width
  | .centered width _ block => greaterLength width block.width
  | .flushed width _ block => greaterLength width block.width
  | .padded x _ block => block.width + 2 * x
  | .clipped _ block => block.width

def height : Block → Float32
  | .blank _ height => height
  | .words _ size | .cutWords _ size _ => Lettering.lineHeight size
  | .control _ block => block.height
  | .over _ block => block.height
  | .around _ block => block.height
  | .beside _ left right => greaterLength left.height right.height
  | .above gap upper lower => upper.height + gap + lower.height
  | .centered _ height block => greaterLength height block.height
  | .flushed _ height block => greaterLength height block.height
  | .padded _ y block => block.height + 2 * y
  | .clipped height block => lesserLength height block.height

def midway (corner : Point) (height : Float32) (block : Block) : Point :=
  ⟨corner.x, corner.y + (height - block.height) / 2⟩

def clipMargin : Float32 := 3

def draw (corner : Point) : Block → List Drawn
  | .blank _ _ => []
  | .words text size =>
      [.words text (Box.ofSize corner (Lettering.width size text.toList)
        (Lettering.lineHeight size))]
  | .cutWords text size width =>
      [.words text (Box.ofSize corner (lesserLength width (Lettering.width size text.toList))
        (Lettering.lineHeight size))]
  | .control target block =>
      .control target (Box.ofSize corner block.width block.height) :: block.draw corner
  | .over target block =>
      block.draw corner ++ [.control target (Box.ofSize corner block.width block.height)]
  | .around target block =>
      .hidden target (Box.ofSize corner block.width block.height) :: block.draw corner
  | .beside gap left right =>
      let height := greaterLength left.height right.height
      left.draw (midway corner height left)
        ++ right.draw (midway ⟨corner.x + left.width + gap, corner.y⟩ height right)
  | .above gap upper lower =>
      upper.draw corner ++ lower.draw ⟨corner.x, corner.y + upper.height + gap⟩
  | .centered width height block =>
      let width := greaterLength width block.width
      block.draw (midway ⟨corner.x + (width - block.width) / 2, corner.y⟩
        (greaterLength height block.height) block)
  | .flushed _ height block =>
      block.draw (midway corner (greaterLength height block.height) block)
  | .padded x y block => block.draw ⟨corner.x + x, corner.y + y⟩
  | .clipped height block =>
      let height := lesserLength height block.height
      (block.draw corner).filterMap
        (Drawn.cut? ((Box.ofSize corner block.width height).grow clipMargin))

def upTo (height : Float32) (block : Block) : Block :=
  .above 0 block (.blank 0 (greaterLength 0 (height - block.height)))

def gapX : Float32 := 8

def gapY : Float32 := 4

def rowHeight : Float32 := 18

def blankX (width : Float32) : Block := .blank width 0

def blankY (height : Float32) : Block := .blank 0 height

def row (gap : Float32) : List Block → Block
  | [] => .blank 0 0
  | [block] => block
  | block :: rest => .beside gap block (row gap rest)

def line (blocks : List Block) : Block := .flushed 0 rowHeight (row gapX blocks)

def column (gap : Float32) : List Block → Block
  | [] => .blank 0 0
  | [block] => block
  | block :: rest => .above gap block (column gap rest)

/-- Splits blocks into rows that are no wider than a width where they can be; the first row goes
on from one that is already used up to some place. -/
def rowsWithin (width used : Float32) : List Block → List (List Block)
  | [] => [[]]
  | block :: rest =>
      if used == 0 || used + gapX + block.width ≤ width then
        let used := if used == 0 then block.width else used + gapX + block.width
        match rowsWithin width used rest with
        | [] => [[block]]
        | first :: rows => (block :: first) :: rows
      else
        match rowsWithin width block.width rest with
        | [] => [[], [block]]
        | first :: rows => [] :: (block :: first) :: rows

def wrapped (width : Float32) (blocks : List Block) : Block :=
  column gapY ((rowsWithin width 0 blocks).map line)

def apart (width : Float32) (left right : Block) : Block :=
  .flushed width rowHeight
    (.beside (greaterLength gapX (width - left.width - right.width)) left right)

def label (text : String) (size : Float32) : Block :=
  .control { control := .words text, drags := true, focuses := false } (.words text size)

/-- A text that can be marked.  It is cut at a width, and the pointer is told all of it then. -/
def cutLabel (text : String) (size width : Float32) : Block :=
  let isCut := width < Lettering.width size text.toList
  .control
    { control := .words text
      drags := true
      focuses := false
      tip := fun _ => if isCut then [text] else [] }
    (.cutWords text size width)

def button (target : Target) (text : String) : Block :=
  .control target (.centered 0 rowHeight (.padded 8 4 (.words text Lettering.body)))

def smallButton (target : Target) (text : String) : Block :=
  .control target (.padded 8 0 (.words text Lettering.body))

/-- A box or a ring to tick, before its text. -/
def tickBox (target : Target) (text : String) : Block :=
  .control target
    (.flushed 0 rowHeight (.beside 4 (.blank 14 14) (.words text Lettering.body)))

def plainTickBox (target : Target) : Block := .control target (.blank rowHeight rowHeight)

/-- The greatest of some lengths, at least `least`. -/
def greatest (least : Float32) (lengths : List Float32) : Float32 :=
  lengths.foldl greaterLength least

def cellWidth : Float32 := 40

def columnWidths (count : Nat) (rows : List (List Block)) : List Float32 :=
  (List.range count).map fun index =>
    greatest cellWidth (rows.filterMap fun cells => (cells[index]?).map width)

def table (gapX gapY : Float32) (count : Nat) (rows : List (List Block)) : Block :=
  let widths := columnWidths count rows
  column gapY (rows.map fun cells =>
    row gapX ((cells.zip widths).map fun (cell, width) => .flushed width rowHeight cell))

def regionContents (region : Region) : Target :=
  { control := .region region .contents, clicks := false, drags := true }

def regionBar (region : Region) (part : RegionPart) : Target :=
  { control := .region region part, drags := true }

/-- A block in a region of a height.  If it is higher, it can be moved. -/
def inRegion (region : Region) (height : Float32) (block : Block) : Block :=
  if height < block.height then
    .above 0 (.clipped height (.around (regionContents region) block))
      (.around (regionBar region .barBeside) (.blank 0 0))
  else .clipped height block

def separator : Block := blankY 6

def separatorX : Block := blankX 6

end Block

end LoadChart
