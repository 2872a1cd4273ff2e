/-!
# Boxes

Points of the screen, and boxes with upright sides.  The top left corner of the screen is the
origin, and lengths are in points.  A signal is what the user does with the pointer and the keyboard
in one frame.  The font is a light one without serifs; the widths of its letters are thousandths of
its size, and a letter that is not listed is as wide as a digit if it is a letter of some alphabet,
and as wide as the size if it is an icon.
-/

namespace LoadChart

/-- A point of the screen. -/
structure Point where
  x : Float32
  y : Float32

/-- A box with upright sides. -/
structure Box where
  left : Float32
  top : Float32
  right : Float32
  bottom : Float32

def lesserLength (left right : Float32) : Float32 := if right < left then right else left

def greaterLength (left right : Float32) : Float32 := if left < right then right else left

namespace Box

def ofSize (corner : Point) (width height : Float32) : Box :=
  ⟨corner.x, corner.y, corner.x + width, corner.y + height⟩

def around (middle : Point) (width height : Float32) : Box :=
  ofSize ⟨middle.x - width / 2, middle.y - height / 2⟩ width height

def width (box : Box) : Float32 := box.right - box.left

def height (box : Box) : Float32 := box.bottom - box.top

def center (box : Box) : Point := ⟨(box.left + box.right) / 2, (box.top + box.bottom) / 2⟩

def topLeft (box : Box) : Point := ⟨box.left, box.top⟩

def topRight (box : Box) : Point := ⟨box.right, box.top⟩

def bottomLeft (box : Box) : Point := ⟨box.left, box.bottom⟩

def bottomRight (box : Box) : Point := ⟨box.right, box.bottom⟩

def shift (box : Box) (x y : Float32) : Box :=
  ⟨box.left + x, box.top + y, box.right + x, box.bottom + y⟩

def grow (box : Box) (reach : Float32) : Box :=
  ⟨box.left - reach, box.top - reach, box.right + reach, box.bottom + reach⟩

def contains (box : Box) (point : Point) : Bool :=
  box.left ≤ point.x && point.x ≤ box.right && box.top ≤ point.y && point.y ≤ box.bottom

def holds (outer inner : Box) : Bool :=
  outer.left ≤ inner.left && inner.right ≤ outer.right && outer.top ≤ inner.top
    && inner.bottom ≤ outer.bottom

def meets (left right : Box) : Bool :=
  left.left ≤ right.right && right.left ≤ left.right && left.top ≤ right.bottom
    && right.top ≤ left.bottom

/-- The part of a box that lies in another.  It has no point where the boxes do not meet. -/
def cut (box frame : Box) : Box :=
  ⟨greaterLength box.left frame.left, greaterLength box.top frame.top,
    lesserLength box.right frame.right, lesserLength box.bottom frame.bottom⟩

def isProper (box : Box) : Bool := box.left ≤ box.right && box.top ≤ box.bottom

def outside (low high place : Float32) : Float32 :=
  if place < low then low - place else if high < place then place - high else 0

def squareDistance (box : Box) (point : Point) : Float32 :=
  let x := outside box.left box.right point.x
  let y := outside box.top box.bottom point.y
  x * x + y * y

def thickness (box : Box) : Float32 := lesserLength box.width box.height

end Box

inductive PointerButton where
  | primary
  | secondary
deriving DecidableEq

/-- The ways in which the arrow keys point. -/
inductive Direction where
  | up
  | right
  | down
  | left
deriving DecidableEq

/-- The keys that do something. -/
inductive Key where
  | escape
  | tab
  | enter
  | space
  | backspace
  | delete
  | arrow (direction : Direction)
  /-- The key that leads to the start of a text. -/
  | home
  /-- The key that leads to the end of a text. -/
  | finish
  | other
deriving DecidableEq

/-- What the user does in one frame. -/
inductive Signal where
  | rest
  | move (pointer : Point)
  | press (button : PointerButton)
  | release (button : PointerButton)
  | key (key : Key)
  | type (text : String)
  /-- Turns the wheel with the control key down. -/
  | turn (pointer : Point) (forward : Bool)

namespace Lettering

def body : Float32 := 12.5

def small : Float32 := 9

def heading : Float32 := 18

def lineHeight (size : Float32) : Float32 := Float32.floor (size * 1.149 + 0.5)

/-- The widths of the letters from `a` to `z`. -/
def smallLetterWidths : List Nat :=
  [502, 566, 457, 566, 550, 354, 563, 553, 231, 231, 497, 258, 848, 553, 584, 566, 566, 364, 415,
    373, 553, 477, 745, 486, 474, 444]

/-- The widths of the letters from `A` to `Z`. -/
def largeLetterWidths : List Nat :=
  [655, 625, 606, 702, 561, 524, 664, 709, 260, 476, 611, 510, 846, 727, 764, 587, 764, 601, 521,
    540, 687, 632, 882, 591, 568, 551]

/-- The widths of the other printable letters of the basic alphabet that are no digits. -/
def markWidths : List (Char × Nat) :=
  [(' ', 229), ('!', 256), ('"', 370), ('#', 660), ('$', 564), ('%', 846), ('&', 652), ('\'', 216),
    ('(', 310), (')', 310), ('*', 474), ('+', 564), (',', 225), ('-', 279), ('.', 225), ('/', 366),
    (':', 225), (';', 225), ('<', 564), ('=', 564), ('>', 564), ('?', 389), ('@', 930),
    ('[', 310), ('\\', 366), (']', 310), ('^', 564), ('_', 500), ('\x7b', 310), ('|', 260),
    ('\x7d', 310), ('~', 564), ('·', 225)]

/-- The width of a digit, and of a letter that is not listed. -/
def digitWidth : Nat := 564

def iconWidth : Nat := 1000

def letterWidth (letter : Char) : Nat :=
  if 'a' ≤ letter ∧ letter ≤ 'z' then
    smallLetterWidths.getD (letter.toNat - 'a'.toNat) digitWidth
  else if 'A' ≤ letter ∧ letter ≤ 'Z' then
    largeLetterWidths.getD (letter.toNat - 'A'.toNat) digitWidth
  else if 0x2000 ≤ letter.toNat then iconWidth
  else ((markWidths.find? fun entry => entry.1 = letter).map Prod.snd).getD digitWidth

def width (size : Float32) (letters : List Char) : Float32 :=
  let thousandths := letters.foldl (fun total letter => total + letterWidth letter) 0
  Float32.ofNat thousandths * size / 1000

/-- The place between letters that is nearest to a distance from the left edge. -/
def placeAt (size distance : Float32) : List Char → Nat
  | [] => 0
  | letter :: rest =>
      let step := width size [letter]
      if distance < step / 2 then 0 else placeAt size (distance - step) rest + 1

end Lettering

end LoadChart
