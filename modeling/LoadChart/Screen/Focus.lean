import LoadChart.Screen.Box
import LoadChart.Screen.Scene

/-!
# Gestures and focus

A gesture is what a user does over several frames, and where on the screen.  Keys go to the control
with the focus.  The Tab key gives the focus to the next control, and the arrow keys to the nearest
one in their direction.
-/

namespace LoadChart

/-- Where a gesture is made. -/
inductive Aiming where
  | place (point : Point)
  /-- The middle of one of the texts that read alike, or a place left of its left edge. -/
  | words (text : String) (index : Nat) (left : Option Float32)
  /-- The button that closes a window. -/
  | closeButton

/-- What a user does. -/
inductive Gesture where
  | click (aiming : Aiming)
  | context (aiming : Aiming)
  | hover (aiming : Aiming)
  | wheel (aiming : Aiming) (control : Bool) (amount : Float32)
  | type (text : String)
  | press (key : Key)
  | wait (frames : Nat)

namespace Aiming

/-- The point that is aimed at, if the target is on the screen. -/
def point? (scene : Scene) : Aiming → Option Point
  | .place point => some point
  | .words text index none => (scene.textBox? text index).map Box.center
  | .words text index (some left) =>
      (scene.textBox? text index).map fun box => ⟨box.left - left, box.center.y⟩
  | .closeButton => (scene.box? .closeLeveling).map Box.center

/-- The text that is aimed at, if it is one. -/
def text? : Aiming → Option String
  | .words text _ _ => some text
  | _ => none

end Aiming

namespace Gesture

def clickSignals (button : PointerButton) (point : Point) : List Signal :=
  [.move point, .press button, .release button, .rest]

def wheelSignal (point : Point) (control : Bool) (amount : Float32) : Signal :=
  if control && 0 < amount then .turn point true
  else if control && amount < 0 then .turn point false
  else .move point

/-- The frames of a gesture, or the aim that it missed. -/
def signals (scene : Scene) : Gesture → Except Aiming (List Signal)
  | .click aiming => (aiming.point? scene).elim (.error aiming) fun point =>
      .ok (clickSignals .primary point)
  | .context aiming => (aiming.point? scene).elim (.error aiming) fun point =>
      .ok (clickSignals .secondary point)
  | .hover aiming => (aiming.point? scene).elim (.error aiming) fun point =>
      .ok (.move point :: List.replicate 8 .rest)
  | .wheel aiming control amount => (aiming.point? scene).elim (.error aiming) fun point =>
      .ok [wheelSignal point control amount, .rest]
  | .type text => .ok [.type text]
  | .press key => .ok [.key key, .rest]
  | .wait frames => .ok (List.replicate frames .rest)

end Gesture

/-- Where the focus is. -/
structure Focus where
  control : Option Control
  /-- The first control of the next frame gets the focus. -/
  isPassed : Bool

namespace Focus

def nowhere : Focus := ⟨none, false⟩

def on (control : Control) : Focus := ⟨some control, false⟩

/-- Moves the focus to the next of some controls, and from nowhere to the first.  From the last
one it gets to the first in the next frame. -/
def next (focus : Focus) (controls : List Control) : Focus :=
  match focus.control with
  | none => ⟨controls.head?, false⟩
  | some control =>
      match controls.dropWhile (· ≠ control) with
      | [] => focus
      | _ :: rest => (rest.find? (· ≠ control)).elim ⟨none, true⟩ on

def land (focus : Focus) (controls : List Control) : Focus :=
  if focus.isPassed then controls.head?.elim focus on else focus

/-- Takes the focus from a control that the keyboard does not reach. -/
def keep (focus : Focus) (controls : List Control) : Focus :=
  if focus.control.all controls.contains then focus else nowhere

/-- How far one stretch lies behind another: nothing if half of the shorter one lies in both. -/
def stretchDistance (low high fromLow fromHigh : Float32) : Float32 :=
  let common := lesserLength high fromHigh - greaterLength low fromLow
  if 0.5 * lesserLength (high - low) (fromHigh - fromLow) ≤ common then 0
  else (low + high) / 2 - (fromLow + fromHigh) / 2

def way (origin box : Box) : Point :=
  ⟨stretchDistance box.left box.right origin.left origin.right,
    stretchDistance box.top box.bottom origin.top origin.bottom⟩

def along (way : Point) : Direction → Float32
  | .up => -way.y
  | .right => way.x
  | .down => way.y
  | .left => -way.x

/-- How little a box suits as the next one in a direction.  One that lies more to the side than
in the direction does not suit at all. -/
def score? (direction : Direction) (origin box : Box) : Option Float32 :=
  let way := way origin box
  let length := Float32.sqrt (way.x * way.x + way.y * way.y)
  let share := if length ≤ 0 then 0 else along way direction / length
  if Float32.sqrt 0.5 ≤ share then some (length / (share * share)) else none

def nearest? (direction : Direction) (origin : Box) (stops : List (Control × Box)) :
    Option Control :=
  let scored := stops.filterMap fun (control, box) =>
    (score? direction origin box).map fun score => (control, score)
  let best := scored.foldl (fun best entry =>
    match best with
    | some found => if entry.2 < found.2 then some entry else best
    | none => some entry) (none : Option (Control × Float32))
  best.map Prod.fst

/-- Moves the focus in a direction, if there is a control. -/
def toward (focus : Focus) (direction : Direction) (stops : List (Control × Box)) : Focus :=
  let found : Option Control := do
    let control ← focus.control
    let origin ← (stops.find? fun stop => stop.1 = control).map Prod.snd
    nearest? direction origin (stops.filter fun stop => stop.1 ≠ control)
  found.elim focus on

end Focus

end LoadChart
