import LoadChart.Screen.Scene

/-!
# Pointing

Which control the pointer is on.  Only the surface of the control that is nearest to it counts, and
of equally near ones the topmost.  On that surface a control that lies a little beside the pointer
is found too, if there is none right under it.
-/

namespace LoadChart

/-- A control in its place on the screen. -/
structure Spot where
  /-- Its place in the order of drawing. -/
  order : Nat
  surface : Surface
  target : Target
  box : Box

/-- The controls that a pointer is on. -/
structure Aim where
  /-- The control that would be clicked. -/
  click : Option Target
  /-- The control that would be dragged. -/
  drag : Option Target

namespace Aim

def nothing : Aim := ⟨none, none⟩

/-- How far beside a control the pointer may be. -/
def reach : Float32 := 5

/-- The controls of a scene in the order of drawing.  Those of tips are out of reach. -/
def spots (scene : Scene) : List Spot :=
  (scene.reachable.zipIdx.map fun ((surface, target, box), order) =>
    { order, surface, target, box }).filter fun spot => spot.surface ≠ .tip && spot.box.isProper

/-- Takes the nearer of two controls, of equally near ones the second. -/
def closer (pointer : Point) (best : Option Spot) (spot : Spot) : Option Spot :=
  match best with
  | some found =>
      if spot.box.squareDistance pointer ≤ found.box.squareDistance pointer then some spot else best
  | none => some spot

/-- Of controls with one name the place of the last counts, in the order of the first. -/
def settle? (spots : List Spot) (spot : Spot) : Option Spot :=
  let control := spot.target.control
  if control.isNamed then
    let namesakes := spots.filter fun other => other.target.control = control
    if namesakes.any fun other => spot.order < other.order then none
    else (namesakes.head?).map fun first => { spot with order := first.order }
  else some spot

/-- The controls close to a pointer, on the surface of the nearest one. -/
def near (scene : Scene) (pointer : Point) : List Spot :=
  let spots := spots scene
  match spots.foldl (closer pointer) none with
  | none => []
  | some top =>
      let close := spots.filter fun spot =>
        spot.surface = top.surface && spot.box.squareDistance pointer ≤ reach * reach
      (close.filterMap (settle? spots)).mergeSort fun left right => left.order ≤ right.order

def isThinBehind (back front : Box) : Bool :=
  !front.holds back && back.thickness ≤ front.thickness / 2 && back.thickness ≤ 16

/-- Takes the nearer of the control found so far and the next one; of two equally near ones the
upper, unless the lower is thin. -/
def nearer (pointer : Point) (best : Option Spot × Float32) (spot : Spot) :
    Option Spot × Float32 :=
  let distance := spot.box.squareDistance pointer
  let keeps := match best.1 with
    | some found => distance == best.2 && isThinBehind found.box spot.box
    | none => false
  if distance ≤ best.2 && !keeps then (some spot, distance) else best

/-- The nearest of some controls within a distance. -/
def nearest (limit : Float32) (pointer : Point) (spots : List Spot) : Option Spot :=
  (spots.foldl (nearer pointer) (none, limit * limit)).1

def canClick (spot : Spot) : Bool := spot.target.enabled && spot.target.clicks

def canDrag (spot : Spot) : Bool := spot.target.enabled && spot.target.drags

def ofSpot (spot : Spot) : Aim :=
  ⟨if canClick spot then some spot.target else none,
    if canDrag spot then some spot.target else none⟩

/-- The aim where something is dragged right under the pointer and nothing is clicked: a small
control beside the pointer is preferred if it lies in the larger one. -/
def besideDrag (pointer : Point) (spots : List Spot) (drag : Spot) : Aim :=
  match nearest reach pointer (spots.filter canClick) with
  | some click =>
      if !drag.box.holds click.box then ⟨none, some drag.target⟩
      else if canDrag click then ofSpot click
      else ⟨some click.target, some drag.target⟩
  | none =>
      let others := spots.filter fun spot => canDrag spot && spot.order ≠ drag.order
      match nearest reach pointer others with
      | some other => ⟨none, some (if drag.box.holds other.box then other.target else drag.target)⟩
      | none => ⟨none, some drag.target⟩

/-- The aim where one control is clicked and one dragged right under the pointer: the upper one
decides. -/
def between (click drag : Spot) : Aim :=
  if drag.order < click.order then
    if canDrag click then ofSpot click else ⟨some click.target, some drag.target⟩
  else if canClick drag then ofSpot drag
  else ⟨none, some drag.target⟩

def ofScene (scene : Scene) (pointer : Point) : Aim :=
  let spots := near scene pointer
  match nearest 0 pointer (spots.filter canClick), nearest 0 pointer (spots.filter canDrag) with
  | none, none =>
      (nearest reach pointer (spots.filter fun spot => canClick spot || canDrag spot)).elim nothing
        ofSpot
  | none, some drag => besideDrag pointer spots drag
  | some click, none => ⟨some click.target, none⟩
  | some click, some drag => between click drag

/-- The control whose tip is shown: the one that is clicked or dragged, or else one that takes no
pointer but lies under it. -/
def tip (scene : Scene) (pointer : Point) : List String :=
  let aim := ofScene scene pointer
  let found := [aim.click, aim.drag].filterMap fun target =>
    target.map fun target => target.tip pointer
  let passive := ((near scene pointer).filter fun spot =>
    !spot.target.clicks && !spot.target.drags && spot.box.contains pointer).map fun spot =>
    spot.target.tip pointer
  ((found ++ passive).find? fun tip => !tip.isEmpty).getD []

end Aim

end LoadChart
