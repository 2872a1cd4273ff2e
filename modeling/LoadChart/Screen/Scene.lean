import LoadChart.Screen.Box
import LoadChart.Screen.Control

/-!
# Scenes

What is drawn in one frame: sheets that lie one above the other, each with texts and controls in
the order in which they are drawn.
-/

namespace LoadChart

/-- One thing on a sheet. -/
inductive Drawn where
  | words (text : String) (box : Box)
  | control (target : Target) (box : Box)
  /-- A control out of the reach of the pointer, which the keyboard can still reach. -/
  | hidden (target : Target) (box : Box)

namespace Drawn

/-- What is left of a thing in a frame: texts outside are gone, and controls outside hidden. -/
def cut? (frame : Box) : Drawn → Option Drawn
  | .words text box => if box.meets frame then some (.words text box) else none
  | .control target box =>
      some (if box.meets frame then .control target (box.cut frame) else .hidden target box)
  | .hidden target box => some (.hidden target box)

def words? : Drawn → Option (String × Box)
  | .words text box => if text.isEmpty then none else some (text, box)
  | .control _ _ | .hidden _ _ => none

def target? : Drawn → Option (Target × Box)
  | .words _ _ => none
  | .control target box | .hidden target box => some (target, box)

/-- A control that the pointer can reach, and its place. -/
def reachable? : Drawn → Option (Target × Box)
  | .words _ _ | .hidden _ _ => none
  | .control target box => some (target, box)

end Drawn

/-- Everything drawn on one surface. -/
structure Sheet where
  surface : Surface
  items : List Drawn
  tables : List Table := []

namespace Sheet

/-- The controls in the order in which they are drawn, with their places. -/
def targets (sheet : Sheet) : List (Target × Box) := sheet.items.filterMap Drawn.target?

end Sheet

/-- Sheets from the lowest to the topmost. -/
structure Scene where
  sheets : List Sheet

namespace Scene

def empty : Scene := ⟨[]⟩

/-- The texts in the order in which they are drawn, with their places. -/
def words (scene : Scene) : List (String × Box) :=
  scene.sheets.flatMap fun sheet => sheet.items.filterMap Drawn.words?

def texts (scene : Scene) : List String := scene.words.map Prod.fst

/-- The controls in the order in which they are drawn, with their places. -/
def targets (scene : Scene) : List (Target × Box) := scene.sheets.flatMap Sheet.targets

/-- The controls that the pointer can reach, with their surfaces and places. -/
def reachable (scene : Scene) : List (Surface × Target × Box) :=
  scene.sheets.flatMap fun sheet =>
    (sheet.items.filterMap Drawn.reachable?).map fun (target, box) => (sheet.surface, target, box)

/-- A control, and those of the pop-ups that hang from it, to a depth. -/
def withHanging (scene : Scene) : Nat → Target × Box → List (Target × Box)
  | 0, found => [found]
  | depth + 1, found =>
      found :: (scene.sheets.filter fun sheet =>
        sheet.surface.owner? = some found.1.control).flatMap fun sheet =>
          sheet.targets.flatMap (scene.withHanging depth)

def hangingDepth : Nat := 2

/-- The controls that the keyboard reaches, in the order in which it does.  Those of a pop-up
follow the control from which it hangs. -/
def stops (scene : Scene) : List (Control × Box) :=
  let grounds := scene.sheets.filter fun sheet => sheet.surface.owner?.isNone
  let targets := grounds.flatMap fun sheet =>
    sheet.targets.flatMap (scene.withHanging hangingDepth)
  (targets.filter fun (target, _) => target.takesFocus).map fun (target, box) =>
    (target.control, box)

def textBox? (scene : Scene) (text : String) (index : Nat) : Option Box :=
  ((scene.words.filter fun entry => entry.1 = text)[index]?).map Prod.snd

/-- A control, if it is drawn. -/
def find? (scene : Scene) (control : Control) : Option Target :=
  (scene.targets.find? fun (target, _) => target.control = control).map Prod.fst

/-- What the click of a control does.  Of controls with one name the first answers, but bars with
one name all answer. -/
def clickDeeds (scene : Scene) (control : Control) : List Deed :=
  let found := scene.targets.filter fun (target, _) => target.control = control
  (if control.isBar then found else found.take 1).flatMap fun (target, _) => target.onClick

/-- The place of a control, if it is drawn. -/
def box? (scene : Scene) (control : Control) : Option Box :=
  (scene.targets.find? fun (target, _) => target.control = control).map Prod.snd

def shows (scene : Scene) (surface : Surface) : Bool :=
  scene.sheets.any fun sheet => sheet.surface = surface

end Scene

end LoadChart
