import LoadChart.Screen.Box
import LoadChart.Screen.Memory

/-!
# The pointer

What the screen does when the pointer is moved, and when its buttons go down and up.
-/

namespace LoadChart

namespace Memory

def moveTo (memory : Memory) (pointer : Point) : Memory :=
  match memory.pointer with
  | some old =>
      if old.x == pointer.x && old.y == pointer.y then
        { memory with restFrames := memory.restFrames + 1 }
      else { memory with pointer := some pointer, restFrames := 0, isSpent := false }
  | none => { memory with pointer := some pointer, restFrames := 0, isSpent := false }

/-- While a menu is open, the pointer opens the others by passing over their buttons. -/
def switchMenu (memory : Memory) : Memory :=
  match memory.menu, memory.aimed.map Target.control with
  | some _, some (.menuButton menu) => { memory with menu := some menu }
  | _, _ => memory

def leaveMenu (memory : Memory) : Memory :=
  match memory.menu with
  | some menu =>
      let onButton := memory.aimed.any fun target => target.control.isMenuButton
      if memory.isOn (.menu menu) || onButton then memory else { memory with menu := none }
  | none => memory

/-- A press outside the menu of a bar closes it while the bar is drawn, or if it is on a bar. -/
def leaveBarMenu (memory : Memory) (scene : Scene) : Memory :=
  match memory.barMenu with
  | some (assignment, _) =>
      let onBar := memory.aimed.any fun target => target.control.isBar
      let isDrawn := (scene.find? (.bar assignment)).isSome
      if !memory.isOn (.barMenu assignment) && (isDrawn || onBar) then
        { memory with barMenu := none }
      else memory
  | none => memory

def pressedPlace? (memory : Memory) (control : Control) (entry : Entry) : Option Nat := do
  let pointer ← memory.pointer
  let box ← memory.seen.box? control
  let letters := (memory.shownText control entry.text).toList
  return Lettering.placeAt Lettering.body (pointer.x - (box.left + entry.indent)) letters

/-- A press on a text that is open gives the focus to it, and typing goes on where it is pressed.
Any other press takes the focus away, unless it is on the control that has it. -/
def pressFocus (memory : Memory) : Memory :=
  let pressed := memory.aim.click.toList ++ memory.aim.drag.toList
  let found := pressed.findSome? fun target => do
    let entry ← target.entry
    if entry.isButton && !memory.hasFocus target.control then none
    else
      let place ← memory.pressedPlace? target.control entry
      return (⟨target.control, ⟨place, 0⟩, memory.draft? target.control⟩ : Writing)
  match found with
  | some writing => { memory.setWriting writing with focus := .on writing.control }
  | none =>
      if pressed.any fun target => memory.hasFocus target.control then memory
      else { memory with focus := .nowhere }

def press (memory : Memory) (scene : Scene) (button : PointerButton) : Memory :=
  let memory :=
    { memory with held := memory.aimed.map Target.control, raised := memory.topmost? }
  let memory := memory.leaveBarMenu scene
  let memory := match button with
    | .primary => memory.leaveMenu
    | .secondary => memory
  memory.pressFocus

/-- The control that is clicked when a button is released: the one on which it went down. -/
def clicked? (memory : Memory) (scene : Scene) : Option Target := do
  let held ← memory.held
  let target : Target ← memory.aimed
  if target.control = held then scene.find? held else none

/-- A click elsewhere closes a date picker, which remembers its day. -/
def leavePicker (memory : Memory) (clicked : Option Target) (rangeEnd : RangeEnd) : Memory :=
  let onButton := clicked.any fun target => target.control = .rangeEnd rangeEnd
  if memory.isOn (.datePicker rangeEnd) || onButton then memory
  else memory.setPicker rangeEnd { memory.picker rangeEnd with isOpen := false }

/-- A click hides what a part of a date can be, unless it is on the button that shows it. -/
def leaveChoices (memory : Memory) (clicked : Option Target) : Memory :=
  let onButton := memory.choices.any fun (rangeEnd, part) =>
    clicked.any fun target => target.control = .picker rangeEnd (.part part)
  if onButton then memory else { memory with choices := none }

/-- Opens a text that is a button until then, with all its letters chosen. -/
def openText (memory : Memory) (target : Target) : Memory :=
  match target.entry with
  | some entry =>
      if entry.isButton then
        memory.setWriting ⟨target.control, ⟨0, entry.text.length⟩, none⟩
      else memory
  | none => memory

def clickFocus (memory : Memory) (target : Target) : Memory :=
  if target.entry.any Entry.isButton && !memory.hasFocus target.control then
    { memory.openText target with focus := .on target.control }
  else memory

def release (memory : Memory) (scene : Scene) (button : PointerButton) : Memory × List Deed :=
  let clicked := memory.clicked? scene
  let memory := memory.leaveChoices clicked
  let memory := (memory.leavePicker clicked .first).leavePicker clicked .last
  let memory := { memory with held := none, isSpent := true }
  match clicked, button with
  | none, _ => (memory, [])
  | some target, .primary => (memory.clickFocus target, scene.clickDeeds target.control)
  | some target, .secondary => (memory, target.onContext)

/-- What the wheel does at the pointer, unless a window or pop-up is there. -/
def turned (memory : Memory) (scene : Scene) (forward : Bool) : List Deed :=
  match memory.pointer, memory.topmost? with
  | some pointer, none =>
      scene.reachable.flatMap fun (_, target, box) =>
        if box.contains pointer then target.onWheel forward else []
  | _, _ => []

end Memory

end LoadChart
