import LoadChart.Screen.Pointer

/-!
# Reactions

A frame takes one signal of the user, answers it by means of the scene drawn last, and draws the
next one.  Keys and typed texts go to the control with the focus.
-/

namespace LoadChart

namespace Memory

/-- The control with the focus, if it is drawn. -/
def focused? (memory : Memory) (scene : Scene) : Option Target :=
  memory.focus.control.bind scene.find?

def focusedEntry? (memory : Memory) (scene : Scene) : Option (Control × Entry) := do
  let target ← memory.focused? scene
  let entry ← target.entry
  return (target.control, entry)

def write (memory : Memory) (control : Control) (entry : Entry) (passage : Passage) : Memory :=
  if entry.isButton then memory.setWriting ⟨control, passage.selection, some passage.text⟩
  else
    { memory.setWriting ⟨control, passage.selection, none⟩ with echo := some passage.text }

def edit (memory : Memory) (scene : Scene) (change : Passage → Passage) : Memory × List Deed :=
  (memory.focusedEntry? scene).elim (memory, []) fun (control, entry) =>
    let passage := change (memory.passage control entry)
    (memory.write control entry passage, entry.edit passage.text)

def typeText (memory : Memory) (scene : Scene) (text : String) : Memory × List Deed :=
  if text.isEmpty || text = "\n" || text = "\r" then (memory, [])
  else memory.edit scene fun passage => passage.replace text.toList

def goTo (memory : Memory) (scene : Scene) (move : Passage → Passage) : Memory :=
  (memory.focusedEntry? scene).elim memory fun (control, entry) =>
    memory.setWriting
      ⟨control, (move (memory.passage control entry)).selection, memory.draft? control⟩

def step (passage : Passage) : Direction → Passage
  | .left => passage.stepBack
  | .right => passage.stepOn
  | .up => .atStart passage.letters
  | .down => .atEnd passage.letters

def isUpright : Direction → Bool
  | .up | .down => true
  | .left | .right => false

/-- Takes an arrow key: it leads through the text with the focus, or else to another control. -/
def pressArrow (memory : Memory) (scene : Scene) (direction : Direction) : Memory :=
  match memory.focusedEntry? scene with
  | some (_, entry) =>
      if entry.isButton && isUpright direction then memory
      else memory.goTo scene fun passage => step passage direction
  | none => { memory with focus := memory.focus.toward direction scene.stops }

/-- Lets go of a text that is a button until it is opened: what was typed counts once more. -/
def leaveText (memory : Memory) (scene : Scene) : Memory × List Deed :=
  match memory.focusedEntry? scene with
  | some (control, entry) =>
      match memory.writing? control with
      | some writing =>
          (memory.setWriting { writing with draft := none },
            writing.draft.elim [] entry.edit)
      | none => (memory, [])
  | none => (memory, [])

/-- Moves the focus, and opens the text at which it arrives. -/
def arrive (memory : Memory) (scene : Scene) (focus : Focus) : Memory :=
  let target := focus.control.bind scene.find?
  { target.elim memory memory.openText with focus }

def pressTab (memory : Memory) (scene : Scene) : Memory × List Deed :=
  let (left, deeds) := memory.leaveText scene
  (left.arrive scene (memory.focus.next (scene.stops.map Prod.fst)), deeds)

def landFocus (memory : Memory) (scene : Scene) : Memory :=
  if memory.focus.isPassed then
    memory.arrive scene (memory.focus.land (scene.stops.map Prod.fst))
  else memory

/-- What a click on the control with the focus does, unless it is a text. -/
def useFocused (memory : Memory) (scene : Scene) : List Deed :=
  (memory.focused? scene).elim [] fun target =>
    if target.clicks && target.entry.isNone then scene.clickDeeds target.control else []

/-- Uses the control with the focus, or lets go of a text. -/
def pressEnter (memory : Memory) (scene : Scene) : Memory × List Deed :=
  if (memory.focusedEntry? scene).isSome then ({ memory with focus := .nowhere }, [])
  else (memory, memory.useFocused scene)

def escape (memory : Memory) (scene : Scene) : Memory :=
  let keepsBarMenu := memory.barMenu.any fun (assignment, _) =>
    (scene.find? (.bar assignment)).isNone
  { memory with
    menu := none
    barMenu := if keepsBarMenu then memory.barMenu else none
    firstPicker := { memory.firstPicker with isOpen := false }
    lastPicker := { memory.lastPicker with isOpen := false }
    choices := none
    focus := .nowhere }

def pressKey (memory : Memory) (scene : Scene) : Key → Memory × List Deed
  | .escape =>
      (memory.escape scene, if scene.shows .aboutWindow then [.closeAbout] else [])
  | .tab => memory.pressTab scene
  | .enter => memory.pressEnter scene
  | .space => (memory, memory.useFocused scene)
  | .backspace => memory.edit scene Passage.eraseBack
  | .delete =>
      if memory.focus.control.isSome then memory.edit scene Passage.eraseOn
      else (memory, scene.targets.flatMap fun (target, _) => target.onDelete)
  | .arrow direction => (memory.pressArrow scene direction, [])
  | .home => (memory.goTo scene fun passage => .atStart passage.letters, [])
  | .finish => (memory.goTo scene fun passage => .atEnd passage.letters, [])
  | .other => (memory, [])

end Memory

/-- What a frame asks of the program. -/
structure Reaction where
  commands : List Command
  closesAbout : Bool

namespace Reaction

def none : Reaction := ⟨[], false⟩

end Reaction

namespace Memory

/-- Lets a frame pass in which the pointer is not moved. -/
def rest (memory : Memory) : Memory := { memory with restFrames := memory.restFrames + 1 }

/-- Answers a signal.  The scene is the one that would be drawn without the signal. -/
def answer (memory : Memory) (scene : Scene) : Signal → Memory × List Deed
  | .rest => (memory.rest, [])
  | .move pointer => (memory.moveTo pointer, [])
  | .press button => (memory.press scene button, [])
  | .release button => memory.release scene button
  | .key key => memory.rest.pressKey scene key
  | .type text => memory.rest.typeText scene text
  | .turn pointer forward =>
      let memory := memory.moveTo pointer
      (memory, memory.turned scene forward)

/-- Does what a control does, as far as the screen alone is concerned. -/
def perform (memory : Memory) : Deed → Memory
  | .toggleMenu menu =>
      { memory with menu := if memory.menu = some menu then none else some menu }
  | .closeMenu => { memory with menu := none, barMenu := none }
  | .openBarMenu assignment =>
      { memory with barMenu := memory.pointer.map fun pointer => (assignment, pointer) }
  | .openDatePicker rangeEnd day =>
      memory.setPicker rangeEnd ⟨true, some ((memory.picker rangeEnd).day.getD day)⟩
  | .toggleChoices rangeEnd part =>
      { memory with
        choices := if memory.choices = some (rangeEnd, part) then none else some (rangeEnd, part) }
  | .showDay rangeEnd day =>
      memory.setPicker rangeEnd { memory.picker rangeEnd with day := some day }
  | .closeDatePicker rangeEnd => memory.setPicker rangeEnd .closed
  | .command _ | .closeAbout => memory

def asked (reaction : Reaction) : Deed → Reaction
  | .command command => { reaction with commands := reaction.commands ++ [command] }
  | .closeAbout => { reaction with closesAbout := true }
  | _ => reaction

/-- Forgets what counts for one frame only. -/
def turnPage (memory : Memory) : Memory := { memory with raised := none, echo := none }

/-- Answers a signal, by means of what the panels draw. -/
def react (memory : Memory) (draw : Memory → Scene) (signal : Signal) : Memory × Reaction :=
  let scene := draw memory.turnPage
  let (memory, deeds) := (memory.turnPage.landFocus scene).answer scene signal
  ((deeds.foldl perform memory).switchMenu, deeds.foldl asked .none)

def frame (memory : Memory) (draw : Memory → Scene) (signal : Signal) : Memory × Reaction :=
  let (memory, reaction) := memory.react draw signal
  let drawn := draw memory
  let looked := memory.look drawn
  (if memory.isUnsettled drawn then looked.look drawn else looked, reaction)

end Memory

namespace Reaction

def append (first second : Reaction) : Reaction :=
  ⟨first.commands ++ second.commands, first.closesAbout || second.closesAbout⟩

end Reaction

namespace Memory

def frames (draw : Memory → Scene) (memory : Memory) : List Signal → Memory × Reaction
  | [] => (memory, .none)
  | signal :: rest =>
      let (memory, first) := memory.frame draw signal
      let (memory, second) := memory.frames draw rest
      (memory, first.append second)

end Memory

end LoadChart
