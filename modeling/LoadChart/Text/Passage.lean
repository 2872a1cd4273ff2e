/-!
# Passages

A text that is being typed: the letters before the chosen ones, the chosen ones, and those after
them.  Without chosen letters, typing goes on between the other two parts.

Main statements: the letters of a text survive a choice among them (`letters_choose`) and every
step through it (`letters_stepBack`, `letters_stepOn`), and what is typed stands where the chosen
letters were (`letters_replace`).
-/

namespace LoadChart

/-- Which letters of a text are chosen: so many from a place on. -/
structure Selection where
  start : Nat
  count : Nat

/-- A text that is being typed. -/
structure Passage where
  before : List Char
  chosen : List Char
  after : List Char

namespace Passage

/-- Chooses letters of a text, as far as it has them. -/
def choose (letters : List Char) (selection : Selection) : Passage :=
  let rest := letters.drop selection.start
  ⟨letters.take selection.start, rest.take selection.count, rest.drop selection.count⟩

/-- A text with nothing chosen, at its end. -/
def atEnd (letters : List Char) : Passage := ⟨letters, [], []⟩

/-- A text with nothing chosen, at its start. -/
def atStart (letters : List Char) : Passage := ⟨[], [], letters⟩

def letters (passage : Passage) : List Char := passage.before ++ passage.chosen ++ passage.after

def text (passage : Passage) : String := String.ofList passage.letters

def selection (passage : Passage) : Selection := ⟨passage.before.length, passage.chosen.length⟩

/-- Puts letters in the place of the chosen ones, and goes on behind them. -/
def replace (passage : Passage) (letters : List Char) : Passage :=
  ⟨passage.before ++ letters, [], passage.after⟩

/-- Takes out the chosen letters, or else the one before the place of typing. -/
def eraseBack (passage : Passage) : Passage :=
  if passage.chosen.isEmpty then ⟨passage.before.dropLast, [], passage.after⟩
  else passage.replace []

/-- Takes out the chosen letters, or else the one after the place of typing. -/
def eraseOn (passage : Passage) : Passage :=
  if passage.chosen.isEmpty then ⟨passage.before, [], passage.after.drop 1⟩
  else passage.replace []

/-- Goes to the start of the chosen letters, or else one letter back. -/
def stepBack (passage : Passage) : Passage :=
  if passage.chosen.isEmpty then
    let place := passage.before.length - 1
    ⟨passage.before.take place, [], passage.before.drop place ++ passage.after⟩
  else ⟨passage.before, [], passage.chosen ++ passage.after⟩

/-- Goes to the end of the chosen letters, or else one letter on. -/
def stepOn (passage : Passage) : Passage :=
  if passage.chosen.isEmpty then
    ⟨passage.before ++ passage.after.take 1, [], passage.after.drop 1⟩
  else ⟨passage.before ++ passage.chosen, [], passage.after⟩

@[simp]
theorem letters_choose (letters : List Char) (selection : Selection) :
    (choose letters selection).letters = letters := by
  simp only [choose, Passage.letters, List.append_assoc, List.take_append_drop]

@[simp]
theorem letters_replace (passage : Passage) (letters : List Char) :
    (passage.replace letters).letters = passage.before ++ letters ++ passage.after := by
  simp [replace, Passage.letters]

@[simp]
theorem letters_stepBack (passage : Passage) : passage.stepBack.letters = passage.letters := by
  cases passage with
  | mk before chosen after =>
    cases chosen with
    | nil => simp [stepBack, letters, ← List.append_assoc]
    | cons letter rest => simp [stepBack, letters]

@[simp]
theorem letters_stepOn (passage : Passage) : passage.stepOn.letters = passage.letters := by
  cases passage with
  | mk before chosen after =>
    cases chosen with
    | nil => simp only [stepOn, letters, List.isEmpty_nil, if_true, List.append_nil,
        List.append_assoc, List.take_append_drop]
    | cons letter rest => simp [stepOn, letters]

end Passage

end LoadChart
