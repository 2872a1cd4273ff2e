import LoadChart.Filter
import LoadChart.Json.Record
import LoadChart.Screen.Focus
import LoadChart.Service.Decoding
import LoadChart.Service.Failure
import LoadChart.Text.Digits
import LoadChart.Timeline.Column

/-!
# Scripts

Values written as JSON by programs that run this one, down to the commands of the view and the
gestures of the user.  Floats may be written as texts too, so that all of them can be.
-/

namespace LoadChart

/-- A type whose values can be read from scripts. -/
class Scripted (α : Type) where
  read : Json → Option α

namespace Script

open Scripted (read)

variable {α : Type}

def given? (input : Json) (name : String) : Option Json :=
  match input.member? name with
  | some .null => none
  | value => value

/-- A member that must be there. -/
def get [Scripted α] (input : Json) (name : String) : Option α := (input.member? name).bind read

/-- A member that may be missing or null. -/
def opt [Scripted α] (input : Json) (name : String) : Option (Option α) :=
  match given? input name with
  | none => some none
  | some value => (read value).map some

def optOr [Scripted α] (input : Json) (name : String) (standard : α) : Option α :=
  (opt input name).map (·.getD standard)

/-- A sign in front of letters; whether it is a minus. -/
def sign : List Char → Bool × List Char
  | '-' :: rest => (true, rest)
  | '+' :: rest => (false, rest)
  | rest => (false, rest)

/-- Digits behind a point, if there is one. -/
def fraction : List Char → List Char × List Char
  | '.' :: rest => (rest.takeWhile isDigit, rest.dropWhile isDigit)
  | rest => ([], rest)

def exponent? : List Char → Option Int
  | [] => some 0
  | letter :: rest => do
      if letter ≠ 'e' ∧ letter ≠ 'E' then none
      let (below, digits) := sign rest
      let (size, rest) ← readAllDigits? digits
      if rest.isEmpty then some (if below then -(size : Int) else size) else none

def decimal? (text : String) : Option Float := do
  let (negative, letters) := sign text.toList
  let whole := letters.takeWhile isDigit
  let (part, rest) := fraction (letters.drop whole.length)
  if whole.isEmpty && part.isEmpty then none
  let shift := (← exponent? rest) - part.length
  let magnitude := Float.ofScientific (numberOfDigits (whole ++ part)) (shift < 0) shift.natAbs
  return if negative then -magnitude else magnitude

def float? : Json → Option Float
  | .string "inf" => some (1.0 / 0.0)
  | .string "-inf" => some (-1.0 / 0.0)
  | .string "nan" => some (0.0 / 0.0)
  | .string text => decimal? text
  | value => value.float?

def word? (words : List (String × α)) : Json → Option α
  | .string text => (words.find? fun entry => entry.1 = text).map Prod.snd
  | _ => none

end Script

open Script
open Scripted (read)

instance : Scripted Json := ⟨some⟩

instance : Scripted String := ⟨Json.string?⟩

instance : Scripted Bool := ⟨Json.bool?⟩

instance : Scripted Int := ⟨Json.integer64?⟩

instance : Scripted Nat := ⟨Json.natural64?⟩

instance : Scripted Float := ⟨float?⟩

instance : Scripted Float32 := ⟨fun value => (float? value).map Float.toFloat32⟩

instance {α : Type} [Scripted α] : Scripted (List α) := ⟨Json.list? Scripted.read⟩

instance : Scripted Day := ⟨Json.day?⟩

instance : Scripted Identifier := ⟨Json.identifier?⟩

instance : Scripted Category := ⟨Json.category?⟩

instance : Scripted Scale := ⟨Json.scale?⟩

instance : Scripted Resource := ⟨Json.resource?⟩

instance : Scripted AssignmentRecord := ⟨Json.assignmentRecord?⟩

instance : Scripted Histogram := ⟨Json.histogram?⟩

instance : Scripted LevelingOptions := ⟨Json.levelingOptions?⟩

instance : Scripted LevelingMetrics := ⟨Json.metrics?⟩

instance : Scripted LevelingResult := ⟨Json.levelingResult?⟩

instance : Scripted LevelingComparison := ⟨Json.levelingComparison?⟩

instance {α : Type} [Scripted α] [Ranked α] : Scripted (OrderedSet α) := ⟨Json.set? read⟩

instance : Scripted Granularity :=
  ⟨word? [("daily", .daily), ("weekly", .weekly), ("monthly", .monthly)]⟩

instance : Scripted LevelingRequest :=
  ⟨word? [("preview", .preview), ("run_serial", .runSerial), ("run_parallel", .runParallel),
    ("compare", .compare), ("apply", .apply)]⟩

instance : Scripted Operation :=
  ⟨word? (Operation.all.map fun operation => (operation.name, operation))⟩

instance : Scripted Column where
  read
    | .array [first, last, label, isWeekend, monthKey] => do
        return ⟨← read first, ← read last, ← read label, ← read isWeekend, ← read monthKey⟩
    | _ => none

/-- Columns one by one, or those over a range. -/
instance : Scripted (Except TimelineError (List Column)) where
  read
    | .object members => do
        let value := Json.object members
        return Column.between (← get value "start") (← get value "end") (← get value "scale")
    | value => (read value).map .ok

/-- An assignment by itself, without an activity. -/
instance : Scripted Assignment where
  read value := do
    return {
      identifier := ← get value "id"
      activityIdentifier := ← get value "id"
      code := ← optOr value "code" ""
      name := ← optOr value "name" ""
      start := ← get value "start"
      finish := ← get value "finish"
      units := ← optOr value "units" 1.0
      isCritical := ← optOr value "critical" false
      earlyStart := ← opt value "early_start"
      lateFinish := ← opt value "late_finish"
      totalFloat := ← opt value "total_float" }

/-- The records of resources by their identifiers. -/
instance : Scripted (OrderedMap Identifier (List AssignmentRecord)) where
  read
    | .object members =>
        members.foldlM (fun map (name, value) => do
          return map.insert (← Identifier.ofText? name) (← read value)) OrderedMap.empty
    | _ => none

instance : Scripted UtilizationPoint where
  read value := do
    let point := UtilizationPoint.ofHours (← get value "date") (← get value "available")
      (← get value "assigned")
    return { point with
      percent := ← optOr value "percent" point.percent
      isOverallocated := ← optOr value "over" point.isOverallocated }

instance : Scripted Filter where
  read
    | .object members => do
        let value := Json.object members
        return {
          search := ← optOr value "search" ""
          categories := ← optOr value "types" Filter.standard.categories
          onlyOverallocated := ← optOr value "only_overallocated" false
          onlyAssigned := ← optOr value "only_assigned" false
          pools := ← optOr value "pools" OrderedSet.empty }
    | _ => none

instance : Scripted FilterEdit where
  read step := do
    match (← get step "do" : String) with
    | "search" => return .search (← get step "term")
    | "toggle_type" => return .toggleCategory (← get step "type")
    | "types" => return .setCategories (← get step "types")
    | "toggle_pool" => return .togglePool (← get step "id")
    | "only_overallocated" => return .setOnlyOverallocated (← get step "on")
    | "only_assigned" => return .setOnlyAssigned (← get step "on")
    | "clear" => return .clear
    | _ => none

instance : Scripted Failure where
  read value := do
    match (← get value "kind" : String) with
    | "InvalidRange" => return .invalidRange (← get value "start") (← get value "end")
    | "Status" =>
        return .status (← get value "operation")
          (← (value.member? "status").bind (Json.integer? 0 65535)).toNat (← get value "message")
    | "Decode" => return .decode (← get value "operation") (← get value "message")
    | "LevelingRequest" => return .leveling (← get value "operation") (← get value "message")
    | "Runtime" => return .runtime (← get value "message")
    | _ => none

instance : Scripted Command where
  read step := do
    match (← get step "cmd" : String) with
    | "set_scale" => return .setScale (← get step "scale")
    | "set_range" => return .setRange (← get step "start") (← get step "end")
    | "shift_range" => return .shiftRange (← get step "days")
    | "toggle_utilization" => return .toggleUtilization
    | "toggle_highlight" => return .toggleHighlight
    | "set_filter" => return .setFilter (← get step "filter")
    | "clear_filters" => return .clearFilters
    | "select_resource" => return .selectResource (← opt step "id")
    | "select_bar" => return .bar (.select (← get step "id"))
    | "delete_bar" => return .bar (.delete (← get step "id"))
    | "retry" => return .retry
    | "leveling_open" => return .leveling .openWindow
    | "leveling_close" => return .leveling .closeWindow
    | "leveling_options" => return .leveling (.setOptions (← get step "options"))
    | "leveling_request" => return .leveling (.request (← get step "request"))
    | "leveling_toggle" => return .leveling (.toggleShift (← get step "id"))
    | "export" => return .exportUtilization
    | "open_settings" => return .openSettingsFolder
    | "about" => return .showAbout
    | _ => none

instance : Scripted Aiming where
  read action := do
    if ← optOr action "close" false then return .closeButton
    match given? action "at" with
    | some (.array [x, y]) => return .place ⟨← read x, ← read y⟩
    | some _ => none
    | none => return .words (← get action "text") (← optOr action "nth" 0) (← opt action "left")

instance : Scripted Key where
  read value :=
    some ((word?
      [("Escape", Key.escape), ("Tab", .tab), ("Enter", .enter), ("Space", .space),
        ("Backspace", .backspace), ("Delete", .delete), ("ArrowUp", .arrow .up),
        ("ArrowRight", .arrow .right), ("ArrowDown", .arrow .down), ("ArrowLeft", .arrow .left),
        ("Home", .home), ("End", .finish)]
      value).getD .other)

instance : Scripted Gesture where
  read action := do
    match (← get action "do" : String) with
    | "click" => return .click (← read action)
    | "context" => return .context (← read action)
    | "hover" => return .hover (← read action)
    | "wheel" =>
        return .wheel (← read action) (← optOr action "ctrl" false) (← optOr action "dy" 0)
    | "type" => return .type (← get action "value")
    | "key" => return .press (← get action "value")
    | "wait" => return .wait (← optOr action "frames" 1)
    | _ => none

end LoadChart
