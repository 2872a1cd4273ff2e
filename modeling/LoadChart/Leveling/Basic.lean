import LoadChart.Calendar.Text
import LoadChart.Identifier
import LoadChart.Text.Decimal
import LoadChart.Text.Letters

/-!
# Leveling

The service moves activities so that no resource has more hours assigned than available.  This
module holds what is asked of it and what it answers; its recommendation is shown as received.  The
number of rounds that leveling may take is typed by the user as any decimal, of which the whole part
counts, within bounds.
-/

namespace LoadChart

/-- What is sent with every leveling request. -/
structure LevelingOptions where
  preserveCriticalPath : Bool
  levelWithinFloat : Bool
  maxIterations : Nat
  /-- The resources to level; all of them where it is missing. -/
  targets : Option (List Identifier)
deriving DecidableEq

namespace LevelingOptions

def standard : LevelingOptions := ⟨true, true, 100, none⟩

end LevelingOptions

/-- One activity that leveling moves. -/
structure ActivityShift where
  activity : Identifier
  code : String
  name : String
  oldStart : Day
  oldFinish : Day
  newStart : Day
  newFinish : Day
  delay : Int
  reason : String

/-- The figures by which strategies are compared. -/
structure LevelingMetrics where
  milliseconds : Float
  shifted : Nat
  extension : Int
  remaining : Nat

namespace LevelingMetrics

def zero : LevelingMetrics := ⟨0, 0, 0, 0⟩

end LevelingMetrics

/-- The answer to a preview or a run. -/
structure LevelingResult where
  success : Bool
  shifts : List ActivityShift
  iterations : Nat
  remaining : Nat
  newFinish : Option Day
  extension : Int
  milliseconds : Float
  warnings : List String
  /-- Told only by a parallel run. -/
  threads : Option Nat
  ownMetrics : Option LevelingMetrics

namespace LevelingResult

/-- The figures of a result: its own, or else those that its other parts tell. -/
def metrics (result : LevelingResult) : LevelingMetrics :=
  result.ownMetrics.getD
    ⟨result.milliseconds, result.shifts.length, result.extension, result.remaining⟩

def activities (result : LevelingResult) : List Identifier := result.shifts.map (·.activity)

end LevelingResult

/-- The answer to a comparison of both strategies. -/
structure LevelingComparison where
  serial : LevelingMetrics
  parallel : LevelingMetrics
  recommendation : String

/-- How leveling goes about its work. -/
inductive Strategy where
  | serial
  | parallel
deriving DecidableEq

namespace Strategy

def label : Strategy → String
  | .serial => "Serial"
  | .parallel => "Parallel"

end Strategy

/-- What can be asked of leveling. -/
inductive LevelingRequest where
  | preview
  | runSerial
  | runParallel
  | compare
  | apply
deriving DecidableEq

/-- Where the status of a request is kept. -/
inductive LevelingSlot where
  | serial
  | parallel
  | comparison
  | apply
deriving DecidableEq

namespace LevelingRequest

def label : LevelingRequest → String
  | .preview => "Preview"
  | .runSerial => "Serial run"
  | .runParallel => "Parallel run"
  | .compare => "Comparison"
  | .apply => "Apply"

def slot : LevelingRequest → LevelingSlot
  | .preview | .runSerial => .serial
  | .runParallel => .parallel
  | .compare => .comparison
  | .apply => .apply

end LevelingRequest

/-- One request that was sent; its answer is known by it. -/
structure LevelingTicket where
  request : LevelingRequest
  number : Nat
deriving DecidableEq

/-- What a leveling request can answer. -/
inductive LevelingOutcome where
  | result (value : LevelingResult)
  | comparison (value : LevelingComparison)
  | applied (count : Nat)

/-- A row of the table that compares two strategies. -/
structure MetricRow where
  label : String
  serial : String
  parallel : String
deriving DecidableEq

namespace MetricRow

def ofMetrics (serial parallel : LevelingMetrics) : List MetricRow :=
  [⟨"Execution time", fixedText 0 serial.milliseconds ++ " ms",
      fixedText 0 parallel.milliseconds ++ " ms"⟩,
    ⟨"Activities shifted", numberText serial.shifted, numberText parallel.shifted⟩,
    ⟨"Schedule extension", integerText serial.extension ++ " d",
      integerText parallel.extension ++ " d"⟩,
    ⟨"Remaining overallocations", numberText serial.remaining, numberText parallel.remaining⟩]

end MetricRow

def leastRounds : Nat := 1

def greatestRounds : Nat := 10000

/-- The whole part of a number, within the bounds.  What is no number is too great. -/
def boundedRounds (value : Float) : Nat :=
  if value < Float.ofNat greatestRounds then
    min greatestRounds (max leastRounds value.toUInt64.toNat)
  else greatestRounds

/-- The letters of a number: without blanks, and with a hyphen for the minus sign of
typesetting. -/
def numberLetters (text : String) : List Char :=
  (text.toList.filter fun letter => !isBlank letter).map fun letter =>
    if letter = '−' then '-' else letter

def readRounds? (text : String) : Option Nat :=
  match numberLetters text with
  | '-' :: rest => (readUnsignedFloat? rest).map fun _ => leastRounds
  | letters => (readFloat? letters).map boundedRounds

end LoadChart
