import LoadChart.Resource.Lane
import LoadChart.Service.Failure

/-!
# Export of utilization

A table with one record for each lane and each column that covers a day of the lane.  Fields are
separated by semicolons, and each record is ended by a line feed.  A field is quoted if it holds a
semicolon, a quote or a line break, and a quote inside is written twice.
-/

namespace LoadChart

namespace Delimited

def needsQuotes (letter : Char) : Bool :=
  letter == ';' || letter == '"' || letter == '\r' || letter == '\n'

/-- Writes each quote twice. -/
def doubleQuotes : List Char → List Char
  | [] => []
  | letter :: rest =>
      if letter = '"' then '"' :: '"' :: doubleQuotes rest else letter :: doubleQuotes rest

def writeField (field : List Char) : List Char :=
  if field.any needsQuotes then '"' :: doubleQuotes field ++ ['"'] else field

def writeRecord : List (List Char) → List Char
  | [] => ['\n']
  | [field] => writeField field ++ ['\n']
  | field :: next :: rest => writeField field ++ ';' :: writeRecord (next :: rest)

def writeRecords (records : List (List (List Char))) : List Char := records.flatMap writeRecord

end Delimited

namespace UtilizationExport

def header : List String :=
  ["Resource Code", "Resource Name", "Type", "Period Start", "Available Hours", "Assigned Hours",
    "Utilization %", "Overallocated"]

def record (lane : Lane) (point : UtilizationPoint) : List String :=
  [lane.code, lane.name, lane.category.label, point.day.slashText, fixedText 1 point.available,
    fixedText 1 point.assigned, fixedText 0 point.percent,
    if point.isOverallocated then "yes" else "no"]

/-- The records of one lane, column by column. -/
def laneRecords? (columns : List Column) (lane : Lane) : Option (List (List String)) :=
  (lane.columnUtilization? columns).map fun points => (points.filterMap id).map (record lane)

/-- The records of all lanes, without the header. -/
def records? (lanes : List Lane) (columns : List Column) : Option (List (List String)) :=
  (lanes.mapM (laneRecords? columns)).map List.flatten

def text (records : List (List String)) : String :=
  String.ofList (Delimited.writeRecords ((header :: records).map (·.map String.toList)))

/-- The table of lanes over columns as it is written, and the number of its records. -/
def export? (lanes : List Lane) (columns : List Column) : Option (String × Nat) :=
  (records? lanes columns).map fun records => (text records, records.length)

/-- A file that was chosen for a table. -/
structure Place where
  path : String
  /-- Why nothing can be written to it, if nothing can. -/
  obstacle? : Option String

def write? (lanes : List Lane) (columns : List Column) (place : Place) :
    Option (Except Failure (String × Nat)) :=
  match place.obstacle? with
  | some reason => some (.error (.unwritten place.path reason))
  | none => (export? lanes columns).map .ok

end UtilizationExport

end LoadChart
