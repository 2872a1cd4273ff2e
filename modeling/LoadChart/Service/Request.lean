import LoadChart.Json.Value
import LoadChart.Service.Decoding
import LoadChart.Service.Failure
import LoadChart.Service.RequestTarget

/-!
# Requests to the service

The calls that the program makes, and the method, target and body by which each is sent.
-/

namespace LoadChart

/-- The address of the service, without slashes at its end. -/
structure ServiceAddress where
  base : String

namespace ServiceAddress

def trimSlashes (text : String) : String :=
  String.ofList (text.toList.reverse.dropWhile (· == '/')).reverse

def ofText (text : String) : ServiceAddress := ⟨trimSlashes text⟩

/-- The address of a path: one slash between, whatever slashes the path begins with. -/
def url (address : ServiceAddress) (path : String) : String :=
  address.base ++ "/" ++ String.ofList (path.toList.dropWhile (· == '/'))

end ServiceAddress

/-- One call of the service. -/
inductive Call where
  | listResources (program : Identifier)
  | listAssignments (resource : Identifier)
  | histogram (resource : Identifier) (range : DayRange) (granularity : Granularity)
  | leveling (request : LevelingRequest) (program : Identifier) (options : LevelingOptions)
      (shifts : List Identifier)
  | deleteAssignment (assignment : Identifier)

/-- A request as it is sent. -/
structure HttpRequest where
  method : String
  /-- The path and the query. -/
  target : String
  contentType : Option String
  body : String
deriving DecidableEq

namespace LevelingRequest

def operation : LevelingRequest → Operation
  | .preview => .previewLeveling
  | .runSerial => .runLeveling
  | .runParallel => .runParallelLeveling
  | .compare => .compareLeveling
  | .apply => .applyLeveling

def endpoint : LevelingRequest → String
  | .preview => "preview"
  | .runSerial => "run"
  | .runParallel => "parallel"
  | .compare => "compare"
  | .apply => "apply"

end LevelingRequest

namespace Call

def operation : Call → Operation
  | .listResources _ => .listResources
  | .listAssignments _ => .listAssignments
  | .histogram _ _ _ => .getHistogram
  | .leveling request _ _ _ => request.operation
  | .deleteAssignment _ => .deleteAssignment

def isLeveling : Call → Bool
  | .leveling _ _ _ _ => true
  | _ => false

def method : Call → String
  | .leveling _ _ _ _ => "POST"
  | .deleteAssignment _ => "DELETE"
  | _ => "GET"

/-- The path of a call, without a slash in front. -/
def path : Call → String
  | .listResources program => "programs/" ++ program.text ++ "/resources"
  | .listAssignments resource => "resources/" ++ resource.text ++ "/assignments"
  | .histogram resource _ _ => "resources/" ++ resource.text ++ "/histogram"
  | .leveling request program _ _ =>
      "programs/" ++ program.text ++ "/leveling/" ++ request.endpoint
  | .deleteAssignment assignment => "assignments/" ++ assignment.text

def isPlainInValue (letter : Char) : Bool :=
  letter.isAlphanum || letter == '-' || letter == '_' || letter == '.' || letter == '*'

/-- The written form of a value of a query, in which a plus stands for a blank. -/
def queryValue (value : String) : List Char :=
  value.toList.flatMap fun letter =>
    if letter = ' ' then ['+'] else Percent.encode isPlainInValue [letter]

def queryValues : Call → List (String × String)
  | .histogram _ range granularity =>
      [("startDate", range.first.isoText), ("endDate", range.last.isoText),
        ("granularity", granularity.word)]
  | _ => []

def queryText (values : List (String × String)) : List Char :=
  List.intercalate ['&'] (values.map fun (name, value) => name.toList ++ '=' :: queryValue value)

def bodyJson? : Call → Option Json
  | .leveling .apply _ _ shifts =>
      some (.object [("shiftIds", .array (shifts.map fun shift => .string shift.text))])
  | .leveling _ _ options _ => some options.json
  | _ => none

/-- The target of a call to a service, unless the service has no absolute address. -/
def target? (call : Call) (service : ServiceAddress) : Option RequestTarget := do
  let target ← RequestTarget.ofAddress? (service.url call.path)
  let values := call.queryValues
  return if values.isEmpty then target else target.withQuery (queryText values)

/-- The request for a call to a service, unless the service has no absolute address. -/
def request? (call : Call) (service : ServiceAddress) : Option HttpRequest := do
  let target ← call.target? service
  return {
    method := call.method
    target := target.text
    contentType := call.bodyJson?.map fun _ => "application/json"
    body := (call.bodyJson?.map Json.compactText).getD "" }

end Call

end LoadChart
