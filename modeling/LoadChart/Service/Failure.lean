import LoadChart.Timeline.Range

/-!
# Failures

Why a request to the service, or the timeline, failed, and the text shown for it.
-/

namespace LoadChart

/-- A call that the service offers. -/
inductive Operation where
  | listResources
  | listAssignments
  | getHistogram
  | previewLeveling
  | runLeveling
  | runParallelLeveling
  | compareLeveling
  | applyLeveling
  | deleteAssignment
deriving DecidableEq

namespace Operation

def all : List Operation :=
  [.listResources, .listAssignments, .getHistogram, .previewLeveling, .runLeveling,
    .runParallelLeveling, .compareLeveling, .applyLeveling, .deleteAssignment]

def name : Operation → String
  | .listResources => "list_resources"
  | .listAssignments => "list_assignments"
  | .getHistogram => "get_resource_histogram"
  | .previewLeveling => "preview_leveling"
  | .runLeveling => "run_leveling"
  | .runParallelLeveling => "run_parallel_leveling"
  | .compareLeveling => "compare_leveling_algorithms"
  | .applyLeveling => "apply_leveling"
  | .deleteAssignment => "delete_assignment"

end Operation

/-- Why something failed. -/
inductive Failure where
  /-- The last day of a range lies before the first. -/
  | invalidRange (first last : Day)
  /-- No response came. -/
  | fetch (operation : Operation) (reason : String)
  /-- The response has a status that tells of no success. -/
  | status (operation : Operation) (code : Nat) (message : String)
  /-- The body of the response does not have the expected form. -/
  | decode (operation : Operation) (reason : String)
  /-- A leveling request failed. -/
  | leveling (operation : Operation) (message : String)
  /-- A table could not be written. -/
  | unwritten (path reason : String)
  /-- The worker could not start. -/
  | runtime (reason : String)

namespace Failure

def message : Failure → String
  | .invalidRange first last => TimelineError.reversedText first last
  | .fetch operation reason => "failed to fetch " ++ operation.name ++ ": " ++ reason
  | .status operation code message =>
      operation.name ++ " failed with HTTP " ++ numberText code ++ ": " ++ message
  | .decode operation reason => "could not decode " ++ operation.name ++ " response: " ++ reason
  | .leveling operation message =>
      "leveling request " ++ operation.name ++ " failed: " ++ message
  | .unwritten path reason => "failed to export utilization to " ++ path ++ ": " ++ reason
  | .runtime reason => "could not start request runtime: " ++ reason

/-- The failure of a leveling request, whatever its cause. -/
def asLeveling : Failure → Failure
  | .fetch operation reason => .leveling operation reason
  | .status operation code message =>
      .leveling operation ("HTTP " ++ numberText code ++ ": " ++ message)
  | .decode operation reason => .leveling operation reason
  | failure => failure

end Failure

end LoadChart
