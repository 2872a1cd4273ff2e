import LoadChart.Leveling.Basic

/-!
# State of the leveling window

For each slot only the answer to its newest request counts; any other is dropped and changes
nothing.  A result that arrives selects all of its shifts, and applying them clears the
selection.
-/

namespace LoadChart

/-- The status of the newest request of a slot. -/
inductive RequestStatus (α : Type) where
  | idle
  | loading
  | loaded (value : α)
  | failed (message : String)

namespace RequestStatus

variable {α : Type}

def isLoading : RequestStatus α → Bool
  | .loading => true
  | _ => false

def loaded? : RequestStatus α → Option α
  | .loaded value => some value
  | _ => none

def ofAnswer : Except String α → RequestStatus α
  | .ok value => .loaded value
  | .error message => .failed message

end RequestStatus

/-- What the leveling window shows and waits for. -/
structure LevelingState where
  isOpen : Bool
  options : LevelingOptions
  serial : RequestStatus LevelingResult
  parallel : RequestStatus LevelingResult
  comparison : RequestStatus LevelingComparison
  apply : RequestStatus Nat
  /-- The activities whose shifts are ticked. -/
  selected : OrderedSet Identifier
  /-- The strategy whose shifts the selection was taken from. -/
  shiftSource : Option Strategy
  /-- How many requests were sent. -/
  issued : Nat
  /-- The request that each slot waits for. -/
  wanted : LevelingSlot → Option Nat

namespace LevelingState

def initial : LevelingState :=
  { isOpen := false
    options := .standard
    serial := .idle
    parallel := .idle
    comparison := .idle
    apply := .idle
    selected := OrderedSet.empty
    shiftSource := none
    issued := 0
    wanted := fun _ => none }

def result (state : LevelingState) : Strategy → RequestStatus LevelingResult
  | .serial => state.serial
  | .parallel => state.parallel

/-- Makes a slot wait for a request, or for none. -/
def await (state : LevelingState) (slot : LevelingSlot) (number : Option Nat) : LevelingState :=
  { state with wanted := fun other => if other = slot then number else state.wanted other }

def setLoading (state : LevelingState) : LevelingSlot → LevelingState
  | .serial => { state with serial := .loading }
  | .parallel => { state with parallel := .loading }
  | .comparison => { state with comparison := .loading }
  | .apply => { state with apply := .loading }

/-- Sends a request, which takes the place of any earlier one of its slot. -/
def begin (state : LevelingState) (request : LevelingRequest) : LevelingState × LevelingTicket :=
  let number := state.issued + 1
  let state := ({ state with issued := number }.await request.slot (some number)).setLoading
    request.slot
  (state, ⟨request, number⟩)

def awaits (state : LevelingState) (ticket : LevelingTicket) : Bool :=
  state.wanted ticket.request.slot = some ticket.number

/-- Takes the answer that a slot waits for; any other is refused. -/
def settle? (state : LevelingState) (ticket : LevelingTicket) : Option LevelingState :=
  if state.awaits ticket then some (state.await ticket.request.slot none) else none

def strategyOf (request : LevelingRequest) : Strategy :=
  match request.slot with
  | .parallel => .parallel
  | _ => .serial

def setResult (state : LevelingState) (status : RequestStatus LevelingResult) :
    Strategy → LevelingState
  | .serial => { state with serial := status }
  | .parallel => { state with parallel := status }

def finishResult? (state : LevelingState) (ticket : LevelingTicket)
    (answer : Except String LevelingResult) : Option LevelingState :=
  (state.settle? ticket).map fun state =>
    let strategy := strategyOf ticket.request
    let state :=
      match answer with
      | .ok result =>
          { state with
            selected := OrderedSet.ofList result.activities
            shiftSource := some strategy }
      | .error _ => state
    state.setResult (.ofAnswer answer) strategy

def finishComparison? (state : LevelingState) (ticket : LevelingTicket)
    (answer : Except String LevelingComparison) : Option LevelingState :=
  (state.settle? ticket).map fun state => { state with comparison := .ofAnswer answer }

def finishApply? (state : LevelingState) (ticket : LevelingTicket)
    (answer : Except String Nat) : Option LevelingState :=
  (state.settle? ticket).map fun state =>
    match answer with
    | .ok count => { state with selected := OrderedSet.empty, apply := .loaded count }
    | .error message => { state with apply := .failed message }

def unexpectedText (request : LevelingRequest) : String :=
  "unexpected response to " ++ request.label

def resultAnswer (request : LevelingRequest) :
    Except String LevelingOutcome → Except String LevelingResult
  | .ok (.result value) => .ok value
  | .ok _ => .error (unexpectedText request)
  | .error message => .error message

def comparisonAnswer (request : LevelingRequest) :
    Except String LevelingOutcome → Except String LevelingComparison
  | .ok (.comparison value) => .ok value
  | .ok _ => .error (unexpectedText request)
  | .error message => .error message

def applyAnswer (request : LevelingRequest) :
    Except String LevelingOutcome → Except String Nat
  | .ok (.applied count) => .ok count
  | .ok _ => .error (unexpectedText request)
  | .error message => .error message

/-- Takes any answer, and tells how many shifts were applied if it is one to an application. -/
def finish (state : LevelingState) (ticket : LevelingTicket)
    (answer : Except String LevelingOutcome) : LevelingState × Option Nat :=
  match ticket.request with
  | .preview | .runSerial | .runParallel =>
      ((state.finishResult? ticket (resultAnswer ticket.request answer)).getD state, none)
  | .compare =>
      ((state.finishComparison? ticket (comparisonAnswer ticket.request answer)).getD state, none)
  | .apply =>
      match state.finishApply? ticket (applyAnswer ticket.request answer) with
      | some state => (state, (applyAnswer ticket.request answer).toOption)
      | none => (state, none)

def shiftResult? (state : LevelingState) : Option LevelingResult :=
  state.shiftSource.bind fun strategy => (state.result strategy).loaded?

/-- Ticks the shift of an activity, or takes its tick away. -/
def toggleShift (state : LevelingState) (activity : Identifier) : LevelingState :=
  { state with selected := state.selected.toggle activity }

def shiftIdentifiers (state : LevelingState) : List Identifier := state.selected.toList

end LevelingState

end LoadChart
