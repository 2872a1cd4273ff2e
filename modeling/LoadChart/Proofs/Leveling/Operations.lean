import LoadChart.Leveling.State

/-!
# What the operations of leveling write

Sending a request and accepting an answer each write one slot: what it waits for and its status.
The other slots stay as they are, so the histories of leveling can be followed slot by slot.
-/

namespace LoadChart

namespace LevelingOutcome

def result? : LevelingOutcome → Option LevelingResult
  | .result value => some value
  | _ => none

def comparison? : LevelingOutcome → Option LevelingComparison
  | .comparison value => some value
  | _ => none

def applied? : LevelingOutcome → Option Nat
  | .applied count => some count
  | _ => none

end LevelingOutcome

/-- The status that an answer gives to a slot which expects one kind of outcome.  That kind is
loaded; an error and any other kind have failed. -/
def RequestStatus.ofOutcome {α : Type} (expected : LevelingOutcome → Option α)
    (request : LevelingRequest) : Except String LevelingOutcome → RequestStatus α
  | .error message => .failed message
  | .ok outcome =>
      match expected outcome with
      | some value => .loaded value
      | none => .failed (LevelingState.unexpectedText request)

theorem RequestStatus.ofOutcome_ne {α : Type} (expected : LevelingOutcome → Option α)
    (request : LevelingRequest) (answer : Except String LevelingOutcome) :
    ofOutcome expected request answer ≠ .idle ∧ ofOutcome expected request answer ≠ .loading := by
  unfold ofOutcome
  split
  · simp
  · split <;> simp

namespace LevelingState

/-- The state after an answer that its slot waits for; any other answer is refused. -/
def accept? (state : LevelingState) (ticket : LevelingTicket)
    (answer : Except String LevelingOutcome) : Option LevelingState :=
  match ticket.request with
  | .preview | .runSerial | .runParallel =>
      state.finishResult? ticket (resultAnswer ticket.request answer)
  | .compare => state.finishComparison? ticket (comparisonAnswer ticket.request answer)
  | .apply => state.finishApply? ticket (applyAnswer ticket.request answer)

variable {before after : LevelingState} {ticket : LevelingTicket}
  {answer : Except String LevelingOutcome}

theorem accept?_isSome_iff :
    (before.accept? ticket answer).isSome ↔
      before.wanted ticket.request.slot = some ticket.number := by
  have settled : (before.settle? ticket).isSome ↔
      before.wanted ticket.request.slot = some ticket.number := by
    simp [settle?, awaits]
  rw [← settled]
  unfold accept? finishResult? finishComparison? finishApply?
  split <;> rw [Option.isSome_map]

theorem finish_of_refused (refused : before.accept? ticket answer = none) :
    before.finish ticket answer = (before, none) := by
  unfold accept? at refused
  unfold finish
  split <;> simp_all

theorem toOption_applyAnswer (request : LevelingRequest)
    (answer : Except String LevelingOutcome) (count : Nat) :
    (applyAnswer request answer).toOption = some count ↔ answer = .ok (.applied count) := by
  rcases answer with message | outcome
  · simp [applyAnswer, Except.toOption]
  · cases outcome <;> simp [applyAnswer, Except.toOption]

theorem finish_of_accepted (accepted : before.accept? ticket answer = some after) :
    (before.finish ticket answer).1 = after ∧
      ∀ count, (before.finish ticket answer).2 = some count ↔
        ticket.request = .apply ∧ answer = .ok (.applied count) := by
  unfold accept? at accepted
  unfold finish
  split <;> simp_all [toOption_applyAnswer]

/-- One slot is written: the number of the request that it waits for, and its status. -/
structure Writes (before after : LevelingState) (slot : LevelingSlot) (number : Option Nat)
    (run : RequestStatus LevelingResult) (comparison : RequestStatus LevelingComparison)
    (apply : RequestStatus Nat) : Prop where
  wanted : ∀ other, after.wanted other = if other = slot then number else before.wanted other
  serial : after.serial = if .serial = slot then run else before.serial
  parallel : after.parallel = if .parallel = slot then run else before.parallel
  comparison : after.comparison = if .comparison = slot then comparison else before.comparison
  apply : after.apply = if .apply = slot then apply else before.apply

theorem begin_issued (state : LevelingState) (request : LevelingRequest) :
    (state.begin request).1.issued = state.issued + 1 := by
  cases request
  all_goals rfl

theorem begin_writes (state : LevelingState) (request : LevelingRequest) :
    Writes state (state.begin request).1 request.slot (some (state.issued + 1)) .loading .loading
      .loading := by
  cases request
  all_goals exact ⟨fun _ => rfl, rfl, rfl, rfl, rfl⟩

theorem settle?_eq_some {settled : LevelingState} (found : before.settle? ticket = some settled) :
    settled = before.await ticket.request.slot none := by
  unfold settle? at found
  split at found
  · exact (Option.some.inj found).symm
  · cases found

theorem accept?_writes (accepted : before.accept? ticket answer = some after) :
    after.issued = before.issued ∧
      Writes before after ticket.request.slot none
        (.ofOutcome LevelingOutcome.result? ticket.request answer)
        (.ofOutcome LevelingOutcome.comparison? ticket.request answer)
        (.ofOutcome LevelingOutcome.applied? ticket.request answer) := by
  obtain ⟨request, number⟩ := ticket
  cases request
  all_goals
    obtain ⟨settled, found, rfl⟩ := Option.map_eq_some_iff.1 accepted
    rw [settle?_eq_some found]
    rcases answer with message | outcome
    · exact ⟨rfl, fun _ => rfl, rfl, rfl, rfl, rfl⟩
    · cases outcome
      all_goals exact ⟨rfl, fun _ => rfl, rfl, rfl, rfl, rfl⟩

end LevelingState

end LoadChart
