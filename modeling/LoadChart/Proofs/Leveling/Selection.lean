import LoadChart.Proofs.Leveling.Operations

/-!
# The ticked shifts

A result that arrives is listed with all of its shifts ticked.  From then on the listed result can
only be given up for another one, which brings its own ticks, so no shift is ticked that is not in
the list.
-/

namespace LoadChart

namespace LevelingState

/-- Only shifts of the listed result are ticked. -/
def SelectsListed (state : LevelingState) : Prop :=
  ∀ result, state.shiftResult? = some result →
    ∀ activity ∈ state.selected, activity ∈ result.activities

/-- The ticks stay as they were, and no result is listed but the one that was. -/
structure KeepsTicks (before after : LevelingState) : Prop where
  selected : after.selected = before.selected
  listed : ∀ result, after.shiftResult? = some result → before.shiftResult? = some result

variable {before after state : LevelingState} {ticket : LevelingTicket}
  {answer : Except String LevelingOutcome}

theorem shiftResult?_eq_some {result : LevelingResult} :
    state.shiftResult? = some result ↔
      ∃ strategy, state.shiftSource = some strategy ∧
        (state.result strategy).loaded? = some result :=
  Option.bind_eq_some_iff

/-- The status of a strategy is lost while a slot is loading, and no other is changed. -/
theorem result_begin (request : LevelingRequest) {strategy : Strategy} {result : LevelingResult}
    (loaded : ((state.begin request).1.result strategy).loaded? = some result) :
    (state.result strategy).loaded? = some result := by
  cases request <;> cases strategy
  all_goals first | exact loaded | cases loaded

theorem begin_keepsTicks (state : LevelingState) (request : LevelingRequest) :
    KeepsTicks state (state.begin request).1 := by
  have source : (state.begin request).1.shiftSource = state.shiftSource := by cases request <;> rfl
  refine ⟨by cases request <;> rfl, ?_⟩
  intro result listed
  obtain ⟨strategy, isSource, loaded⟩ := shiftResult?_eq_some.1 listed
  rw [source] at isSource
  exact shiftResult?_eq_some.2 ⟨strategy, isSource, result_begin request loaded⟩

theorem shiftResult?_begin_apply (state : LevelingState) :
    (state.begin .apply).1.shiftResult? = state.shiftResult? := rfl

theorem setResult_failed_keepsTicks (state : LevelingState) (strategy : Strategy)
    (message : String) : KeepsTicks state (state.setResult (.failed message) strategy) := by
  refine ⟨by cases strategy <;> rfl, ?_⟩
  intro result listed
  obtain ⟨listedStrategy, isSource, loaded⟩ := shiftResult?_eq_some.1 listed
  refine shiftResult?_eq_some.2 ⟨listedStrategy, ?_, ?_⟩
  · cases strategy <;> exact isSource
  · cases strategy <;> cases listedStrategy
    all_goals first | exact loaded | cases loaded

/-- A result that arrives is listed, and all of its shifts are ticked. -/
theorem finishResult?_ticks {answer : Except String LevelingResult}
    (accepted : before.finishResult? ticket answer = some after) :
    KeepsTicks before after ∨
      ∃ result, after.selected = OrderedSet.ofList result.activities ∧
        after.shiftResult? = some result := by
  obtain ⟨settled, found, rfl⟩ := Option.map_eq_some_iff.1 accepted
  rw [settle?_eq_some found]
  cases answer with
  | error message =>
      obtain ⟨selected, listed⟩ := setResult_failed_keepsTicks
        (before.await ticket.request.slot none) (strategyOf ticket.request) message
      exact Or.inl ⟨selected, listed⟩
  | ok result =>
      refine Or.inr ⟨result, ?_, ?_⟩
      all_goals cases strategyOf ticket.request <;> rfl

/-- An answer keeps the ticks, takes them all away, or lists a result with all of its shifts
ticked. -/
theorem accept?_ticks (accepted : before.accept? ticket answer = some after) :
    KeepsTicks before after ∨ after.selected = OrderedSet.empty ∨
      ∃ result, after.selected = OrderedSet.ofList result.activities ∧
        after.shiftResult? = some result := by
  unfold accept? at accepted
  split at accepted
  case h_4 =>
    obtain ⟨settled, found, rfl⟩ := Option.map_eq_some_iff.1 accepted
    rw [settle?_eq_some found]
    exact Or.inl ⟨rfl, fun _ listed => listed⟩
  case h_5 =>
    obtain ⟨settled, found, rfl⟩ := Option.map_eq_some_iff.1 accepted
    rw [settle?_eq_some found]
    cases applyAnswer ticket.request answer with
    | error message => exact Or.inl ⟨rfl, fun _ listed => listed⟩
    | ok count => exact Or.inr (Or.inl rfl)
  all_goals exact (finishResult?_ticks accepted).imp_right Or.inr

theorem KeepsTicks.selectsListed (keeps : KeepsTicks before after)
    (selects : SelectsListed before) : SelectsListed after := by
  intro result listed
  rw [keeps.selected]
  exact selects result (keeps.listed result listed)

namespace SelectsListed

theorem initial : SelectsListed .initial := by
  intro result listed
  cases listed

theorem begin (selects : SelectsListed state) (request : LevelingRequest) :
    SelectsListed (state.begin request).1 :=
  (begin_keepsTicks state request).selectsListed selects

theorem finish (selects : SelectsListed state) (ticket : LevelingTicket)
    (answer : Except String LevelingOutcome) : SelectsListed (state.finish ticket answer).1 := by
  cases accepted : state.accept? ticket answer with
  | none => rwa [finish_of_refused accepted]
  | some after =>
      rw [(finish_of_accepted accepted).1]
      rcases accept?_ticks accepted with keeps | cleared | ⟨result, ticked, listed⟩
      · exact keeps.selectsListed selects
      · intro result _ activity isTicked
        rw [cleared] at isTicked
        exact absurd isTicked OrderedSet.not_mem_empty
      · intro other otherListed activity isTicked
        cases otherListed.symm.trans listed
        rw [ticked, OrderedSet.mem_ofList] at isTicked
        exact isTicked

/-- Ticking a listed shift, or taking its tick away, ticks no other. -/
theorem toggleShift (selects : SelectsListed state) {activity : Identifier}
    (isListed : ∀ result, state.shiftResult? = some result → activity ∈ result.activities) :
    SelectsListed (state.toggleShift activity) := by
  intro result listed other isTicked
  rcases OrderedSet.mem_toggle.1 isTicked with ⟨_, before⟩ | ⟨rfl, _⟩
  · exact selects result listed other before
  · exact isListed result listed

end SelectsListed

end LevelingState

end LoadChart
