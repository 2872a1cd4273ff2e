import LoadChart.Proofs.Leveling.Operations

/-!
# The newest request of a slot wins

Leveling is followed together with a log of the requests that were begun and of the answers that
arrived, in whatever order and however often.  An answer is accepted exactly if it is the first one
to the ticket begun last for its slot, and any other changes nothing.  So the status of a slot is
always told by the log: by the answer to its newest ticket, or by the lack of one.
-/

namespace LoadChart

inductive LevelingEntry where
  | begun (ticket : LevelingTicket)
  | answered (ticket : LevelingTicket) (answer : Except String LevelingOutcome)

namespace LevelingEntry

def latest? : List LevelingEntry → LevelingSlot → Option LevelingTicket
  | [], _ => none
  | begun ticket :: older, slot =>
      if slot = ticket.request.slot then some ticket else latest? older slot
  | answered _ _ :: older, slot => latest? older slot

def answer? : List LevelingEntry → LevelingTicket → Option (Except String LevelingOutcome)
  | [], _ => none
  | begun _ :: older, ticket => answer? older ticket
  | answered other answer :: older, ticket =>
      (answer? older ticket).or (if other = ticket then some answer else none)

/-- The ticket begun last for a slot, with its answer. -/
def newest? (log : List LevelingEntry) (slot : LevelingSlot) :
    Option (LevelingTicket × Option (Except String LevelingOutcome)) :=
  (latest? log slot).map fun ticket => (ticket, answer? log ticket)

variable {log : List LevelingEntry} {slot : LevelingSlot} {ticket : LevelingTicket}

theorem mem_of_latest? (found : latest? log slot = some ticket) :
    begun ticket ∈ log ∧ ticket.request.slot = slot := by
  induction log with
  | nil => cases found
  | cons entry older induction =>
      cases entry with
      | begun own =>
          rw [latest?] at found
          split at found
          next same =>
            cases found
            exact ⟨List.mem_cons_self, same.symm⟩
          next =>
            obtain ⟨member, same⟩ := induction found
            exact ⟨List.mem_cons_of_mem _ member, same⟩
      | answered own answer =>
          obtain ⟨member, same⟩ := induction found
          exact ⟨List.mem_cons_of_mem _ member, same⟩

theorem mem_of_answer? {answer : Except String LevelingOutcome}
    (found : answer? log ticket = some answer) : answered ticket answer ∈ log := by
  induction log with
  | nil => cases found
  | cons entry older induction =>
      cases entry with
      | begun own => exact List.mem_cons_of_mem _ (induction found)
      | answered own ownAnswer =>
          rw [answer?, Option.or_eq_some_iff] at found
          rcases found with earlier | ⟨_, now⟩
          · exact List.mem_cons_of_mem _ (induction earlier)
          · split at now
            next same =>
              cases now
              exact same ▸ List.mem_cons_self
            · cases now

/-- An answer counts for the ticket that it is given to, unless this has one already. -/
theorem answer?_answered (answer : Except String LevelingOutcome) (other : LevelingTicket) :
    answer? (answered ticket answer :: log) other =
      if other = ticket ∧ answer? log ticket = none then some answer else answer? log other := by
  rw [answer?]
  by_cases same : ticket = other
  · subst same
    cases answer? log ticket <;> simp
  · simp [same, Ne.symm same]

theorem newest?_begun (fresh : answer? log ticket = none) :
    newest? (begun ticket :: log) slot =
      if slot = ticket.request.slot then some (ticket, none) else newest? log slot := by
  rw [newest?, latest?]
  split
  · exact congrArg (fun answer => some (ticket, answer)) fresh
  · rfl

theorem newest?_answered_of_awaited (isLatest : latest? log ticket.request.slot = some ticket)
    (unanswered : answer? log ticket = none) (answer : Except String LevelingOutcome) :
    newest? (answered ticket answer :: log) slot =
      if slot = ticket.request.slot then some (ticket, some answer) else newest? log slot := by
  simp only [newest?, latest?, answer?_answered]
  split
  next same => simp [same, isLatest, unanswered]
  next different =>
    cases found : latest? log slot with
    | none => rfl
    | some other =>
        have otherTicket : other ≠ ticket := by
          intro same
          exact different (same ▸ (mem_of_latest? found).2.symm)
        simp [otherTicket]

/-- An answer that no slot waits for does not change what the newest tickets have. -/
theorem newest?_answered_of_not_awaited
    (notAwaited : ¬ (latest? log ticket.request.slot = some ticket ∧ answer? log ticket = none))
    (answer : Except String LevelingOutcome) :
    newest? (answered ticket answer :: log) slot = newest? log slot := by
  simp only [newest?, latest?, answer?_answered]
  cases found : latest? log slot with
  | none => rfl
  | some other =>
      have notNow : ¬ (other = ticket ∧ answer? log ticket = none) := by
        rintro ⟨rfl, unanswered⟩
        exact notAwaited ⟨(mem_of_latest? found).2 ▸ found, unanswered⟩
      simp [notNow]

end LevelingEntry

namespace LevelingState

open LevelingEntry

/-- The number that a slot waits for, given its newest ticket and the answer to it. -/
def awaitedBy : Option (LevelingTicket × Option (Except String LevelingOutcome)) → Option Nat
  | some (ticket, none) => some ticket.number
  | _ => none

def shownBy {α : Type} (expected : LevelingOutcome → Option α) :
    Option (LevelingTicket × Option (Except String LevelingOutcome)) → RequestStatus α
  | none => .idle
  | some (_, none) => .loading
  | some (ticket, some answer) => .ofOutcome expected ticket.request answer

structure Told (state : LevelingState) (log : List LevelingEntry) : Prop where
  wanted : ∀ slot, state.wanted slot = awaitedBy (newest? log slot)
  serial : state.serial = shownBy LevelingOutcome.result? (newest? log .serial)
  parallel : state.parallel = shownBy LevelingOutcome.result? (newest? log .parallel)
  comparison : state.comparison = shownBy LevelingOutcome.comparison? (newest? log .comparison)
  apply : state.apply = shownBy LevelingOutcome.applied? (newest? log .apply)

/-- Tickets are told apart by their numbers, and only tickets that were begun are answered. -/
structure Numbered (issued : Nat) (log : List LevelingEntry) : Prop where
  number_le : ∀ ticket, begun ticket ∈ log → ticket.number ≤ issued
  number_unique : ∀ ticket other, begun ticket ∈ log → begun other ∈ log →
    ticket.number = other.number → ticket = other
  answered_begun : ∀ ticket answer, answered ticket answer ∈ log → begun ticket ∈ log

variable {state after : LevelingState} {log later : List LevelingEntry} {issued : Nat}
  {ticket : LevelingTicket} {answer : Except String LevelingOutcome}

theorem Numbered.begun (numbered : Numbered issued log) (request : LevelingRequest) :
    Numbered (issued + 1) (.begun ⟨request, issued + 1⟩ :: log) := by
  have older : ∀ ticket, LevelingEntry.begun ticket ∈ log → ticket.number ≠ issued + 1 := by
    intro ticket member same
    have := numbered.number_le ticket member
    omega
  constructor
  · intro ticket member
    rcases List.mem_cons.1 member with now | earlier
    · cases now
      exact Nat.le_refl _
    · exact Nat.le_succ_of_le (numbered.number_le ticket earlier)
  · intro ticket other member otherMember same
    rcases List.mem_cons.1 member with now | earlier <;>
      rcases List.mem_cons.1 otherMember with otherNow | otherEarlier
    · cases now
      cases otherNow
      rfl
    · cases now
      exact absurd same.symm (older other otherEarlier)
    · cases otherNow
      exact absurd same (older ticket earlier)
    · exact numbered.number_unique ticket other earlier otherEarlier same
  · intro ticket answer member
    apply List.mem_cons_of_mem
    exact numbered.answered_begun ticket answer (by simpa using member)

theorem Numbered.unanswered (numbered : Numbered issued log) (request : LevelingRequest) :
    answer? log ⟨request, issued + 1⟩ = none := by
  apply Option.eq_none_iff_forall_ne_some.2
  intro answer found
  have below := numbered.number_le _ (numbered.answered_begun _ answer (mem_of_answer? found))
  exact absurd below (Nat.not_succ_le_self issued)

theorem Numbered.answered (numbered : Numbered issued log) (isBegun : .begun ticket ∈ log)
    (answer : Except String LevelingOutcome) :
    Numbered issued (.answered ticket answer :: log) := by
  constructor
  · intro other member
    exact numbered.number_le other (by simpa using member)
  · intro first second member otherMember
    exact numbered.number_unique first second (by simpa using member) (by simpa using otherMember)
  · intro other otherAnswer member
    apply List.mem_cons_of_mem
    rcases List.mem_cons.1 member with now | earlier
    · cases now
      exact isBegun
    · exact numbered.answered_begun other otherAnswer earlier

/-- A slot waits for the ticket that was begun last for it, as long as this has no answer. -/
theorem Told.wanted_iff (told : Told state log) (numbered : Numbered issued log)
    (isBegun : .begun ticket ∈ log) :
    state.wanted ticket.request.slot = some ticket.number ↔
      latest? log ticket.request.slot = some ticket ∧ answer? log ticket = none := by
  rw [told.wanted, newest?]
  cases found : latest? log ticket.request.slot with
  | none => simp [awaitedBy]
  | some other =>
      simp only [Option.map_some, Option.some.injEq]
      constructor
      · intro waits
        cases answered : answer? log other with
        | none =>
            rw [answered] at waits
            have same : other = ticket := numbered.number_unique other ticket
              (mem_of_latest? found).1 isBegun (Option.some.inj waits)
            exact ⟨same, same ▸ answered⟩
        | some own =>
            rw [answered] at waits
            cases waits
      · rintro ⟨rfl, unanswered⟩
        rw [unanswered, awaitedBy]

/-- Where an operation writes what the log then tells of its slot, the log tells the state. -/
theorem Told.of_writes (told : Told state log) (slot : LevelingSlot)
    (now : LevelingTicket × Option (Except String LevelingOutcome))
    (newest : ∀ other, newest? later other = if other = slot then some now else newest? log other)
    (writes : Writes state after slot (awaitedBy now) (shownBy LevelingOutcome.result? now)
      (shownBy LevelingOutcome.comparison? now) (shownBy LevelingOutcome.applied? now)) :
    Told after later := by
  constructor
  · intro other
    rw [writes.wanted, newest, told.wanted]
    split <;> rfl
  · rw [writes.serial, newest, told.serial]
    split <;> rfl
  · rw [writes.parallel, newest, told.parallel]
    split <;> rfl
  · rw [writes.comparison, newest, told.comparison]
    split <;> rfl
  · rw [writes.apply, newest, told.apply]
    split <;> rfl

theorem Told.congr (told : Told state log)
    (newest : ∀ slot, newest? later slot = newest? log slot) : Told state later := by
  constructor
  · intro slot
    rw [newest, told.wanted]
  · rw [newest, told.serial]
  · rw [newest, told.parallel]
  · rw [newest, told.comparison]
  · rw [newest, told.apply]

/-- The histories of leveling with their logs.  Only tickets that were begun are answered, but in
any order and any number of times, and meanwhile the window is opened, closed and ticked. -/
inductive History : LevelingState → List LevelingEntry → Prop where
  | initial : History .initial []
  | begin {state : LevelingState} {log : List LevelingEntry} (request : LevelingRequest) :
      History state log →
      History (state.begin request).1 (.begun (state.begin request).2 :: log)
  | finish {state : LevelingState} {log : List LevelingEntry} {ticket : LevelingTicket}
      (isBegun : .begun ticket ∈ log) (answer : Except String LevelingOutcome) :
      History state log →
      History (state.finish ticket answer).1 (.answered ticket answer :: log)
  | arrange {state : LevelingState} {log : List LevelingEntry} (isOpen : Bool)
      (options : LevelingOptions) (selected : OrderedSet Identifier) :
      History state log → History { state with isOpen, options, selected } log

structure Tracked (state : LevelingState) (log : List LevelingEntry) : Prop where
  numbered : Numbered state.issued log
  told : Told state log

namespace Tracked

theorem initial : Tracked .initial [] := by
  constructor
  · exact ⟨by simp, by simp, by simp⟩
  · exact ⟨fun _ => rfl, rfl, rfl, rfl, rfl⟩

theorem begin (tracked : Tracked state log) (request : LevelingRequest) :
    Tracked (state.begin request).1 (.begun (state.begin request).2 :: log) := by
  constructor
  · rw [begin_issued]
    exact tracked.numbered.begun request
  · apply tracked.told.of_writes request.slot ((state.begin request).2, none) _
      (begin_writes state request)
    intro other
    exact newest?_begun (tracked.numbered.unanswered request)

theorem accept?_isSome_iff (tracked : Tracked state log) (isBegun : .begun ticket ∈ log)
    (answer : Except String LevelingOutcome) :
    (state.accept? ticket answer).isSome ↔
      latest? log ticket.request.slot = some ticket ∧ answer? log ticket = none :=
  LevelingState.accept?_isSome_iff.trans (tracked.told.wanted_iff tracked.numbered isBegun)

theorem finish (tracked : Tracked state log) (isBegun : .begun ticket ∈ log)
    (answer : Except String LevelingOutcome) :
    Tracked (state.finish ticket answer).1 (.answered ticket answer :: log) := by
  have numbered := tracked.numbered.answered isBegun answer
  have awaited := tracked.accept?_isSome_iff isBegun answer
  cases accepted : state.accept? ticket answer with
  | none =>
      rw [accepted] at awaited
      rw [finish_of_refused accepted]
      refine ⟨numbered, tracked.told.congr fun slot => ?_⟩
      apply newest?_answered_of_not_awaited
      intro isNewest
      cases awaited.2 isNewest
  | some after =>
      rw [accepted] at awaited
      obtain ⟨isLatest, unanswered⟩ := awaited.1 rfl
      obtain ⟨issued, writes⟩ := accept?_writes accepted
      rw [(finish_of_accepted accepted).1]
      constructor
      · rw [issued]
        exact numbered
      · apply tracked.told.of_writes ticket.request.slot (ticket, some answer) _ writes
        intro other
        exact newest?_answered_of_awaited isLatest unanswered answer

theorem arrange (tracked : Tracked state log) (isOpen : Bool) (options : LevelingOptions)
    (selected : OrderedSet Identifier) :
    Tracked { state with isOpen, options, selected } log := by
  obtain ⟨numbered, wanted, serial, parallel, comparison, apply⟩ := tracked
  exact ⟨numbered, wanted, serial, parallel, comparison, apply⟩

end Tracked

theorem History.tracked (history : History state log) : Tracked state log := by
  induction history with
  | initial => exact .initial
  | begin request _ tracked => exact tracked.begin request
  | finish isBegun answer _ tracked => exact tracked.finish isBegun answer
  | arrange isOpen options selected _ tracked => exact tracked.arrange isOpen options selected

/-- What a slot shows is told by the ticket begun last for it and by the first answer to that. -/
structure Shows {α : Type} (log : List LevelingEntry) (slot : LevelingSlot)
    (expected : LevelingOutcome → Option α) (status : RequestStatus α) : Prop where
  idle_iff : status = .idle ↔ latest? log slot = none
  loading_iff : status = .loading ↔
    ∃ ticket, latest? log slot = some ticket ∧ answer? log ticket = none
  answered : ∀ ticket answer, latest? log slot = some ticket → answer? log ticket = some answer →
    status = .ofOutcome expected ticket.request answer

theorem shows_shownBy {α : Type} (log : List LevelingEntry) (slot : LevelingSlot)
    (expected : LevelingOutcome → Option α) :
    Shows log slot expected (shownBy expected (newest? log slot)) := by
  have answered : ∀ ticket answer, latest? log slot = some ticket →
      answer? log ticket = some answer →
      shownBy expected (newest? log slot) = .ofOutcome expected ticket.request answer := by
    intro ticket answer isLatest isAnswer
    simp [newest?, isLatest, isAnswer, shownBy]
  cases found : latest? log slot with
  | none =>
      have shown : shownBy expected (newest? log slot) = .idle := by simp [newest?, found, shownBy]
      exact ⟨by simp [shown, found], by simp [shown, found], answered⟩
  | some ticket =>
      cases arrived : answer? log ticket with
      | none =>
          have shown : shownBy expected (newest? log slot) = .loading := by
            simp [newest?, found, arrived, shownBy]
          exact ⟨by simp [shown, found], by simp [shown, found, arrived], answered⟩
      | some answer =>
          have shown := answered ticket answer found arrived
          have notOpen := RequestStatus.ofOutcome_ne expected ticket.request answer
          exact ⟨by simp [shown, found, notOpen], by simp [shown, found, arrived, notOpen],
            answered⟩

/-- In every history an answer is accepted exactly if it is the first one to the ticket begun last
for its slot.  Any other leaves the whole state as it was and tells nothing, and what is told is
the number of shifts of an accepted answer to an application.  Each slot shows what the log tells
of it. -/
theorem newest_request_wins {state : LevelingState} {log : List LevelingEntry}
    (history : History state log) :
    (∀ ticket answer, .begun ticket ∈ log →
      ((state.accept? ticket answer).isSome ↔
        latest? log ticket.request.slot = some ticket ∧ answer? log ticket = none) ∧
      (state.accept? ticket answer = none → state.finish ticket answer = (state, none)) ∧
      (∀ after, state.accept? ticket answer = some after →
        (state.finish ticket answer).1 = after) ∧
      ∀ count, (state.finish ticket answer).2 = some count ↔
        (state.accept? ticket answer).isSome ∧ ticket.request = .apply ∧
          answer = .ok (.applied count)) ∧
      Shows log .serial LevelingOutcome.result? state.serial ∧
      Shows log .parallel LevelingOutcome.result? state.parallel ∧
      Shows log .comparison LevelingOutcome.comparison? state.comparison ∧
      Shows log .apply LevelingOutcome.applied? state.apply := by
  have tracked := history.tracked
  have told := tracked.told
  refine ⟨?_, told.serial ▸ shows_shownBy log .serial _,
    told.parallel ▸ shows_shownBy log .parallel _,
    told.comparison ▸ shows_shownBy log .comparison _, told.apply ▸ shows_shownBy log .apply _⟩
  intro ticket answer isBegun
  refine ⟨tracked.accept?_isSome_iff isBegun answer, finish_of_refused, ?_, ?_⟩
  · intro after accepted
    exact (finish_of_accepted accepted).1
  · intro count
    cases accepted : state.accept? ticket answer with
    | none => simp [finish_of_refused accepted]
    | some after => simp [(finish_of_accepted accepted).2 count]

/-- A preview is answered after a serial run was begun in its place: the answer changes nothing,
and the run is still awaited.  An answer of the wrong kind then ends it. -/
theorem newest_request_wins_over_late_preview :
    let preview : LevelingTicket := ⟨.preview, 1⟩
    let run : LevelingTicket := ⟨.runSerial, 2⟩
    ∃ state log, History state log ∧ log = [.answered preview (.error "late"), .begun run,
        .begun preview] ∧
      state.serial = .loading ∧
      (state.finish preview (.ok (.applied 3))).1 = state ∧
      (state.accept? run (.ok (.applied 3))).isSome := by
  intro preview run
  let begun : LevelingState := ((LevelingState.initial.begin .preview).1.begin .runSerial).1
  have history : History begun [.begun run, .begun preview] :=
    .begin .runSerial (.begin .preview .initial)
  have answered : History (begun.finish preview (.error "late")).1
      [.answered preview (.error "late"), .begun run, .begun preview] :=
    .finish (by simp) (.error "late") history
  obtain ⟨answers, serial, _⟩ := newest_request_wins answered
  obtain ⟨previewAccepted, previewRefused, _⟩ := answers preview (.ok (.applied 3)) (by simp)
  obtain ⟨runAccepted, _⟩ := answers run (.ok (.applied 3)) (by simp)
  refine ⟨_, _, answered, rfl, ?_, ?_, ?_⟩
  · exact serial.loading_iff.2 ⟨run, rfl, rfl⟩
  · rw [previewRefused]
    apply Option.not_isSome_iff_eq_none.1
    intro accepted
    exact absurd (previewAccepted.1 accepted).1 (by decide)
  · exact runAccepted.2 ⟨rfl, rfl⟩

end LevelingState

end LoadChart
