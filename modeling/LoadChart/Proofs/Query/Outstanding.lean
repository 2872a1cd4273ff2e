import LoadChart.Proofs.Query.Operations
import Mathlib.Data.Multiset.AddSub

/-!
# Requests that are outstanding

A query is followed together with the multiset of the requests that were sent for it and are not
answered yet.  Whatever the order of requests, invalidations, edits and answers, a key in flight
has a request outstanding, and a wanted key is in flight or has been answered.  So a query of
which nothing is outstanding does not wait, and shows data or an error for what is wanted.
-/

namespace LoadChart

namespace Query

variable {κ α : Type}

/-- The query has data for a key, or an error to show. -/
def Answered (query : Query κ α) (key : κ) : Prop :=
  query.DataFor key ∨ ∃ message, query.error = some message

/-- What holds between a query and its outstanding requests. -/
structure Tracked (query : Query κ α) (sent : Multiset κ) : Prop where
  inFlight_mem : ∀ key, query.inFlight = some key → key ∈ sent
  wanted_cases : ∀ key, query.wanted = some key → query.inFlight = some key ∨ query.Answered key

namespace Tracked

variable {query : Query κ α} {sent : Multiset κ}

theorem initial : Tracked (.initial : Query κ α) 0 := by
  constructor
  · intro key flying
    cases flying
  · intro key wanted
    cases wanted

theorem invalidate (query : Query κ α) (sent : Multiset κ) :
    Tracked query.invalidate.1 (query.invalidate.2.elim sent (· ::ₘ sent)) := by
  rw [invalidate_sent]
  constructor
  · intro key flying
    rw [invalidate_inFlight] at flying
    simp [flying]
  · intro key wanted
    exact Or.inl wanted

theorem edit (tracked : Tracked query sent) (change : α → α) :
    Tracked (query.edit change) sent := by
  constructor
  · intro key flying
    exact tracked.inFlight_mem key flying
  · intro key wanted
    rcases tracked.wanted_cases key wanted with flying | dataFor | failed
    · exact Or.inl flying
    · exact Or.inr (Or.inl ((edit_dataFor query change key).2 dataFor))
    · exact Or.inr (Or.inr failed)

theorem settled (tracked : Tracked query 0) :
    query.isFetching = false ∧ ∀ key, query.wanted = some key → query.Answered key := by
  have idle : query.inFlight = none := by
    cases flying : query.inFlight with
    | none => rfl
    | some key => exact absurd (tracked.inFlight_mem key flying) (Multiset.notMem_zero key)
  constructor
  · simp [isFetching, idle]
  · intro key wanted
    rcases tracked.wanted_cases key wanted with flying | answered
    · simp [idle] at flying
    · exact answered

variable [DecidableEq κ]

theorem request (tracked : Tracked query sent) (key : κ) :
    Tracked (query.request key).1 (if (query.request key).2 then key ::ₘ sent else sent) := by
  rcases request_cases query key with ⟨isSent, flying⟩ | ⟨notSent, flying, reason⟩
  · rw [if_pos isSent]
    constructor
    · intro other otherFlying
      have same : key = other := Option.some.inj (flying.symm.trans otherFlying)
      exact same ▸ Multiset.mem_cons_self key sent
    · intro other wanted
      have same : key = other := Option.some.inj ((request_wanted query key).symm.trans wanted)
      exact Or.inl (same ▸ flying)
  · rw [if_neg (by simp [notSent])]
    constructor
    · intro other otherFlying
      rw [flying] at otherFlying
      exact tracked.inFlight_mem other otherFlying
    · intro other wanted
      have same : key = other := Option.some.inj ((request_wanted query key).symm.trans wanted)
      subst other
      rcases reason with already | ⟨dataFor, _⟩
      · exact Or.inl (flying.trans already)
      · refine Or.inr (Or.inl ?_)
        simpa [DataFor] using dataFor

/-- A wanted key is answered once its answer has arrived, whatever it says. -/
theorem answered_of_resolve {key : κ} (wanted : query.wanted = some key)
    (answer : Except String α) : (query.resolve key answer).1.Answered key := by
  cases answer with
  | ok value => exact Or.inl ⟨value, resolve_data_of_ok wanted value⟩
  | error message => exact Or.inr ⟨message, resolve_error_of_error wanted message⟩

theorem answer (tracked : Tracked query sent) (key : κ) (answer : Except String α) :
    Tracked (query.resolve key answer).1 (sent.erase key) := by
  constructor
  · intro other flying
    rw [resolve_inFlight] at flying
    split at flying
    · cases flying
    next different =>
      have otherKey : other ≠ key := by
        intro same
        exact different (same ▸ flying)
      exact (Multiset.mem_erase_of_ne otherKey).2 (tracked.inFlight_mem other flying)
  · intro other wanted
    rw [resolve_wanted] at wanted
    by_cases same : other = key
    · subst other
      exact Or.inr (answered_of_resolve wanted answer)
    have unwanted : query.wanted ≠ some key := by
      intro keyWanted
      exact same (Option.some.inj (wanted.symm.trans keyWanted))
    rcases tracked.wanted_cases other wanted with flying | answered
    · refine Or.inl ?_
      rw [resolve_inFlight, if_neg (by simp [flying, same]), flying]
    · refine Or.inr ?_
      simpa [Answered, DataFor, resolve_data_of_unwanted unwanted,
        resolve_error_of_unwanted unwanted] using answered

end Tracked

variable [DecidableEq κ]

/-- The histories of a query, with the keys of the requests that are outstanding.  An answer takes
one of them. -/
inductive Outstanding : Query κ α → Multiset κ → Prop where
  | initial : Outstanding .initial 0
  | request {query : Query κ α} {sent : Multiset κ} (key : κ) :
      Outstanding query sent →
      Outstanding (query.request key).1 (if (query.request key).2 then key ::ₘ sent else sent)
  | invalidate {query : Query κ α} {sent : Multiset κ} :
      Outstanding query sent →
      Outstanding query.invalidate.1 (query.invalidate.2.elim sent (· ::ₘ sent))
  | edit {query : Query κ α} {sent : Multiset κ} (change : α → α) :
      Outstanding query sent → Outstanding (query.edit change) sent
  | answer {query : Query κ α} {sent : Multiset κ} {key : κ} (arrived : key ∈ sent)
      (answer : Except String α) :
      Outstanding query sent → Outstanding (query.resolve key answer).1 (sent.erase key)

theorem Outstanding.tracked {query : Query κ α} {sent : Multiset κ}
    (history : Outstanding query sent) : Tracked query sent := by
  induction history with
  | initial => exact .initial
  | request key _ tracked => exact tracked.request key
  | invalidate => exact .invalidate _ _
  | edit change _ tracked => exact tracked.edit change
  | answer _ answer _ tracked => exact tracked.answer _ answer

/-- In every history a key in flight is outstanding, and a wanted key is in flight, has data or
left an error.  Once nothing is outstanding the query is idle, and a wanted key has data or left
an error. -/
theorem never_stuck {query : Query κ α} {sent : Multiset κ} (history : Outstanding query sent) :
    (∀ key, query.inFlight = some key → key ∈ sent) ∧
      (∀ key, query.wanted = some key →
        query.inFlight = some key ∨ query.DataFor key ∨ ∃ message, query.error = some message) ∧
      (sent = 0 →
        query.isFetching = false ∧
          ∀ key, query.wanted = some key →
            query.DataFor key ∨ ∃ message, query.error = some message) := by
  have tracked := history.tracked
  refine ⟨tracked.inFlight_mem, tracked.wanted_cases, ?_⟩
  intro empty
  subst empty
  exact tracked.settled

/-- A key that is asked for again while another is in flight, and then answered, is not stuck. -/
theorem never_stuck_answered_out_of_order :
    ∃ query : Query Nat String,
      Outstanding query {7} ∧ query.inFlight = none ∧ query.wanted = some 8 ∧
        (query.DataFor 8 ∨ ∃ message, query.error = some message) := by
  let asked : Query Nat String := ((Query.initial.request 7).1.request 8).1
  have history : Outstanding asked {8, 7} := .request 8 (.request 7 .initial)
  have answered : Outstanding (asked.resolve 8 (.error "timeout")).1 {7} :=
    .answer (by simp) (.error "timeout") history
  refine ⟨_, answered, rfl, rfl, ?_⟩
  rcases (never_stuck answered).2.1 8 rfl with flying | found
  · cases flying
  · exact found

end Query

end LoadChart
