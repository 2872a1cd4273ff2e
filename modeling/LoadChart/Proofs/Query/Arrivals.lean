import LoadChart.Proofs.Query.Operations
import Mathlib.Data.List.Induction

/-!
# Answers in order of arrival

A query is followed together with a log of its requests, numbered in the order in which they were
sent, and of what its data went through.  Answers are told apart by their keys alone, so the data
are those of the answer that arrived last among those that counted and succeeded, whichever request
was sent last.  A refresh is therefore undone by an older answer for the same key that arrives after
it; it is never undone where the answers for each key arrive in the order of their requests.
-/

namespace LoadChart

namespace Query

variable {κ α : Type}

/-- What the data of a query go through. -/
inductive Happening (κ α : Type) where
  | answered (number : Nat) (key : κ) (resolution : Resolution) (outcome : Except String α)
  | edited (change : α → α)

/-- The requests that were sent for a query, the numbers of those that an invalidation sent, and
what has happened to the data since the start. -/
structure Log (κ α : Type) where
  sent : List κ
  reissued : List Nat
  happenings : List (Happening κ α)

namespace Log

def initial : Log κ α := ⟨[], [], []⟩

def request (log : Log κ α) (key : κ) (isSent : Bool) : Log κ α :=
  if isSent then { log with sent := log.sent ++ [key] } else log

def reissue (log : Log κ α) : Option κ → Log κ α
  | some key =>
      { log with sent := log.sent ++ [key], reissued := log.reissued ++ [log.sent.length] }
  | none => log

def add (log : Log κ α) (happening : Happening κ α) : Log κ α :=
  { log with happenings := log.happenings ++ [happening] }

end Log

namespace Happening

/-- The request that was answered, with its key. -/
def answer? : Happening κ α → Option (Nat × κ)
  | .answered number key _ _ => some (number, key)
  | .edited _ => none

def applied? : Happening κ α → Option (Nat × κ)
  | .answered number key .applied _ => some (number, key)
  | _ => none

def taken? : Happening κ α → Option (Nat × κ)
  | .answered number key .applied (.ok _) => some (number, key)
  | _ => none

/-- What is shown after it, with the request that it came for. -/
def update (shown : Option (Nat × κ × α)) : Happening κ α → Option (Nat × κ × α)
  | .answered number key .applied (.ok value) => some (number, key, value)
  | .edited change => shown.map fun (number, key, value) => (number, key, change value)
  | _ => shown

end Happening

namespace Log

def answered (log : Log κ α) : List (Nat × κ) := log.happenings.filterMap Happening.answer?

def applied (log : Log κ α) : List (Nat × κ) := log.happenings.filterMap Happening.applied?

def taken (log : Log κ α) : List (Nat × κ) := log.happenings.filterMap Happening.taken?

/-- The answer that counted and succeeded last, as it was edited since. -/
def shown (log : Log κ α) : Option (Nat × κ × α) := log.happenings.foldl Happening.update none

/-- The answers for each key have arrived in the order of their requests. -/
def InOrder (log : Log κ α) : Prop :=
  log.answered.Pairwise fun earlier later => earlier.2 = later.2 → earlier.1 < later.1

end Log

namespace Log

variable {log : Log κ α} {number : Nat} {key : κ}

theorem shown_request (log : Log κ α) (key : κ) (isSent : Bool) :
    (log.request key isSent).shown = log.shown := by
  cases isSent <;> rfl

theorem shown_reissue (log : Log κ α) (key : Option κ) :
    (log.reissue key).shown = log.shown := by
  cases key <;> rfl

theorem shown_add (log : Log κ α) (happening : Happening κ α) :
    (log.add happening).shown = happening.update log.shown := by
  simp [shown, add]

theorem answer?_of_taken? {happening : Happening κ α}
    (taken : happening.taken? = some (number, key)) :
    happening.answer? = some (number, key) := by
  cases happening with
  | edited change => cases taken
  | answered own ownKey resolution outcome =>
      cases resolution with
      | superseded => cases taken
      | applied =>
          cases outcome with
          | ok value => exact taken
          | error message => cases taken

theorem mem_answered_of_mem_taken (taken : (number, key) ∈ log.taken) :
    (number, key) ∈ log.answered := by
  obtain ⟨happening, member, own⟩ := List.mem_filterMap.1 taken
  exact List.mem_filterMap.2 ⟨happening, member, answer?_of_taken? own⟩

/-- Where answers arrive in the order of their requests, nothing shown for a key is older than an
answer for it that counted and succeeded. -/
theorem InOrder.le_shown (inOrder : log.InOrder) (taken : (number, key) ∈ log.taken) {newest : Nat}
    {value : α} (isShown : log.shown = some (newest, key, value)) : number ≤ newest := by
  obtain ⟨sent, reissued, happenings⟩ := log
  induction happenings using List.reverseRecOn generalizing value with
  | nil => cases isShown
  | append_singleton earlier last induction =>
      rw [InOrder, answered, List.filterMap_append, List.pairwise_append] at inOrder
      obtain ⟨before, _, behind⟩ := inOrder
      rw [Log.taken, List.filterMap_append, List.mem_append] at taken
      have update := shown_add ⟨sent, reissued, earlier⟩ last
      rw [add, isShown] at update
      cases last with
      | edited change =>
          obtain ⟨⟨number, key, old⟩, isOld, same⟩ := Option.map_eq_some_iff.1 update.symm
          cases same
          exact induction before (taken.resolve_right (by simp [Happening.taken?])) isOld
      | answered own ownKey resolution outcome =>
          cases resolution with
          | superseded =>
              exact induction before (taken.resolve_right (by simp [Happening.taken?])) update.symm
          | applied =>
              cases outcome with
              | error message =>
                  exact induction before (taken.resolve_right (by simp [Happening.taken?]))
                    update.symm
              | ok ownValue =>
                  cases update
                  rcases taken with earlier | last
                  · have isAnswered : (number, key) ∈ answered ⟨sent, reissued, _⟩ :=
                      mem_answered_of_mem_taken earlier
                    exact Nat.le_of_lt (behind _ isAnswered _ List.mem_cons_self rfl)
                  · cases List.mem_singleton.1 last
                    exact Nat.le_refl _

end Log

variable [DecidableEq κ]

/-- The histories of a query with their logs.  An answer is one to a request that was sent and is
not answered yet. -/
inductive Logged : Query κ α → Log κ α → Prop where
  | initial : Logged .initial .initial
  | request {query : Query κ α} {log : Log κ α} (key : κ) :
      Logged query log → Logged (query.request key).1 (log.request key (query.request key).2)
  | invalidate {query : Query κ α} {log : Log κ α} :
      Logged query log → Logged query.invalidate.1 (log.reissue query.invalidate.2)
  | edit {query : Query κ α} {log : Log κ α} (change : α → α) :
      Logged query log → Logged (query.edit change) (log.add (.edited change))
  | answer {query : Query κ α} {log : Log κ α} {number : Nat} {key : κ}
      (sent : log.sent[number]? = some key) (isOpen : (number, key) ∉ log.answered)
      (outcome : Except String α) :
      Logged query log →
        Logged (query.resolve key outcome).1
          (log.add (.answered number key (query.resolve key outcome).2 outcome))

theorem Logged.data {query : Query κ α} {log : Log κ α} (logged : Logged query log) :
    query.data = log.shown.map Prod.snd := by
  induction logged with
  | initial => rfl
  | request key _ data => rw [request_data, data, Log.shown_request]
  | invalidate _ data => rw [invalidate_data, data, Log.shown_reissue]
  | edit change _ data =>
      rw [Query.edit, data, Log.shown_add]
      simp [Happening.update, Function.comp_def]
  | @answer query log number key _ _ outcome _ data =>
      rw [Log.shown_add, resolve_data]
      by_cases wanted : query.wanted = some key
      · rw [if_pos wanted, (resolve_applied_iff query key outcome).2 wanted]
        cases outcome with
        | ok value => rfl
        | error message => exact data
      · have superseded : (query.resolve key outcome).2 = .superseded := by
          cases resolution : (query.resolve key outcome).2 with
          | superseded => rfl
          | applied => exact absurd ((resolve_applied_iff query key outcome).1 resolution) wanted
        rw [if_neg wanted, data, superseded]
        rfl

/-- In every history the data are those of the answer that arrived last among those that counted and
succeeded.  Once the answer to a request that an invalidation sent has counted, an older answer for
the same key changes the data exactly if it succeeds while its key is wanted, and then they are its
own.  Where the answers for each key arrive in the order of their requests, the data for a key never
come from an older request than one whose answer counted and succeeded. -/
theorem data_follow_arrivals {query : Query κ α} {log : Log κ α} (logged : Logged query log) :
    query.data = log.shown.map Prod.snd ∧
    (∀ number ∈ log.reissued, ∀ key, (number, key) ∈ log.applied →
      ∀ older < number, log.sent[older]? = some key → (older, key) ∉ log.answered →
        (∀ value, query.wanted = some key →
          (query.resolve key (.ok value)).1.data = some (key, value)) ∧
        ∀ outcome, (query.wanted ≠ some key ∨ ∃ message, outcome = .error message) →
          (query.resolve key outcome).1.data = query.data) ∧
    (log.InOrder → ∀ number key, (number, key) ∈ log.taken →
      ∀ value, query.data = some (key, value) →
        ∃ newest, number ≤ newest ∧ log.shown = some (newest, key, value)) := by
  refine ⟨logged.data, ?_, ?_⟩
  · intro number _ key _ older _ _ _
    exact ⟨fun value wanted => resolve_data_of_ok wanted value,
      fun _ => resolve_data_of_ineffective⟩
  · intro inOrder number key taken value found
    rw [logged.data] at found
    obtain ⟨⟨newest, own⟩, isShown, rfl⟩ := Option.map_eq_some_iff.1 found
    exact ⟨newest, inOrder.le_shown taken isShown, isShown⟩

def sampleAsked : Query Nat (List Nat) := (Query.initial.request 7).1.invalidate.1

/-- Both requests are for the same key, and the later one is answered first. -/
def sampleRefreshed : Query Nat (List Nat) := (sampleAsked.resolve 7 (.ok [2])).1

def sampleLog : Log Nat (List Nat) :=
  ⟨[7, 7], [1], [.answered 1 7 .applied (.ok [2])]⟩

theorem sampleRefreshed_logged : Logged sampleRefreshed sampleLog := by
  have asked : Logged sampleAsked ⟨[7, 7], [1], []⟩ := .invalidate (.request 7 .initial)
  exact .answer rfl List.not_mem_nil (.ok [2]) asked

/-- An answer that was asked for before a refresh, and arrives after it, can undo the refresh. -/
theorem refresh_not_always_lasting :
    ¬ ∀ (query : Query Nat (List Nat)) (log : Log Nat (List Nat)), Logged query log →
      ∀ number ∈ log.reissued, ∀ key, (number, key) ∈ log.applied →
        ∀ older < number, log.sent[older]? = some key → (older, key) ∉ log.answered →
          ∀ outcome, (query.resolve key outcome).1.value? = query.value? := by
  intro lasting
  have same := lasting _ _ sampleRefreshed_logged 1 (by decide) 7 (by decide) 0 (by decide) rfl
    (by decide) (.ok [1])
  cases same

/-- The refresh of the sample is undone by the older answer, but not by its failure. -/
theorem data_follow_arrivals_refreshed :
    Logged sampleRefreshed sampleLog ∧ sampleLog.InOrder ∧
      (sampleRefreshed.resolve 7 (.ok [1])).1.data = some (7, [1]) ∧
      (sampleRefreshed.resolve 7 (.error "timeout")).1.data = some (7, [2]) ∧
      ∃ newest, 1 ≤ newest ∧ sampleLog.shown = some (newest, 7, [2]) := by
  obtain ⟨_, late, newer⟩ := data_follow_arrivals sampleRefreshed_logged
  obtain ⟨undone, kept⟩ := late 1 (by decide) 7 (by decide) 0 (by decide) rfl (by decide)
  have inOrder : sampleLog.InOrder := List.pairwise_singleton _ _
  exact ⟨sampleRefreshed_logged, inOrder, undone [1] rfl, kept _ (Or.inr ⟨_, rfl⟩),
    newer inOrder 1 7 (by decide) [2] rfl⟩

end Query

end LoadChart
