import LoadChart.Proofs.Query.Runs

/-!
# Errors and what is wanted

The error of a query is that of the answer that counted last, if it is a failure.  It belongs to the
key that was wanted when the answer came, and stays when another key is asked for.  So it belongs to
the wanted key exactly while no other key was asked for last, and it makes the query ask again even
for a key whose own data are there.
-/

namespace LoadChart

namespace Query

variable {κ α : Type} [DecidableEq κ]

/-- The answer that counted last in a run is a failure for a key, and what was done since. -/
def LastFailure (query : Query κ α) (run : List (Operation κ α)) (key : κ) (message : String)
    (since : List (Operation κ α)) : Prop :=
  ∃ before,
    run = before ++ .resolve key (.error message) :: since ∧
      (query.after before).wanted = some key ∧
      (query.after (before ++ [.resolve key (.error message)])).applied since = []

variable {query : Query κ α} {operation : Operation κ α} {run since : List (Operation κ α)}
  {key : κ} {message : String}

theorem perform_error_of_uncounted (uncounted : query.applied? operation = none) :
    (query.perform operation).error = query.error := by
  cases operation with
  | request own => exact request_error query own
  | invalidate => rfl
  | edit change => rfl
  | resolve own answer =>
      refine resolve_error_of_unwanted ?_ answer
      intro wanted
      rw [applied?_resolve_of_wanted wanted] at uncounted
      cases uncounted

theorem after_error_of_uncounted (uncounted : query.applied run = []) :
    (query.after run).error = query.error := by
  induction run generalizing query with
  | nil => rfl
  | cons operation rest induction =>
      rw [applied, List.append_eq_nil_iff, Option.toList_eq_nil_iff] at uncounted
      rw [after_cons, induction uncounted.2, perform_error_of_uncounted uncounted.1]

theorem resolve_error_of_ok (wanted : query.wanted = some key) (value : α) :
    (query.resolve key (.ok value)).1.error = none :=
  congrArg Contents.error (contents_resolve_of_wanted wanted (.ok value))

theorem LastFailure.concat (last : query.LastFailure run key message since)
    (uncounted : (query.after run).applied? operation = none) :
    query.LastFailure (run ++ [operation]) key message (since ++ [operation]) := by
  obtain ⟨before, rfl, wanted, none⟩ := last
  refine ⟨before, by simp, wanted, ?_⟩
  rw [applied_concat, none, ← after_append, List.append_assoc, List.singleton_append, uncounted]
  rfl

theorem LastFailure.error (last : query.LastFailure run key message since) :
    (query.after run).error = some message := by
  obtain ⟨before, rfl, wanted, none⟩ := last
  rw [after_concat] at none
  rw [after_append, after_cons, after_error_of_uncounted none]
  exact resolve_error_of_error wanted message

/-- The key of the last failure is wanted as long as no other was asked for last. -/
theorem LastFailure.wanted_iff (last : query.LastFailure run key message since) :
    (query.after run).wanted = some key ↔ ∀ newest ∈ (requested since).getLast?, newest = key := by
  obtain ⟨before, rfl, wanted, _⟩ := last
  rw [after_append, after_cons, after_wanted, perform, resolve_wanted, wanted]
  cases (requested since).getLast? with
  | none => simp
  | some newest => simp

theorem initial_error_iff (run : List (Operation κ α)) (message : String) :
    (initial.after run).error = some message ↔
      ∃ key since, initial.LastFailure run key message since := by
  constructor
  · intro failed
    induction run using List.reverseRecOn with
    | nil => cases failed
    | append_singleton run operation induction =>
        rw [after_concat] at failed
        cases counted : (initial.after run).applied? operation with
        | none =>
            rw [perform_error_of_uncounted counted] at failed
            obtain ⟨key, since, last⟩ := induction failed
            exact ⟨key, since ++ [operation], last.concat counted⟩
        | some entry =>
            cases operation with
            | request own => cases counted
            | invalidate => cases counted
            | edit change => cases counted
            | resolve own answer =>
                have wanted : (initial.after run : Query κ α).wanted = some own := by
                  by_contra unwanted
                  rw [applied?_resolve_of_unwanted unwanted] at counted
                  cases counted
                cases answer with
                | ok value =>
                    rw [perform, resolve_error_of_ok wanted] at failed
                    cases failed
                | error own =>
                    rw [perform, resolve_error_of_error wanted] at failed
                    cases failed
                    exact ⟨_, [], run, rfl, wanted, rfl⟩
  · rintro ⟨key, since, last⟩
    exact last.error

/-- A key whose data are there is asked for again exactly if it is not in flight and the query has
an error, of whatever key. -/
theorem request_of_dataFor (dataFor : query.DataFor key) :
    (query.request key).2 = true ↔ query.inFlight ≠ some key ∧ query.error ≠ none := by
  obtain ⟨value, data⟩ := dataFor
  unfold request
  by_cases flying : query.inFlight = some key
  · simp [flying]
  · by_cases failed : query.error = none <;>
      simp [flying, holds, data, failed, Option.isNone_iff_eq_none]

/-- In every run the error is that of the answer that counted last, if it is a failure; its key is
wanted exactly if no other key was asked for last since; and a key whose data are there is asked for
again exactly if it is not in flight and the answer that counted last is a failure, of whatever
key. -/
theorem error_is_of_last_answer (run : List (Operation κ α)) :
    (∀ message, (initial.after run).error = some message ↔
      ∃ key since, initial.LastFailure run key message since) ∧
    (∀ key message since, initial.LastFailure run key message since →
      ((initial.after run).wanted = some key ↔
        ∀ newest ∈ (requested since).getLast?, newest = key)) ∧
    ∀ key, (initial.after run).DataFor key →
      (((initial.after run).request key).2 = true ↔
        (initial.after run).inFlight ≠ some key ∧
          ∃ other message since, initial.LastFailure run other message since) := by
  refine ⟨initial_error_iff run, fun _ _ _ last => last.wanted_iff, ?_⟩
  intro key dataFor
  rw [request_of_dataFor dataFor, Option.ne_none_iff_exists']
  refine and_congr_right fun _ => ?_
  constructor
  · rintro ⟨message, failed⟩
    obtain ⟨other, since, last⟩ := (initial_error_iff run message).1 failed
    exact ⟨other, message, since, last⟩
  · rintro ⟨other, message, since, last⟩
    exact ⟨message, last.error⟩

/-- One key loads, then another fails. -/
def sampleFailed : List (Operation Nat String) :=
  [.request 1, .resolve 1 (.ok "one"), .request 2, .resolve 2 (.error "HTTP 503")]

/-- The error of the sample is the one of the key that is wanted, until the other key is asked for
again.  The data of that key are there, and still it is sent for. -/
theorem error_is_of_last_answer_sample :
    (initial.after sampleFailed).error = some "HTTP 503" ∧
      (initial.after (sampleFailed ++ [.request 1])).wanted ≠ some 2 ∧
      ((initial.after sampleFailed).request 1).2 = true := by
  have last : initial.LastFailure sampleFailed 2 "HTTP 503" [] :=
    ⟨sampleFailed.take 3, rfl, rfl, rfl⟩
  have lastStill : initial.LastFailure (sampleFailed ++ [.request 1]) 2 "HTTP 503" [.request 1] :=
    ⟨sampleFailed.take 3, rfl, rfl, rfl⟩
  obtain ⟨failed, _, again⟩ := error_is_of_last_answer sampleFailed
  obtain ⟨_, wanted, _⟩ := error_is_of_last_answer (sampleFailed ++ [.request 1])
  refine ⟨(failed _).2 ⟨2, [], last⟩, ?_, (again 1 ⟨"one", rfl⟩).2 ⟨by decide, 2, _, [], last⟩⟩
  intro same
  have newest := (wanted 2 _ _ lastStill).1 same 1 rfl
  cases newest

/-- An error can be there while another key is wanted than the one that failed, and a key that was
loaded without an error, and whose data are there, can be asked for again. -/
theorem error_not_always_of_wanted :
    (¬ ∀ (run : List (Operation Nat String)) (message : String),
      (initial.after run).error = some message →
        ∃ key, (initial.applied run).getLast? = some (key, .error message) ∧
          (initial.after run).wanted = some key) ∧
    ¬ ∀ (run : List (Operation Nat String)) (key : Nat) (value : String),
      (initial.after run).DataFor key →
        ((initial.applied run).filter (·.1 = key)).getLast? = some (key, .ok value) →
          ((initial.after run).request key).2 = false := by
  constructor
  · intro belongs
    obtain ⟨key, last, wanted⟩ := belongs (sampleFailed ++ [.request 1]) "HTTP 503" rfl
    cases last
    cases wanted
  · intro quiet
    have unsent := quiet sampleFailed 1 "one" ⟨"one", rfl⟩ rfl
    cases unsent

end Query

end LoadChart
