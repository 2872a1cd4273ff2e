import LoadChart.Proofs.Query.Runs

/-!
# Superseded answers

An answer that does not count changes the mark of what is in flight, and so which requests are sent
later, but nothing else.  A run and the same run without those answers therefore leave a query with
the same contents, by the same answers that count.
-/

namespace LoadChart

namespace Query

variable {κ α : Type} [DecidableEq κ]

def drops (query : Query κ α) : Operation κ α → Bool
  | .resolve key answer => (query.resolve key answer).2 = .superseded
  | _ => false

def effective (query : Query κ α) : List (Operation κ α) → List (Operation κ α)
  | [] => []
  | operation :: rest =>
      if query.drops operation then (query.perform operation).effective rest
      else operation :: (query.perform operation).effective rest

/-- The answer of a run that counted and succeeded last, with its value as edited since. -/
def LastSuccess (query : Query κ α) (run : List (Operation κ α)) (key : κ) (value : α) : Prop :=
  ∃ before own behind,
    run = before ++ .resolve key (.ok own) :: behind ∧
      (query.after before).wanted = some key ∧
      (∀ entry ∈ (query.after (before ++ [.resolve key (.ok own)])).applied behind,
        ∃ message, entry.2 = .error message) ∧
      value = edited own behind

variable {query other : Query κ α} {operation : Operation κ α} {run : List (Operation κ α)}

theorem contents_request (query : Query κ α) (key : κ) :
    (query.request key).1.contents = { query.contents with wanted := some key } := by
  unfold request contents
  dsimp only
  split
  · rfl
  · split <;> rfl

/-- What an operation makes of the contents does not depend on what is in flight. -/
theorem contents_perform_congr (same : query.contents = other.contents)
    (operation : Operation κ α) :
    (query.perform operation).contents = (other.perform operation).contents := by
  cases operation with
  | request key => rw [perform, perform, contents_request, contents_request, same]
  | invalidate => exact same
  | edit change => rw [perform, perform, contents_edit, contents_edit, same]
  | resolve key answer =>
      rw [perform, perform]
      by_cases wanted : query.wanted = some key
      · rw [contents_resolve_of_wanted wanted,
          contents_resolve_of_wanted ((contents_wanted same).symm.trans wanted)]
        have data : query.data = other.data := congrArg Contents.data same
        have revision : query.revision = other.revision := congrArg Contents.revision same
        rw [data, revision]
      · rw [contents_resolve_of_unwanted wanted,
          contents_resolve_of_unwanted ((contents_wanted same).symm.trans_ne wanted), same]

/-- Which answers count does not depend on what is in flight. -/
theorem applied?_congr (same : query.contents = other.contents) (operation : Operation κ α) :
    query.applied? operation = other.applied? operation := by
  cases operation with
  | request key => rfl
  | invalidate => rfl
  | edit change => rfl
  | resolve key answer =>
      by_cases wanted : query.wanted = some key
      · rw [applied?_resolve_of_wanted wanted,
          applied?_resolve_of_wanted ((contents_wanted same).symm.trans wanted)]
      · rw [applied?_resolve_of_unwanted wanted,
          applied?_resolve_of_unwanted ((contents_wanted same).symm.trans_ne wanted)]

theorem unwanted_of_drops {key : κ} {answer : Except String α}
    (drops : query.drops (.resolve key answer) = true) : query.wanted ≠ some key := by
  intro wanted
  rw [Query.drops, (resolve_applied_iff query key answer).2 wanted] at drops
  cases drops

theorem contents_perform_of_drops (drops : query.drops operation = true) :
    (query.perform operation).contents = query.contents ∧ query.applied? operation = none := by
  cases operation with
  | request key => cases drops
  | invalidate => cases drops
  | edit change => cases drops
  | resolve key answer =>
      have unwanted := unwanted_of_drops drops
      exact ⟨contents_resolve_of_unwanted unwanted answer,
        applied?_resolve_of_unwanted unwanted answer⟩

theorem applied?_of_not_drops (keeps : query.drops operation = false) :
    query.applied? operation = operation.answer? := by
  cases operation with
  | request key => rfl
  | invalidate => rfl
  | edit change => rfl
  | resolve key answer =>
      refine if_pos ?_
      cases resolution : (query.resolve key answer).2 with
      | applied => rfl
      | superseded => simp [drops, resolution] at keeps

/-- A run without its superseded answers, from a query with the same contents, leaves the same
contents by the same answers that count. -/
theorem after_effective_congr (same : query.contents = other.contents)
    (run : List (Operation κ α)) :
    (other.after (query.effective run)).contents = (query.after run).contents ∧
      other.applied (query.effective run) = query.applied run := by
  -- the two queries may differ in what is in flight once an answer was left out
  induction run generalizing query other with
  | nil => exact ⟨same.symm, rfl⟩
  | cons operation rest induction =>
      rw [effective, applied, after_cons]
      split
      next drops =>
        obtain ⟨unchanged, uncounted⟩ := contents_perform_of_drops drops
        rw [uncounted]
        exact induction (unchanged.trans same)
      next =>
        obtain ⟨contents, counted⟩ := induction (contents_perform_congr same operation)
        rw [after_cons, applied, applied?_congr same, counted]
        exact ⟨contents, rfl⟩

theorem answers_effective (query : Query κ α) (run : List (Operation κ α)) :
    (query.effective run).filterMap Operation.answer? = query.applied run := by
  induction run generalizing query with
  | nil => rfl
  | cons operation rest induction =>
      rw [effective, applied]
      split
      next drops =>
        rw [(contents_perform_of_drops drops).2, induction]
        rfl
      next keeps =>
        rw [applied?_of_not_drops (by simpa using keeps), List.filterMap_cons, induction]
        cases operation.answer? <;> rfl

/-- Data stay, as they are edited, while no answer counts and succeeds. -/
theorem after_data {key : κ} {value : α} (held : query.data = some (key, value))
    (failures : ∀ entry ∈ query.applied run, ∃ message, entry.2 = .error message) :
    (query.after run).data = some (key, edited value run) := by
  induction run generalizing query value with
  | nil => exact held
  | cons operation rest induction =>
      rw [applied] at failures
      have step : (query.perform operation).data = some (key, operation.edited value) := by
        cases operation with
        | request own => exact (request_data query own).trans held
        | invalidate => exact held
        | edit change => rw [perform, edit, held]; rfl
        | resolve own answer =>
            refine Eq.trans ?_ held
            refine resolve_data_of_ineffective ?_
            by_cases wanted : query.wanted = some own
            · rw [applied?_resolve_of_wanted wanted] at failures
              exact Or.inr (failures _ (List.mem_append_left _ (List.mem_singleton_self _)))
            · exact Or.inl wanted
      exact induction step fun entry member => failures entry (List.mem_append_right _ member)

theorem LastSuccess.concat {key : κ} {value : α} (last : query.LastSuccess run key value)
    (failures : ∀ entry ∈ (query.after run).applied? operation, ∃ message, entry.2 = .error message) :
    query.LastSuccess (run ++ [operation]) key (operation.edited value) := by
  obtain ⟨before, own, behind, rfl, wanted, others, rfl⟩ := last
  refine ⟨before, own, behind ++ [operation], by simp, wanted, ?_, (edited_concat ..).symm⟩
  intro entry member
  rw [applied_concat, ← after_append, List.append_assoc, List.mem_append] at member
  rcases member with earlier | now
  · exact others entry earlier
  · exact failures entry (Option.mem_toList.1 now)

theorem initial_data_iff (run : List (Operation κ α)) (key : κ) (value : α) :
    (initial.after run).data = some (key, value) ↔ initial.LastSuccess run key value := by
  constructor
  · intro held
    -- by the last operation: it keeps the last success, or it is an answer that becomes it
    induction run using List.reverseRecOn generalizing value with
    | nil => cases held
    | append_singleton run operation induction =>
        rw [after_concat] at held
        cases operation with
        | request own =>
            exact (induction _ ((request_data _ own).symm.trans held)).concat (by simp [applied?])
        | invalidate => exact (induction _ held).concat (by simp [applied?])
        | edit change =>
            obtain ⟨⟨own, old⟩, isOld, same⟩ := Option.map_eq_some_iff.1 held
            cases same
            exact (induction _ isOld).concat (by simp [applied?])
        | resolve own answer =>
            by_cases wanted : (initial.after run : Query κ α).wanted = some own
            · cases answer with
              | ok new =>
                  rw [perform, resolve_data_of_ok wanted] at held
                  cases held
                  exact ⟨run, value, [], rfl, wanted, by simp [applied], rfl⟩
              | error message =>
                  rw [perform, resolve_data_of_ineffective (Or.inr ⟨message, rfl⟩)] at held
                  refine (induction _ held).concat ?_
                  rw [applied?_resolve_of_wanted wanted]
                  rintro _ ⟨⟩
                  exact ⟨message, rfl⟩
            · rw [perform, resolve_data_of_ineffective (Or.inl wanted)] at held
              refine (induction _ held).concat ?_
              rw [applied?_resolve_of_unwanted wanted]
              simp
  · rintro ⟨before, own, behind, rfl, wanted, failures, rfl⟩
    rw [after_concat] at failures
    rw [after_append, after_cons]
    exact after_data (resolve_data_of_ok wanted own) failures

/-- In every run an answer counts exactly if its key is wanted when it comes.  Without the answers
that do not count, the run leaves the same contents by the same answers that count, which are all
that it has left.  The data are the value of the answer that counted and succeeded last, as edited
since. -/
theorem superseded_answers_leave_no_trace (run : List (Operation κ α)) :
    (∀ key answer, ((initial.after run).resolve key answer).2 = .applied ↔
      (initial.after run).wanted = some key) ∧
    (initial.after (initial.effective run)).contents = (initial.after run).contents ∧
    initial.applied (initial.effective run) = initial.applied run ∧
    (initial.effective run).filterMap Operation.answer? = initial.applied run ∧
    ∀ key value, (initial.after run).data = some (key, value) ↔
      initial.LastSuccess run key value := by
  have same : (initial : Query κ α).contents = initial.contents := rfl
  obtain ⟨contents, counted⟩ := after_effective_congr same run
  exact ⟨resolve_applied_iff _, contents, counted, answers_effective initial run,
    initial_data_iff run⟩

/-- What is sent may differ: the superseded answer of the sample leaves nothing in flight, and so
its key is asked for again when it is wanted again. -/
example :
    let run : List (Operation Nat String) :=
      [.request 2, .resolve 2 (.ok "two"), .request 1, .request 2, .resolve 1 (.ok "one")]
    (initial.effective run).length = 4 ∧ ((initial.after run).request 1).2 = true ∧
      ((initial.after (initial.effective run)).request 1).2 = false := by
  decide

end Query

end LoadChart
