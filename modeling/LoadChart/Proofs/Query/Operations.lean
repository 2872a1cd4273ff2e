import LoadChart.Service.Query

/-!
# What the operations of a query do to its parts

One lemma for each part that an operation reads or writes, so that the histories of a query can be
followed without opening the operations again.
-/

namespace LoadChart

namespace Query

variable {κ α : Type}

/-- The data of the query belong to a key. -/
def DataFor (query : Query κ α) (key : κ) : Prop := ∃ value, query.data = some (key, value)

@[simp] theorem edit_wanted (query : Query κ α) (change : α → α) :
    (query.edit change).wanted = query.wanted := rfl

@[simp] theorem edit_inFlight (query : Query κ α) (change : α → α) :
    (query.edit change).inFlight = query.inFlight := rfl

@[simp] theorem edit_error (query : Query κ α) (change : α → α) :
    (query.edit change).error = query.error := rfl

@[simp] theorem edit_value? (query : Query κ α) (change : α → α) :
    (query.edit change).value? = query.value?.map change := by
  cases data : query.data with
  | none => simp [edit, value?, data]
  | some entry => simp [edit, value?, data]

theorem edit_dataFor (query : Query κ α) (change : α → α) (key : κ) :
    (query.edit change).DataFor key ↔ query.DataFor key := by
  cases data : query.data with
  | none => simp [DataFor, edit, data]
  | some entry =>
      obtain ⟨own, value⟩ := entry
      simp [DataFor, edit, data]

@[simp] theorem invalidate_wanted (query : Query κ α) :
    query.invalidate.1.wanted = query.wanted := rfl

@[simp] theorem invalidate_inFlight (query : Query κ α) :
    query.invalidate.1.inFlight = query.wanted := rfl

@[simp] theorem invalidate_data (query : Query κ α) :
    query.invalidate.1.data = query.data := rfl

@[simp] theorem invalidate_value? (query : Query κ α) :
    query.invalidate.1.value? = query.value? := rfl

@[simp] theorem invalidate_error (query : Query κ α) :
    query.invalidate.1.error = query.error := rfl

@[simp] theorem invalidate_sent (query : Query κ α) : query.invalidate.2 = query.wanted := rfl

variable [DecidableEq κ]

theorem holds_iff (query : Query κ α) (key : κ) : query.holds key = true ↔ query.DataFor key := by
  cases data : query.data with
  | none => simp [holds, DataFor, data]
  | some entry =>
      obtain ⟨own, value⟩ := entry
      simp [holds, DataFor, data]

@[simp] theorem request_wanted (query : Query κ α) (key : κ) :
    (query.request key).1.wanted = some key := by
  unfold request
  dsimp only
  split
  · rfl
  · split <;> rfl

@[simp] theorem request_data (query : Query κ α) (key : κ) :
    (query.request key).1.data = query.data := by
  unfold request
  dsimp only
  split
  · rfl
  · split <;> rfl

@[simp] theorem request_value? (query : Query κ α) (key : κ) :
    (query.request key).1.value? = query.value? := by
  simp [value?]

@[simp] theorem request_error (query : Query κ α) (key : κ) :
    (query.request key).1.error = query.error := by
  unfold request
  dsimp only
  split
  · rfl
  · split <;> rfl

/-- A request is sent exactly if it is then in flight and was not before. -/
theorem request_cases (query : Query κ α) (key : κ) :
    ((query.request key).2 = true ∧ (query.request key).1.inFlight = some key) ∨
      ((query.request key).2 = false ∧ (query.request key).1.inFlight = query.inFlight ∧
        (query.inFlight = some key ∨ (query.DataFor key ∧ query.error = none))) := by
  unfold request
  dsimp only
  split
  next flying => exact Or.inr ⟨rfl, rfl, Or.inl flying⟩
  next =>
    split
    next served =>
      simp only [Bool.and_eq_true, Option.isNone_iff_eq_none] at served
      have dataFor : query.DataFor key := (holds_iff query key).1 served.1
      exact Or.inr ⟨rfl, rfl, Or.inr ⟨dataFor, served.2⟩⟩
    next => exact Or.inl ⟨rfl, rfl⟩

@[simp] theorem resolve_wanted (query : Query κ α) (key : κ) (answer : Except String α) :
    (query.resolve key answer).1.wanted = query.wanted := by
  unfold resolve
  by_cases flying : query.inFlight = some key <;> by_cases wanted : query.wanted = some key <;>
    cases answer <;> simp [flying, wanted]

@[simp] theorem resolve_inFlight (query : Query κ α) (key : κ) (answer : Except String α) :
    (query.resolve key answer).1.inFlight =
      if query.inFlight = some key then none else query.inFlight := by
  unfold resolve
  by_cases flying : query.inFlight = some key <;> by_cases wanted : query.wanted = some key <;>
    cases answer <;> simp [flying, wanted]

/-- An answer counts exactly if its key is the wanted one. -/
theorem resolve_applied_iff (query : Query κ α) (key : κ) (answer : Except String α) :
    (query.resolve key answer).2 = .applied ↔ query.wanted = some key := by
  unfold resolve
  by_cases flying : query.inFlight = some key <;> by_cases wanted : query.wanted = some key <;>
    cases answer <;> simp [flying, wanted]

theorem resolve_data_of_unwanted {query : Query κ α} {key : κ}
    (unwanted : query.wanted ≠ some key) (answer : Except String α) :
    (query.resolve key answer).1.data = query.data := by
  unfold resolve
  by_cases flying : query.inFlight = some key <;> simp [flying, unwanted]

theorem resolve_value?_of_superseded {query : Query κ α} {key : κ} {answer : Except String α}
    (superseded : (query.resolve key answer).2 = .superseded) :
    (query.resolve key answer).1.value? = query.value? := by
  have unwanted : query.wanted ≠ some key := by
    intro wanted
    rw [(resolve_applied_iff query key answer).2 wanted] at superseded
    cases superseded
  rw [value?, resolve_data_of_unwanted unwanted, value?]

theorem resolve_error_of_unwanted {query : Query κ α} {key : κ}
    (unwanted : query.wanted ≠ some key) (answer : Except String α) :
    (query.resolve key answer).1.error = query.error := by
  unfold resolve
  by_cases flying : query.inFlight = some key <;> simp [flying, unwanted]

theorem resolve_data_of_ok {query : Query κ α} {key : κ} (wanted : query.wanted = some key)
    (value : α) : (query.resolve key (.ok value)).1.data = some (key, value) := by
  unfold resolve
  by_cases flying : query.inFlight = some key <;> simp [flying, wanted]

theorem resolve_error_of_error {query : Query κ α} {key : κ} (wanted : query.wanted = some key)
    (message : String) : (query.resolve key (.error message)).1.error = some message := by
  unfold resolve
  by_cases flying : query.inFlight = some key <;> simp [flying, wanted]

/-- The data after an answer are those of the answer, if it counts, or those from before. -/
theorem resolve_value?_eq_some {query : Query κ α} {key : κ} {answer : Except String α} {value : α}
    (found : (query.resolve key answer).1.value? = some value) :
    query.value? = some value ∨ (query.wanted = some key ∧ answer = .ok value) := by
  by_cases wanted : query.wanted = some key
  · cases answer with
    | ok own =>
        rw [value?, resolve_data_of_ok wanted] at found
        exact Or.inr ⟨wanted, congrArg Except.ok (Option.some.inj found)⟩
    | error message =>
        left
        unfold resolve at found
        by_cases flying : query.inFlight = some key <;>
          simpa [flying, wanted, value?] using found
  · rw [value?, resolve_data_of_unwanted wanted] at found
    exact Or.inl found

/-- The data after an answer come from the answer, if it counts and succeeded, or are those from
before. -/
theorem resolve_data (query : Query κ α) (key : κ) (answer : Except String α) :
    (query.resolve key answer).1.data =
      if query.wanted = some key then answer.toOption.elim query.data fun value => some (key, value)
      else query.data := by
  unfold resolve
  by_cases flying : query.inFlight = some key <;> by_cases wanted : query.wanted = some key <;>
    cases answer <;> simp [flying, wanted, Except.toOption]

/-- An answer changes the data only if it succeeds and its key is wanted. -/
theorem resolve_data_of_ineffective {query : Query κ α} {key : κ} {outcome : Except String α}
    (ineffective : query.wanted ≠ some key ∨ ∃ message, outcome = .error message) :
    (query.resolve key outcome).1.data = query.data := by
  rw [resolve_data]
  rcases ineffective with unwanted | ⟨message, rfl⟩
  · exact if_neg unwanted
  · exact ite_self _

theorem resolve_value?_of_error (query : Query κ α) (key : κ) (message : String) :
    (query.resolve key (.error message)).1.value? = query.value? := by
  rw [value?, resolve_data]
  exact congrArg (Option.map Prod.snd) (ite_self query.data)

theorem resolve_data_eq_some {query : Query κ α} {key own : κ} {answer : Except String α}
    {value : α} (found : (query.resolve key answer).1.data = some (own, value)) :
    query.data = some (own, value) ∨
      (query.wanted = some key ∧ own = key ∧ answer = .ok value) := by
  rw [resolve_data] at found
  split at found
  next wanted =>
    cases answer with
    | ok value =>
        cases found
        exact Or.inr ⟨wanted, rfl, rfl⟩
    | error message => exact Or.inl found
  next => exact Or.inl found

end Query

end LoadChart
