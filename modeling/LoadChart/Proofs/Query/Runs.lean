import LoadChart.Proofs.Query.Operations
import Mathlib.Data.List.Induction

/-!
# Runs of a query

A run is any list of operations on a query, with answers that come unasked, twice or in any order.
It is told by the answers that counted in it and by the keys that were asked for in it.
-/

namespace LoadChart

namespace Query

variable {κ α : Type}

/-- One operation on a query. -/
inductive Operation (κ α : Type) where
  | request (key : κ)
  | invalidate
  | edit (change : α → α)
  | resolve (key : κ) (answer : Except String α)

/-- All of a query but the mark of what is in flight. -/
structure Contents (κ α : Type) where
  wanted : Option κ
  data : Option (κ × α)
  error : Option String
  revision : Nat

def contents (query : Query κ α) : Contents κ α :=
  ⟨query.wanted, query.data, query.error, query.revision⟩

theorem contents_wanted {query other : Query κ α} (same : query.contents = other.contents) :
    query.wanted = other.wanted :=
  congrArg Contents.wanted same

theorem contents_edit (query : Query κ α) (change : α → α) :
    (query.edit change).contents =
      { query.contents with
        data := query.contents.data.map fun (key, value) => (key, change value)
        revision := query.contents.revision + 1 } := rfl

namespace Operation

def requested? : Operation κ α → Option κ
  | .request key => some key
  | _ => none

def answer? : Operation κ α → Option (κ × Except String α)
  | .resolve key answer => some (key, answer)
  | _ => none

def edited (value : α) : Operation κ α → α
  | .edit change => change value
  | _ => value

end Operation

def requested (run : List (Operation κ α)) : List κ := run.filterMap Operation.requested?

def edited (value : α) (run : List (Operation κ α)) : α := run.foldl Operation.edited value

theorem edited_concat (value : α) (run : List (Operation κ α)) (operation : Operation κ α) :
    edited value (run ++ [operation]) = operation.edited (edited value run) :=
  List.foldl_append

variable [DecidableEq κ]

def perform (query : Query κ α) : Operation κ α → Query κ α
  | .request key => (query.request key).1
  | .invalidate => query.invalidate.1
  | .edit change => query.edit change
  | .resolve key answer => (query.resolve key answer).1

def after (query : Query κ α) (run : List (Operation κ α)) : Query κ α := run.foldl perform query

/-- The answer that arrives, if it counts. -/
def applied? (query : Query κ α) : Operation κ α → Option (κ × Except String α)
  | .resolve key answer =>
      if (query.resolve key answer).2 = .applied then some (key, answer) else none
  | _ => none

def applied (query : Query κ α) : List (Operation κ α) → List (κ × Except String α)
  | [] => []
  | operation :: rest =>
      (query.applied? operation).toList ++ (query.perform operation).applied rest

theorem applied?_resolve_of_wanted {query : Query κ α} {key : κ} (wanted : query.wanted = some key)
    (answer : Except String α) : query.applied? (.resolve key answer) = some (key, answer) :=
  if_pos ((resolve_applied_iff query key answer).2 wanted)

theorem applied?_resolve_of_unwanted {query : Query κ α} {key : κ}
    (unwanted : query.wanted ≠ some key) (answer : Except String α) :
    query.applied? (.resolve key answer) = none := by
  refine if_neg ?_
  rw [resolve_applied_iff]
  exact unwanted

/-- The wanted key after an operation is the one that it asks for, if any. -/
theorem perform_wanted (query : Query κ α) (operation : Operation κ α) :
    (query.perform operation).wanted = operation.requested?.or query.wanted := by
  cases operation with
  | request key => exact request_wanted query key
  | invalidate => rfl
  | edit change => rfl
  | resolve key answer => exact resolve_wanted query key answer

/-- An answer that does not count changes nothing but the mark of what is in flight. -/
theorem contents_resolve_of_unwanted {query : Query κ α} {key : κ}
    (unwanted : query.wanted ≠ some key) (answer : Except String α) :
    (query.resolve key answer).1.contents = query.contents := by
  unfold resolve contents
  by_cases flying : query.inFlight = some key <;> simp [flying, unwanted]

theorem contents_resolve_of_wanted {query : Query κ α} {key : κ} (wanted : query.wanted = some key)
    (answer : Except String α) :
    (query.resolve key answer).1.contents =
      match answer with
      | .ok value => ⟨some key, some (key, value), none, query.revision + 1⟩
      | .error message => ⟨some key, query.data, some message, query.revision + 1⟩ := by
  unfold resolve contents
  by_cases flying : query.inFlight = some key <;> cases answer <;> simp [flying, wanted]

section Append

variable (query : Query κ α) (run more : List (Operation κ α)) (operation : Operation κ α)

@[simp] theorem after_nil : query.after [] = query := rfl

@[simp] theorem after_cons :
    query.after (operation :: run) = (query.perform operation).after run := rfl

theorem after_append : query.after (run ++ more) = (query.after run).after more :=
  List.foldl_append

theorem after_concat : query.after (run ++ [operation]) = (query.after run).perform operation :=
  after_append query run [operation]

theorem applied_append :
    query.applied (run ++ more) = query.applied run ++ (query.after run).applied more := by
  induction run generalizing query with
  | nil => rfl
  | cons first rest induction =>
      rw [List.cons_append, applied, applied, induction, List.append_assoc, after_cons]

theorem applied_concat :
    query.applied (run ++ [operation]) =
      query.applied run ++ ((query.after run).applied? operation).toList := by
  rw [applied_append, applied, applied, List.append_nil]

theorem after_wanted :
    (query.after run).wanted = (requested run).getLast?.or query.wanted := by
  induction run using List.reverseRecOn with
  | nil => rfl
  | append_singleton run operation induction =>
      rw [after_concat, perform_wanted, induction, requested, requested, List.filterMap_append,
        List.getLast?_append]
      cases own : operation.requested? with
      | none =>
          simp only [List.filterMap_cons, own, List.filterMap_nil, List.getLast?_nil,
            Option.none_or]
      | some key =>
          simp only [List.filterMap_cons, own, List.filterMap_nil, List.getLast?_singleton,
            Option.some_or]

end Append

end Query

end LoadChart
