import LoadChart.Proofs.Query.Operations

/-!
# The keys of a query

A query mentions a key as the wanted one, as the one in flight, or as the one of its data.  Whatever
is true of every key that a query was asked for is true of every key that it mentions, since an
answer brings no key of its own.
-/

namespace LoadChart

namespace Query

variable {κ α : Type}

/-- Every key that the query mentions is admitted. -/
structure KeyedBy (query : Query κ α) (admits : κ → Prop) : Prop where
  wanted : ∀ key, query.wanted = some key → admits key
  inFlight : ∀ key, query.inFlight = some key → admits key
  data : ∀ key, query.DataFor key → admits key

namespace KeyedBy

variable {query : Query κ α} {admits : κ → Prop}

theorem initial : KeyedBy (.initial : Query κ α) admits := by
  constructor
  · intro key wanted
    cases wanted
  · intro key flying
    cases flying
  · rintro key ⟨value, data⟩
    cases data

theorem mono {more : κ → Prop} (keyed : query.KeyedBy admits)
    (weaker : ∀ key, admits key → more key) : query.KeyedBy more where
  wanted key wanted := weaker key (keyed.wanted key wanted)
  inFlight key flying := weaker key (keyed.inFlight key flying)
  data key dataFor := weaker key (keyed.data key dataFor)

theorem edit (keyed : query.KeyedBy admits) (change : α → α) :
    (query.edit change).KeyedBy admits where
  wanted := keyed.wanted
  inFlight := keyed.inFlight
  data key dataFor := keyed.data key ((edit_dataFor query change key).1 dataFor)

theorem invalidate (keyed : query.KeyedBy admits) : query.invalidate.1.KeyedBy admits where
  wanted := keyed.wanted
  inFlight := keyed.wanted
  data := keyed.data

variable [DecidableEq κ]

/-- A request need only be looked at if it is sent: else its key is mentioned already. -/
theorem request (keyed : query.KeyedBy admits) {key : κ}
    (sent : (query.request key).2 = true → admits key) :
    (query.request key).1.KeyedBy admits := by
  have admitted : admits key := by
    rcases request_cases query key with ⟨isSent, _⟩ | ⟨_, _, flying | ⟨dataFor, _⟩⟩
    · exact sent isSent
    · exact keyed.inFlight key flying
    · exact keyed.data key dataFor
  constructor
  · intro other wanted
    rw [request_wanted] at wanted
    exact Option.some.inj wanted ▸ admitted
  · intro other flying
    rcases request_cases query key with ⟨_, own⟩ | ⟨_, own, _⟩
    · rw [own] at flying
      exact Option.some.inj flying ▸ admitted
    · rw [own] at flying
      exact keyed.inFlight other flying
  · rintro other ⟨value, data⟩
    rw [request_data] at data
    exact keyed.data other ⟨value, data⟩

theorem resolve (keyed : query.KeyedBy admits) (key : κ) (answer : Except String α) :
    (query.resolve key answer).1.KeyedBy admits := by
  constructor
  · intro other wanted
    rw [resolve_wanted] at wanted
    exact keyed.wanted other wanted
  · intro other flying
    rw [resolve_inFlight] at flying
    split at flying
    · cases flying
    · exact keyed.inFlight other flying
  · rintro other ⟨value, data⟩
    rcases resolve_data_eq_some data with before | ⟨wanted, rfl, _⟩
    · exact keyed.data other ⟨value, before⟩
    · exact keyed.wanted other wanted

end KeyedBy

end Query

end LoadChart
