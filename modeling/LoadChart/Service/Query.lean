/-!
# Queries

A query remembers the key that is wanted, the key that was asked for last and the data received
last.  An answer counts only if its key is the wanted one.
-/

namespace LoadChart

/-- The bookkeeping of one query. -/
structure Query (κ α : Type) where
  wanted : Option κ
  inFlight : Option κ
  data : Option (κ × α)
  error : Option String
  revision : Nat

/-- What became of an answer. -/
inductive Resolution where
  | applied
  | superseded
deriving DecidableEq

namespace Query

variable {κ α : Type}

def initial : Query κ α := ⟨none, none, none, none, 0⟩

/-- The data received last, possibly for another key. -/
def value? (query : Query κ α) : Option α := query.data.map Prod.snd

def isFetching (query : Query κ α) : Bool := query.inFlight.isSome

def isInitialLoad (query : Query κ α) : Bool := query.data.isNone && query.inFlight.isSome

def edit (query : Query κ α) (change : α → α) : Query κ α :=
  { query with
    revision := query.revision + 1
    data := query.data.map fun (key, value) => (key, change value) }

/-- Asks for the wanted key again, and tells which it is. -/
def invalidate (query : Query κ α) : Query κ α × Option κ :=
  ({ query with inFlight := query.wanted }, query.wanted)

variable [DecidableEq κ]

def isStale (query : Query κ α) : Bool :=
  match query.data, query.wanted with
  | some (key, _), some wanted => key ≠ wanted
  | _, _ => false

def holds (query : Query κ α) (key : κ) : Bool := (query.data.map Prod.fst) = some key

/-- Declares the wanted key, and tells whether a request must be sent.  None is, if one for this
key is under way or its data are there without an error. -/
def request (query : Query κ α) (key : κ) : Query κ α × Bool :=
  let query := { query with wanted := some key }
  if query.inFlight = some key then (query, false)
  else if query.holds key && query.error.isNone then (query, false)
  else ({ query with inFlight := some key }, true)

def resolve (query : Query κ α) (key : κ) (answer : Except String α) :
    Query κ α × Resolution :=
  let query := if query.inFlight = some key then { query with inFlight := none } else query
  if query.wanted = some key then
    match answer with
    | .ok value =>
        ({ query with data := some (key, value), error := none, revision := query.revision + 1 },
          .applied)
    | .error message =>
        ({ query with error := some message, revision := query.revision + 1 }, .applied)
  else (query, .superseded)

end Query

end LoadChart
