import LoadChart.Proofs.Application.Stretch

/-!
# What is left of the lists

Through a stretch every list keeps the records whose deletion was not confirmed and is not under
way, and those of which no deletion has begun keep their order.
-/

namespace LoadChart

namespace Application

/-- The record has not been deleted, and no deletion of it is under way. -/
def stays (notes : List DeletionNote) (deletions : OrderedMap Identifier PendingDeletion)
    (record : AssignmentRecord) : Bool :=
  decide (.confirmed record.identifier ∉ notes) && (deletions.find? record.identifier).isNone

def untouched (notes : List DeletionNote) (record : AssignmentRecord) : Bool :=
  decide (.begun record.identifier ∉ notes)

/-- A list is a rearrangement of the records that stay, with the untouched ones in their order. -/
structure Remains (notes : List DeletionNote) (deletions : OrderedMap Identifier PendingDeletion)
    (before left : List AssignmentRecord) : Prop where
  permutation : left.Perm (before.filter (stays notes deletions))
  order : left.filter (untouched notes) = before.filter (untouched notes)

namespace Remains

variable {notes : List DeletionNote} {deletions : OrderedMap Identifier PendingDeletion}
  {before left : List AssignmentRecord} {assignment : Identifier} {pending : PendingDeletion}

theorem mem_iff (remains : Remains notes deletions before left) (record : AssignmentRecord) :
    record ∈ left ↔ record ∈ before ∧ .confirmed record.identifier ∉ notes ∧
      deletions.find? record.identifier = none := by
  rw [remains.permutation.mem_iff]
  simp [stays]

theorem unchanged (nonePending : ∀ assignment, deletions.find? assignment = none)
    (before : List AssignmentRecord) : Remains [] deletions before before := by
  have all : before.filter (stays [] deletions) = before := by
    apply List.filter_eq_self.2
    intro record _
    simp [stays, nonePending]
  exact ⟨by rw [all], rfl⟩

theorem congr (remains : Remains notes deletions before left) {more : List DeletionNote}
    {others : OrderedMap Identifier PendingDeletion}
    (sameStays : ∀ record ∈ before, stays more others record = stays notes deletions record)
    (sameUntouched : ∀ record ∈ before, untouched more record = untouched notes record) :
    Remains more others before left := by
  constructor
  · rw [List.filter_congr sameStays]
    exact remains.permutation
  · have inLeft : ∀ record ∈ left, untouched more record = untouched notes record :=
      fun record member => sameUntouched record ((remains.mem_iff record).1 member).1
    rw [List.filter_congr sameUntouched, List.filter_congr inLeft]
    exact remains.order

theorem begins (remains : Remains notes deletions before left) (distinct : DistinctRecords left)
    (found : left[pending.index]? = some pending.record)
    (own : pending.record.identifier = assignment) :
    Remains (notes ++ [.begun assignment]) (deletions.insert assignment pending) before
      (takeOut pending left) := by
  subst own
  constructor
  · have fewer : stays (notes ++ [.begun pending.record.identifier])
        (deletions.insert pending.record.identifier pending) =
          fun record => decide (record.identifier ≠ pending.record.identifier) &&
            stays notes deletions record := by
      funext record
      by_cases same : record.identifier = pending.record.identifier
      · simp [stays, same]
      · simp [stays, same, OrderedMap.find?_insert_of_ne]
    rw [takeOut_eq_filter found distinct, fewer, ← List.filter_filter]
    exact remains.permutation.filter _
  · have fewer : untouched (notes ++ [.begun pending.record.identifier]) =
        fun record => decide (record.identifier ≠ pending.record.identifier) &&
          untouched notes record := by
      funext record
      by_cases same : record.identifier = pending.record.identifier <;> simp [untouched, same]
    rw [filter_takeOut found (by simp [untouched]), fewer, ← List.filter_filter,
      ← List.filter_filter, remains.order]

theorem begins_elsewhere (remains : Remains notes deletions before left)
    (absent : ∀ record ∈ before, record.identifier ≠ assignment) :
    Remains (notes ++ [.begun assignment]) (deletions.insert assignment pending) before left := by
  apply remains.congr
  · intro record member
    simp [stays, OrderedMap.find?_insert_of_ne _ (absent record member)]
  · intro record member
    simp [untouched, absent record member]

theorem confirms (remains : Remains notes deletions before left)
    (isPending : deletions.find? assignment = some pending) :
    Remains (notes ++ [.confirmed assignment]) (deletions.erase assignment) before left := by
  apply remains.congr
  · intro record _
    by_cases same : record.identifier = assignment
    · simp [stays, same, isPending]
    · simp [stays, same, OrderedMap.find?_erase_of_ne _ same]
  · intro record _
    simp [untouched]

theorem refuses (remains : Remains notes deletions before left) (distinct : DistinctRecords before)
    (distinctLeft : DistinctRecords left) (member : pending.record ∈ before)
    (own : pending.record.identifier = assignment)
    (isPending : deletions.find? assignment = some pending)
    (begun : .begun assignment ∈ notes) (unconfirmed : .confirmed assignment ∉ notes) :
    Remains (notes ++ [.refused assignment]) (deletions.erase assignment) before
      (putBack pending left) := by
  subst own
  have lacks : ∀ record ∈ left, record.identifier ≠ pending.record.identifier := by
    intro record inLeft same
    have notPending := ((remains.mem_iff record).1 inLeft).2.2
    rw [same, isPending] at notPending
    cases notPending
  constructor
  · have nodup : (putBack pending left).Nodup := (nodup_putBack distinctLeft).of_map
    apply (List.perm_ext_iff_of_nodup nodup (distinct.of_map.filter _)).2
    intro record
    rw [(putBack_perm lacks).mem_iff, List.mem_cons, remains.mem_iff, List.mem_filter]
    by_cases same : record.identifier = pending.record.identifier
    · constructor
      · rintro (rfl | ⟨_, _, notPending⟩)
        · exact ⟨member, by simp [stays, unconfirmed]⟩
        · rw [same, isPending] at notPending
          cases notPending
      · rintro ⟨inBefore, _⟩
        exact Or.inl (List.inj_on_of_nodup_map distinct inBefore member same)
    · have other : record ≠ pending.record := fun equal => same (congrArg _ equal)
      simp [stays, other, OrderedMap.find?_erase_of_ne _ same]
  · have touched : ¬ untouched (notes ++ [.refused pending.record.identifier]) pending.record := by
      simp [untouched, begun]
    have same : untouched (notes ++ [.refused pending.record.identifier]) = untouched notes := by
      funext record
      simp [untouched]
    rw [filter_putBack touched, same, remains.order]

theorem refuses_elsewhere (remains : Remains notes deletions before left)
    (absent : ∀ record ∈ before, record.identifier ≠ assignment) :
    Remains (notes ++ [.refused assignment]) (deletions.erase assignment) before left := by
  apply remains.congr
  · intro record member
    simp [stays, OrderedMap.find?_erase_of_ne _ (absent record member)]
  · intro record _
    simp [untouched]

end Remains

/-- No assignment is in the lists of two resources. -/
def Unshared (app : Application) : Prop :=
  ∀ first second left right, app.recordsOf? first = some left → app.recordsOf? second = some right →
    ∀ record ∈ left, ∀ other ∈ right, record.identifier = other.identifier → first = second

/-- How the lists have come from those at the start, and that what is under way can be put back. -/
structure Tally (start : Application) (notes : List DeletionNote) (app : Application) : Prop where
  lists : ∀ resource before, start.recordsOf? resource = some before →
    ∃ left, app.recordsOf? resource = some left ∧ Remains notes app.pending before left
  missing : ∀ resource, start.recordsOf? resource = none → app.recordsOf? resource = none
  pending : ∀ assignment pending, app.pending.find? assignment = some pending →
    ∃ before, start.recordsOf? pending.resource = some before ∧ pending.record ∈ before ∧
      .begun assignment ∈ notes ∧ .confirmed assignment ∉ notes

namespace Tally

variable {start before after : Application} {notes : List DeletionNote} {assignment : Identifier}
  {pending : PendingDeletion}

theorem unchanged (nonePending : ∀ assignment, start.pending.find? assignment = none) :
    Tally start [] start where
  lists resource records found := ⟨records, found, .unchanged nonePending records⟩
  missing _ absent := absent
  pending assignment pending isPending := by
    rw [nonePending assignment] at isPending
    cases isPending

/-- The list at the start, and what is left of it, where there is a list now. -/
theorem of_found (tally : Tally start notes before) {resource : Identifier}
    {left : List AssignmentRecord} (found : before.recordsOf? resource = some left) :
    ∃ records, start.recordsOf? resource = some records ∧
      Remains notes before.pending records left := by
  cases own : start.recordsOf? resource with
  | none =>
      rw [tally.missing resource own] at found
      cases found
  | some records =>
      obtain ⟨list, isList, remains⟩ := tally.lists resource records own
      cases found.symm.trans isList
      exact ⟨records, rfl, remains⟩

theorem not_lists (tally : Tally start notes before)
    (isPending : before.pending.find? assignment ≠ none) : ¬ before.Lists assignment := by
  rintro ⟨resource, left, found, record, member, own⟩
  obtain ⟨_, _, remains⟩ := tally.of_found found
  have notPending := ((remains.mem_iff record).1 member).2.2
  exact isPending (own ▸ notPending)

theorem kept (tally : Tally start notes before) (kept : KeepsRecords before after) :
    Tally start notes after where
  lists resource records found := by
    rw [kept.records, kept.pending]
    exact tally.lists resource records found
  missing resource absent := (kept.records resource).trans (tally.missing resource absent)
  pending := kept.pending ▸ tally.pending

theorem absent_elsewhere (unshared : start.Unshared) {home resource : Identifier}
    {homeRecords records : List AssignmentRecord} {record : AssignmentRecord}
    (atHome : start.recordsOf? home = some homeRecords) (member : record ∈ homeRecords)
    (found : start.recordsOf? resource = some records) (elsewhere : resource ≠ home) :
    ∀ other ∈ records, other.identifier ≠ record.identifier := by
  intro other isOther same
  exact elsewhere (unshared resource home records homeRecords found atHome other isOther record
    member same)

theorem begins (tally : Tally start notes before) (orderly : Orderly before)
    (unshared : start.Unshared) (begun : Begins assignment pending before after) :
    Tally start (notes ++ [.begun assignment]) after := by
  obtain ⟨left, found, atIndex⟩ := begun.held
  obtain ⟨home, atHome, remains⟩ := tally.of_found found
  obtain ⟨inHome, unconfirmed, notPending⟩ :=
    (remains.mem_iff _).1 (List.mem_of_getElem? atIndex)
  constructor
  · intro resource records isList
    rw [begun.records, begun.pending]
    by_cases same : resource = pending.resource
    · subst same
      cases atHome.symm.trans isList
      rw [if_pos rfl, found]
      exact ⟨_, rfl, remains.begins (orderly.distinct _ left found) atIndex begun.own⟩
    · obtain ⟨own, ownFound, ownRemains⟩ := tally.lists resource records isList
      rw [if_neg same]
      refine ⟨own, ownFound, ownRemains.begins_elsewhere ?_⟩
      rw [← begun.own]
      exact absent_elsewhere unshared atHome inHome isList same
  · intro resource absent
    rw [begun.records, tally.missing resource absent]
    exact ite_self _
  · intro other own isPending
    rw [begun.pending] at isPending
    rcases OrderedMap.eq_or_find?_of_find?_insert isPending with ⟨rfl, rfl⟩ | earlier
    · rw [begun.own] at unconfirmed
      exact ⟨home, atHome, inHome, by simp, by simp [unconfirmed]⟩
    · obtain ⟨records, isList, member, begunBefore, notConfirmed⟩ := tally.pending other own earlier
      exact ⟨records, isList, member, by simp [begunBefore], by simp [notConfirmed]⟩

theorem confirms (tally : Tally start notes before)
    (confirmed : Confirms assignment pending before after) :
    Tally start (notes ++ [.confirmed assignment]) after := by
  constructor
  · intro resource records isList
    obtain ⟨left, found, remains⟩ := tally.lists resource records isList
    rw [confirmed.records, confirmed.pending]
    exact ⟨left, found, remains.confirms confirmed.isPending⟩
  · intro resource absent
    exact (confirmed.records resource).trans (tally.missing resource absent)
  · intro other own isPending
    rw [confirmed.pending] at isPending
    have different : other ≠ assignment := by
      rintro rfl
      simp at isPending
    obtain ⟨records, isList, member, begun, unconfirmed⟩ :=
      tally.pending other own (OrderedMap.find?_of_find?_erase isPending)
    exact ⟨records, isList, member, by simp [begun], by simp [unconfirmed, different]⟩

theorem refuses (tally : Tally start notes before) (orderlyStart : Orderly start)
    (orderly : Orderly before) (unshared : start.Unshared)
    (refused : Refuses assignment pending before after) :
    Tally start (notes ++ [.refused assignment]) after := by
  obtain ⟨home, atHome, inHome, begun, unconfirmed⟩ :=
    tally.pending assignment pending refused.isPending
  have own := orderly.known assignment pending refused.isPending
  constructor
  · intro resource records isList
    obtain ⟨left, found, remains⟩ := tally.lists resource records isList
    rw [refused.records, refused.pending]
    by_cases same : resource = pending.resource
    · subst same
      cases atHome.symm.trans isList
      rw [if_pos rfl, found]
      exact ⟨_, rfl, remains.refuses (orderlyStart.distinct _ home atHome)
        (orderly.distinct _ left found) inHome own refused.isPending begun unconfirmed⟩
    · rw [if_neg same]
      refine ⟨left, found, remains.refuses_elsewhere ?_⟩
      rw [← own]
      exact absent_elsewhere unshared atHome inHome isList same
  · intro resource absent
    rw [refused.records, tally.missing resource absent]
    exact ite_self _
  · intro other own isPending
    rw [refused.pending] at isPending
    obtain ⟨records, isList, member, begunBefore, notConfirmed⟩ :=
      tally.pending other own (OrderedMap.find?_of_find?_erase isPending)
    exact ⟨records, isList, member, by simp [begunBefore], by simp [notConfirmed]⟩

theorem noted (tally : Tally start notes before) (orderlyStart : Orderly start)
    (orderly : Orderly before) (unshared : start.Unshared) {more : List DeletionNote}
    (noted : Noted before more after) : Tally start (notes ++ more) after := by
  cases noted with
  | kept kept =>
      rw [List.append_nil]
      exact tally.kept kept
  | begun begun => exact tally.begins orderly unshared begun
  | confirmed confirmed => exact tally.confirms confirmed
  | refused refused => exact tally.refuses orderlyStart orderly unshared refused

end Tally

end Application

end LoadChart
