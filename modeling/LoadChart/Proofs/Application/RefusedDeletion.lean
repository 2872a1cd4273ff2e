import LoadChart.Proofs.Application.RemainingRecords

/-!
# Refused deletions

Where the refusals of a stretch come in the reverse order of the deletions, each of them undoes the
deletion that it refuses, and in the end every list is as it was.  Together with what is left of the
lists in general this says that refused deletions lose and duplicate nothing.
-/

namespace LoadChart

namespace Application

/-- The deletions under way, the latest first, if each refusal so far was for the latest of them. -/
def unwind : List Identifier → DeletionNote → Option (List Identifier)
  | deletions, .begun assignment => some (assignment :: deletions)
  | latest :: earlier, .refused assignment => if assignment = latest then some earlier else none
  | _, _ => none

/-- Every deletion was refused, and each refusal was for the latest deletion under way. -/
def Unwound (notes : List DeletionNote) : Prop := notes.foldlM unwind [] = some []

def putBackAt (resource : Identifier) (records : List AssignmentRecord)
    (pending : PendingDeletion) : List AssignmentRecord :=
  if resource = pending.resource then putBack pending records else records

/-- Putting back the records of the deletions under way, the latest first, gives the lists of the
start. -/
structure Undoes (start app : Application) (deletions : List PendingDeletion) : Prop where
  known : ∀ pending ∈ deletions,
    app.pending.find? pending.record.identifier = some pending
  distinct : (deletions.map (·.record.identifier)).Nodup
  restored : ∀ resource,
    (app.recordsOf? resource).map (fun records => deletions.foldl (putBackAt resource) records) =
      start.recordsOf? resource

namespace Undoes

variable {start before after : Application} {deletions : List PendingDeletion}
  {assignment : Identifier} {pending : PendingDeletion}

theorem kept (undoes : Undoes start before deletions) (kept : KeepsRecords before after) :
    Undoes start after deletions where
  known := kept.pending ▸ undoes.known
  distinct := undoes.distinct
  restored resource := by
    rw [kept.records]
    exact undoes.restored resource

theorem begins (undoes : Undoes start before deletions) (orderly : Orderly before)
    (notPending : before.pending.find? assignment = none)
    (begun : Begins assignment pending before after) :
    Undoes start after (pending :: deletions) := by
  have others : ∀ own ∈ deletions, own.record.identifier ≠ assignment := by
    intro own member same
    have isPending := undoes.known own member
    rw [same, notPending] at isPending
    cases isPending
  constructor
  · intro own member
    rw [begun.pending]
    rcases List.mem_cons.1 member with rfl | member
    · rw [begun.own, OrderedMap.find?_insert_self]
    · rw [OrderedMap.find?_insert_of_ne _ (others own member)]
      exact undoes.known own member
  · rw [List.map_cons, List.nodup_cons]
    refine ⟨?_, undoes.distinct⟩
    rw [begun.own]
    simpa using others
  · intro resource
    rw [← undoes.restored resource, begun.records]
    by_cases same : resource = pending.resource
    · subst same
      obtain ⟨records, found, atIndex⟩ := begun.held
      have back := putBack_takeOut atIndex (orderly.distinct _ records found)
      simp [found, putBackAt, back]
    · simp [same, putBackAt]

theorem refuses (undoes : Undoes start before (pending :: deletions))
    (refused : Refuses pending.record.identifier pending before after) :
    Undoes start after deletions := by
  obtain ⟨fresh, distinct⟩ := List.nodup_cons.1 undoes.distinct
  constructor
  · intro own member
    have different : own.record.identifier ≠ pending.record.identifier := by
      intro same
      exact fresh (List.mem_map.2 ⟨own, member, same⟩)
    rw [refused.pending, OrderedMap.find?_erase_of_ne _ different]
    exact undoes.known own (List.mem_cons_of_mem _ member)
  · exact distinct
  · intro resource
    rw [← undoes.restored resource, refused.records]
    by_cases same : resource = pending.resource
    · simp [same, putBackAt, Function.comp_def]
    · simp [same, putBackAt]

end Undoes

/-- What a stretch has kept of the lists at its start. -/
structure Accounted (start : Application) (notes : List DeletionNote)
    (app : Application) : Prop where
  orderly : Orderly app
  tally : Tally start notes app
  undoes : ∀ latestFirst, notes.foldlM unwind [] = some latestFirst →
    ∃ deletions, deletions.map (·.record.identifier) = latestFirst ∧ Undoes start app deletions

namespace Accounted

variable {start before after : Application} {notes more : List DeletionNote}

theorem initially (orderly : Orderly start)
    (nonePending : ∀ assignment, start.pending.find? assignment = none) :
    Accounted start [] start where
  orderly := orderly
  tally := .unchanged nonePending
  undoes latestFirst unwound := by
    cases unwound
    refine ⟨[], rfl, ?_, List.nodup_nil, ?_⟩
    · intro pending member
      cases member
    · intro resource
      simp

theorem undoes_noted (accounted : Accounted start notes before)
    (noted : Noted before more after) {latestFirst : List Identifier}
    (unwound : (notes ++ more).foldlM unwind [] = some latestFirst) :
    ∃ deletions, deletions.map (·.record.identifier) = latestFirst ∧
      Undoes start after deletions := by
  rw [List.foldlM_append] at unwound
  obtain ⟨earlier, unwoundBefore, last⟩ := Option.bind_eq_some_iff.1 unwound
  obtain ⟨deletions, rfl, undoes⟩ := accounted.undoes earlier unwoundBefore
  cases noted with
  | kept kept =>
      cases last
      exact ⟨deletions, rfl, undoes.kept kept⟩
  | @begun assignment pending _ begun =>
      have notPending : before.pending.find? assignment = none := by
        by_contra isPending
        obtain ⟨records, found, atIndex⟩ := begun.held
        exact accounted.tally.not_lists isPending
          ⟨_, records, found, _, List.mem_of_getElem? atIndex, begun.own⟩
      cases last
      refine ⟨pending :: deletions, ?_, undoes.begins accounted.orderly notPending begun⟩
      rw [List.map_cons, begun.own]
  | confirmed confirmed =>
      cases deletions <;> cases last
  | @refused assignment pending _ refused =>
      cases deletions with
      | nil => cases last
      | cons latest rest =>
          simp only [List.map_cons, List.foldlM_cons, List.foldlM_nil, unwind] at last
          split at last
          next same =>
            cases last
            subst same
            have isLatest := undoes.known latest List.mem_cons_self
            cases refused.isPending.symm.trans isLatest
            exact ⟨rest, rfl, undoes.refuses refused⟩
          next => cases last

theorem noted (accounted : Accounted start notes before) (orderlyStart : Orderly start)
    (unshared : start.Unshared) (noted : Noted before more after) :
    Accounted start (notes ++ more) after where
  orderly := accounted.orderly.noted noted
  tally := accounted.tally.noted orderlyStart accounted.orderly unshared noted
  undoes _ unwound := accounted.undoes_noted noted unwound

end Accounted

theorem Stretch.accounted {start after : Application} {notes : List DeletionNote}
    (stretch : Stretch start notes after) (orderly : Orderly start)
    (nonePending : ∀ assignment, start.pending.find? assignment = none)
    (unshared : start.Unshared) : Accounted start notes after :=
  stretch.induction (.initially orderly nonePending) fun noted accounted =>
    accounted.noted orderly unshared noted

theorem Accounted.restored {start after : Application} {notes : List DeletionNote}
    (accounted : Accounted start notes after) (unwound : Unwound notes) (resource : Identifier) :
    after.recordsOf? resource = start.recordsOf? resource := by
  obtain ⟨deletions, none, undoes⟩ := accounted.undoes [] unwound
  cases List.map_eq_nil_iff.1 none
  simpa using undoes.restored resource

theorem foldlM_unwind_begun (assignments deletions : List Identifier) :
    (assignments.map DeletionNote.begun).foldlM unwind deletions =
      some (assignments.reverse ++ deletions) := by
  induction assignments generalizing deletions with
  | nil => rfl
  | cons assignment rest induction => simp [unwind, induction]

theorem foldlM_unwind_refused (assignments deletions : List Identifier) :
    (assignments.map DeletionNote.refused).foldlM unwind (assignments ++ deletions) =
      some deletions := by
  induction assignments with
  | nil => rfl
  | cons assignment rest induction => simpa [unwind] using induction

theorem unwound_reverse (assignments : List Identifier) :
    Unwound (assignments.map .begun ++ assignments.reverse.map .refused) := by
  rw [Unwound, List.foldlM_append, foldlM_unwind_begun]
  exact foldlM_unwind_refused assignments.reverse []

theorem perform_delete_of_not_lists {app : Application} {assignment : Identifier}
    (absent : ¬ app.Lists assignment) : app.perform (.deleteAssignment assignment) = app := by
  rcases deleteAssignment_cases app assignment with ⟨_, same⟩ | ⟨pending, located, _⟩
  · exact same
  · exact absurd ((locate?_isSome_iff app assignment).1 (by rw [located]; rfl)) absent

/-- If no list from the service repeats an assignment, then no list ever holds two records for one;
after a refusal the list of the resource, if there is one, holds the record once; and a deletion of
what no list holds does nothing, in particular while a deletion of it is under way and no list
brought it back.  Through a stretch that starts without deletions under way and with every
assignment in one list at most, each list remains but for the confirmed deletions and those under
way; and it is as it was, if every deletion was refused and the latest was always refused first. -/
theorem refused_deletions_lose_nothing {app : Application} {ledger : Ledger}
    (recorded : Recorded app ledger) (clean : ledger.RepeatsNothing) :
    (∀ resource records, app.recordsOf? resource = some records → DistinctRecords records) ∧
    (∀ assignment pending records, app.pending.find? assignment = some pending →
      app.recordsOf? pending.resource = some records → ∀ resource failure, ∃ left,
        (app.receive (.deleted resource assignment (.error failure))).recordsOf? pending.resource =
          some left ∧ copies assignment left = 1) ∧
    (∀ assignment, ¬ app.Lists assignment → app.perform (.deleteAssignment assignment) = app) ∧
    (∀ home assignment, app.Undisturbed home assignment → app.pending.find? assignment ≠ none →
      app.perform (.deleteAssignment assignment) = app) ∧
    ((∀ assignment, app.pending.find? assignment = none) → app.Unshared →
      ∀ notes after, Stretch app notes after →
        (∀ resource records, app.recordsOf? resource = some records → ∃ left,
          after.recordsOf? resource = some left ∧ Remains notes after.pending records left) ∧
        (∀ resource, app.recordsOf? resource = none → after.recordsOf? resource = none) ∧
        (∀ assignment, after.pending.find? assignment ≠ none → ¬ after.Lists assignment) ∧
        (Unwound notes → ∀ resource, after.recordsOf? resource = app.recordsOf? resource)) := by
  have orderly := recorded.orderly clean
  refine ⟨orderly.distinct, ?_, fun _ => perform_delete_of_not_lists, ?_, ?_⟩
  · intro assignment pending records isPending found resource failure
    exact orderly.copies_after_refusal isPending found resource failure
  · intro home assignment undisturbed isPending
    exact perform_delete_of_not_lists (undisturbed.tracked.not_lists isPending)
  · intro nonePending unshared notes after stretch
    have accounted := stretch.accounted orderly nonePending unshared
    exact ⟨accounted.tally.lists, accounted.tally.missing, fun _ => accounted.tally.not_lists,
      accounted.restored⟩

def sampleOther : AssignmentRecord := { sampleRecord with identifier := ⟨8⟩ }

def samplePair : Application :=
  sampleListed.receive (.assignments sampleKey (.ok [sampleRecord, sampleOther]))

def samplePairDeleting : Application := (samplePair.deleteAssignment ⟨5⟩).deleteAssignment ⟨8⟩

def sampleRefusal (assignment : Identifier) : Event :=
  .deleted ⟨1⟩ assignment (.error (.runtime "offline"))

def samplePairRestored : Application :=
  (samplePairDeleting.receive (sampleRefusal ⟨8⟩)).receive (sampleRefusal ⟨5⟩)

theorem samplePair_unshared : samplePair.Unshared := by
  have single : samplePair.records.entries = [(⟨1⟩, [sampleRecord, sampleOther])] := rfl
  have only : ∀ resource records, samplePair.recordsOf? resource = some records →
      resource = ⟨1⟩ := by
    intro resource records found
    rw [← find?_records, ← OrderedMap.mem_entries, single] at found
    exact (Prod.mk.inj (List.mem_singleton.1 found)).1
  intro first second left right isLeft isRight _ _ _ _ _
  rw [only first left isLeft, only second right isRight]

theorem samplePair_stretch :
    Stretch samplePair [.begun ⟨5⟩, .begun ⟨8⟩, .refused ⟨8⟩, .refused ⟨5⟩] samplePairRestored := by
  have first : samplePair.run? (.bar (.delete ⟨5⟩)) = some (samplePair.deleteAssignment ⟨5⟩) := rfl
  have second : (samplePair.deleteAssignment ⟨5⟩).run? (.bar (.delete ⟨8⟩)) =
      some samplePairDeleting := rfl
  have noList : ∀ assignment, ¬ (sampleRefusal assignment).BringsList := fun _ => id
  exact (((Stretch.start.command first).command second).event (noList ⟨8⟩)).event (noList ⟨5⟩)

/-- Two deletions that are refused in the reverse order leave the list as it was. -/
theorem refused_deletions_lose_nothing_pair :
    ∃ ledger notes, Recorded samplePair ledger ∧ ledger.RepeatsNothing ∧
      (∀ assignment, samplePair.pending.find? assignment = none) ∧ samplePair.Unshared ∧
      Stretch samplePair notes samplePairRestored ∧ Unwound notes ∧
      ∀ resource, samplePairRestored.recordsOf? resource = samplePair.recordsOf? resource := by
  have recorded := ((Recorded.initial (some ⟨7⟩) sampleRange .days).event
    (.resources ⟨7⟩ (.ok [.ofCode ⟨1⟩ "R" "R" .labor]))).event
    (.assignments sampleKey (.ok [sampleRecord, sampleOther]))
  have clean : (((Ledger.empty.receive (.resources ⟨7⟩ (.ok [.ofCode ⟨1⟩ "R" "R" .labor]))).receive
      (.assignments sampleKey (.ok [sampleRecord, sampleOther])))).RepeatsNothing := by
    intro event member
    rcases List.mem_cons.1 member with rfl | member
    · trivial
    · cases List.mem_singleton.1 member
      simp [Event.RepeatsNothing, DistinctRecords, sampleRecord, sampleOther]
  have nonePending : ∀ assignment, samplePair.pending.find? assignment = none := fun _ => rfl
  have unwound := unwound_reverse [⟨5⟩, ⟨8⟩]
  obtain ⟨_, _, _, _, through⟩ := refused_deletions_lose_nothing recorded clean
  obtain ⟨_, _, _, restored⟩ := through nonePending samplePair_unshared _ _ samplePair_stretch
  exact ⟨_, _, recorded, clean, nonePending, samplePair_unshared, samplePair_stretch, unwound,
    restored unwound⟩

end Application

end LoadChart
