import LoadChart.Proofs.Application.DistinctRecords

/-!
# Stretches without lists

A stretch is a part of a history in which no list arrives.  What it does to deletions is noted in
order: a deletion begins, and later it is confirmed or refused.
-/

namespace LoadChart

/-- What happens to a deletion. -/
inductive DeletionNote where
  | begun (assignment : Identifier)
  | confirmed (assignment : Identifier)
  | refused (assignment : Identifier)
deriving DecidableEq

namespace Application

def commandNotes (app : Application) : Command → List DeletionNote
  | .bar (.delete assignment) =>
      if (locate? app.assignments assignment).isSome then [.begun assignment] else []
  | _ => []

def eventNotes (app : Application) : Event → List DeletionNote
  | .deleted _ assignment answer =>
      if (app.pending.find? assignment).isSome then
        match answer with
        | .ok _ => [.confirmed assignment]
        | .error _ => [.refused assignment]
      else []
  | _ => []

/-- A part of a history without lists, with the notes on deletions. -/
inductive Stretch (start : Application) : List DeletionNote → Application → Prop where
  | start : Stretch start [] start
  | command {notes : List DeletionNote} {before after : Application} {command : Command} :
      Stretch start notes before → before.run? command = some after →
        Stretch start (notes ++ before.commandNotes command) after
  | event {notes : List DeletionNote} {app : Application} {event : Event} :
      Stretch start notes app → ¬ event.BringsList →
        Stretch start (notes ++ app.eventNotes event) (app.receive event)
  | refresh {notes : List DeletionNote} {before after : Application} :
      Stretch start notes before → before.refresh? = some after → Stretch start notes after
  | surroundings {notes : List DeletionNote} {app : Application} (status : String)
      (notices : Notices Float) (showAbout : Bool) (outbox : List Task) :
      Stretch start notes app →
        Stretch start notes { app with status, notices, showAbout, outbox }

/-- What a step notes, and what it does then. -/
inductive Noted (before : Application) : List DeletionNote → Application → Prop where
  | kept {after : Application} : KeepsRecords before after → Noted before [] after
  | begun {assignment : Identifier} {pending : PendingDeletion} {after : Application} :
      Begins assignment pending before after → Noted before [.begun assignment] after
  | confirmed {assignment : Identifier} {pending : PendingDeletion} {after : Application} :
      Confirms assignment pending before after → Noted before [.confirmed assignment] after
  | refused {assignment : Identifier} {pending : PendingDeletion} {after : Application} :
      Refuses assignment pending before after → Noted before [.refused assignment] after

theorem deleteAssignment_noted (app : Application) (view : ViewState) (assignment : Identifier) :
    Noted app (app.commandNotes (.bar (.delete assignment)))
      ({ app with view }.deleteAssignment assignment) := by
  rcases deleteAssignment_cases { app with view } assignment with
    ⟨absent, same⟩ | ⟨pending, located, begun⟩
  · simp only [commandNotes, absent, same]
    exact .kept ⟨fun _ => rfl, rfl⟩
  · simp only [commandNotes, located]
    exact .begun ⟨begun.own, begun.held, begun.records, begun.pending⟩

theorem run?_noted {before after : Application} {command : Command}
    (done : before.run? command = some after) :
    Noted before (before.commandNotes command) after := by
  by_cases deletion : ∃ assignment, command = .bar (.delete assignment)
  · obtain ⟨assignment, rfl⟩ := deletion
    obtain ⟨⟨view, effects⟩, dispatched, performed⟩ := Option.map_eq_some_iff.1 done
    have effect : effects = [.deleteAssignment assignment] :=
      (Prod.mk.inj (Option.some.inj dispatched)).2.symm
    subst effect performed
    exact deleteAssignment_noted before view assignment
  · have silent : before.commandNotes command = [] := by
      unfold commandNotes
      split
      next assignment => exact absurd ⟨assignment, rfl⟩ deletion
      · rfl
    rw [silent]
    exact .kept (run?_keepsRecords done fun assignment same => deletion ⟨assignment, same⟩)

theorem receive_noted {app : Application} {event : Event} (noList : ¬ event.BringsList) :
    Noted app (app.eventNotes event) (app.receive event) := by
  by_cases deletion : ∃ resource assignment answer, event = .deleted resource assignment answer
  · obtain ⟨resource, assignment, answer, rfl⟩ := deletion
    rcases finishDeletion_cases app assignment answer with
      ⟨absent, same⟩ | ⟨pending, ⟨rfl, confirmed⟩ | ⟨failure, rfl, refused⟩⟩
    · simp only [eventNotes, receive, absent, same]
      exact .kept ⟨fun _ => rfl, rfl⟩
    · simp only [eventNotes, receive, confirmed.isPending]
      exact .confirmed confirmed
    · simp only [eventNotes, receive, refused.isPending]
      exact .refused refused
  · have silent : app.eventNotes event = [] := by
      unfold eventNotes
      split
      next resource assignment answer => exact absurd ⟨resource, assignment, answer, rfl⟩ deletion
      · rfl
    rw [silent]
    exact .kept (receive_keepsRecords app noList fun resource assignment answer same =>
      deletion ⟨resource, assignment, answer, same⟩)

/-- What holds at the start of a stretch and is kept by every noted step holds all along. -/
theorem Stretch.induction {start : Application}
    {invariant : List DeletionNote → Application → Prop} (initially : invariant [] start)
    (kept : ∀ {notes more before after}, Noted before more after → invariant notes before →
      invariant (notes ++ more) after)
    {notes : List DeletionNote} {app : Application} (stretch : Stretch start notes app) :
    invariant notes app := by
  induction stretch with
  | start => exact initially
  | command _ done held => exact kept (run?_noted done) held
  | event _ noList held => exact kept (receive_noted noList) held
  | refresh _ done held => simpa using kept (.kept (refresh?_keepsRecords done)) held
  | @surroundings _ app status notices showAbout outbox _ held =>
      have same : KeepsRecords app { app with status, notices, showAbout, outbox } :=
        ⟨fun _ => rfl, rfl⟩
      simpa using kept (.kept same) held

theorem Orderly.noted {before after : Application} {notes : List DeletionNote}
    (orderly : Orderly before) (noted : Noted before notes after) : Orderly after := by
  cases noted with
  | kept kept => exact orderly.of_kept kept
  | begun begun => exact orderly.begins begun
  | confirmed confirmed => exact orderly.confirms confirmed
  | refused refused => exact orderly.refuses refused

end Application

end LoadChart
