import LoadChart.Proofs.Application.Deletion

/-!
# Confirmed deletions

An assignment is taken out of its list when its deletion begins.  A confirmation changes no list,
so the assignment stays away unless a list that arrived meanwhile brought it back.
-/

namespace LoadChart

namespace Application

variable {home assignment : Identifier}

/-- How many copies of an assignment of the resource `home` the list of a resource may hold: one
in the list of its own resource, unless its deletion is under way, and none elsewhere. -/
def allowed (app : Application) (home assignment resource : Identifier) : Nat :=
  if resource = home ∧ app.pending.find? assignment = none then 1 else 0

/-- An answer does not bring the assignment too often: a list that counts holds it at most as often
as is allowed. -/
def Admits (home assignment : Identifier) (app : Application) : Event → Prop
  | .assignments key (.ok records) =>
      (app.assignmentQuery key.resource).wanted = some key →
        copies assignment records ≤ app.allowed home assignment key.resource
  | _ => True

/-- A step in which no list brings the assignment too often. -/
inductive QuietStep (home assignment : Identifier) : Application → Application → Prop where
  | command {before after : Application} {command : Command} :
      before.run? command = some after → QuietStep home assignment before after
  | event {app : Application} {event : Event} :
      app.Admits home assignment event → QuietStep home assignment app (app.receive event)
  | refresh {before after : Application} :
      before.refresh? = some after → QuietStep home assignment before after
  | surroundings (app : Application) (status : String) (notices : Notices Float)
      (showAbout : Bool) (outbox : List Task) :
      QuietStep home assignment app { app with status, notices, showAbout, outbox }

theorem QuietStep.step {before after : Application}
    (quiet : QuietStep home assignment before after) : Step before after := by
  cases quiet with
  | command done => exact .command done
  | event _ => exact .event _ _
  | refresh done => exact .refresh done
  | surroundings status notices showAbout outbox =>
      exact .surroundings _ status notices showAbout outbox

/-- The states that quiet steps lead to from the start. -/
def Undisturbed (home assignment : Identifier) (app : Application) : Prop :=
  ∃ (program : Option Identifier) (range : DayRange) (scale : Scale),
    Relation.ReflTransGen (QuietStep home assignment) (.initial program range scale) app

theorem Undisturbed.reachable {app : Application} (undisturbed : Undisturbed home assignment app) :
    Reachable app := by
  obtain ⟨program, range, scale, steps⟩ := undisturbed
  exact ⟨program, range, scale, Relation.ReflTransGen.mono (fun _ _ quiet => quiet.step) _ _ steps⟩

/-- The deletions under way know the records of their assignments. -/
def Known (deletions : OrderedMap Identifier PendingDeletion) : Prop :=
  ∀ assignment pending, deletions.find? assignment = some pending →
    pending.record.identifier = assignment

theorem Known.insert {deletions : OrderedMap Identifier PendingDeletion} (known : Known deletions)
    {pending : PendingDeletion} (own : pending.record.identifier = assignment) :
    Known (deletions.insert assignment pending) := by
  intro other found isFound
  by_cases same : other = assignment
  · subst same
    cases (OrderedMap.find?_insert_self _ _ _).symm.trans isFound
    exact own
  · exact known other found ((OrderedMap.find?_insert_of_ne _ same _).symm.trans isFound)

/-- No list holds more copies than allowed, and the deletions under way know their records. -/
structure Tracked (home assignment : Identifier) (app : Application) : Prop where
  bounded : ∀ resource records, app.recordsOf? resource = some records →
    copies assignment records ≤ app.allowed home assignment resource
  known : Known app.pending
  atHome : ∀ pending, app.pending.find? assignment = some pending → pending.resource = home

/-- It suffices that each list was there before, or holds no more copies than allowed. -/
theorem Tracked.of_pending_eq {before after : Application}
    (tracked : Tracked home assignment before) (pending : after.pending = before.pending)
    (records : ∀ resource records, after.recordsOf? resource = some records →
      before.recordsOf? resource = some records ∨
        copies assignment records ≤ before.allowed home assignment resource) :
    Tracked home assignment after where
  bounded resource list found := by
    rw [allowed, pending]
    rcases records resource list found with old | admitted
    · exact tracked.bounded resource list old
    · exact admitted
  known := pending ▸ tracked.known
  atHome := pending ▸ tracked.atHome

theorem Tracked.of_keepsInputs {before after : Application}
    (tracked : Tracked home assignment before) (kept : KeepsInputs before after)
    (pending : after.pending = before.pending) : Tracked home assignment after :=
  tracked.of_pending_eq pending fun resource _ found =>
    Or.inl ((kept.records resource).symm.trans found)

theorem Tracked.copies_eq_zero {app : Application} (tracked : Tracked home assignment app)
    {resource : Identifier} {records : List AssignmentRecord}
    (found : app.recordsOf? resource = some records)
    (elsewhere : resource = home → app.pending.find? assignment ≠ none) :
    copies assignment records = 0 := by
  have bounded := tracked.bounded resource records found
  rw [allowed, if_neg fun both => elsewhere both.1 both.2] at bounded
  exact Nat.le_zero.1 bounded

/-- A copy is at home, it is the only one there, and no deletion of it is under way. -/
theorem Tracked.of_copies_pos {app : Application} (tracked : Tracked home assignment app)
    {resource : Identifier} {records : List AssignmentRecord}
    (found : app.recordsOf? resource = some records) (holds : 0 < copies assignment records) :
    resource = home ∧ app.pending.find? assignment = none ∧ copies assignment records = 1 := by
  have bounded := tracked.bounded resource records found
  unfold allowed at bounded
  split at bounded
  next own => exact ⟨own.1, own.2, by omega⟩
  next => omega

theorem Tracked.deleteAssignment_self {app : Application}
    (tracked : Tracked home assignment app) :
    Tracked home assignment (app.deleteAssignment assignment) := by
  unfold Application.deleteAssignment
  split
  · exact tracked
  next pending located =>
    obtain ⟨own, ownRecords, ownFound, atIndex⟩ := locate?_eq_some located
    have counted := copies_takeOut atIndex assignment
    rw [if_pos own] at counted
    obtain ⟨atHome, notPending, single⟩ := tracked.of_copies_pos ownFound (by omega)
    constructor
    · intro resource records found
      rcases recordsOf?_of_editRecords found with ⟨rfl, old, oldFound, rfl⟩ | ⟨elsewhere, before⟩
      · cases ownFound.symm.trans oldFound
        exact Nat.le_trans (by omega) (Nat.zero_le _)
      · rw [tracked.copies_eq_zero before fun here => absurd (here.trans atHome.symm) elsewhere]
        exact Nat.zero_le _
    · exact tracked.known.insert own
    · intro ownPending found
      cases (OrderedMap.find?_insert_self _ _ _).symm.trans found
      exact atHome

theorem Tracked.deleteAssignment_of_ne {app : Application}
    (tracked : Tracked home assignment app) {other : Identifier} (different : assignment ≠ other) :
    Tracked home assignment (app.deleteAssignment other) := by
  unfold Application.deleteAssignment
  split
  · exact tracked
  next pending located =>
    obtain ⟨own, ownRecords, ownFound, atIndex⟩ := locate?_eq_some located
    have counted := copies_takeOut atIndex assignment
    constructor
    · intro resource records found
      rw [allowed, OrderedMap.find?_insert_of_ne _ different]
      rcases recordsOf?_of_editRecords found with ⟨rfl, old, oldFound, rfl⟩ | ⟨_, before⟩
      · cases ownFound.symm.trans oldFound
        exact Nat.le_trans (by omega) (tracked.bounded _ _ ownFound)
      · exact tracked.bounded resource records before
    · exact tracked.known.insert own
    · intro ownPending found
      exact tracked.atHome ownPending
        ((OrderedMap.find?_insert_of_ne _ different _).symm.trans found)

theorem allowed_le_erase (app : Application) (other resource : Identifier) :
    app.allowed home assignment resource ≤
      allowed { app with pending := app.pending.erase other } home assignment resource := by
  unfold allowed
  split
  next both =>
    have ended : (app.pending.erase other).find? assignment = none := by
      rw [OrderedMap.find?_erase, both.2, ite_self]
    exact Nat.le_of_eq (if_pos ⟨both.1, ended⟩).symm
  · exact Nat.zero_le _

/-- A refused deletion puts back the only copy, and a confirmed one changes no list. -/
theorem Tracked.finishDeletion {app : Application} (tracked : Tracked home assignment app)
    (other : Identifier) (answer : Except Failure Unit) :
    Tracked home assignment (app.finishDeletion other answer) := by
  unfold Application.finishDeletion
  split
  · exact tracked
  next pending isPending =>
    have own := tracked.known other pending isPending
    have known : Known (app.pending.erase other) := fun another ownPending found =>
      tracked.known another ownPending (OrderedMap.find?_of_find?_erase found)
    have atHome : ∀ ownPending, (app.pending.erase other).find? assignment = some ownPending →
        ownPending.resource = home := fun ownPending found =>
      tracked.atHome ownPending (OrderedMap.find?_of_find?_erase found)
    cases answer with
    | ok _ =>
        refine ⟨?_, known, atHome⟩
        intro resource records found
        exact Nat.le_trans (tracked.bounded resource records found) (allowed_le_erase app other _)
    | error failure =>
        refine ⟨?_, known, atHome⟩
        intro resource records found
        rcases recordsOf?_of_editRecords found with ⟨rfl, old, oldFound, rfl⟩ | ⟨_, before⟩
        · by_cases same : other = assignment
          · subst same
            have isHome := tracked.atHome pending isPending
            have ended : (app.pending.erase other).find? other = none := by
              rw [OrderedMap.find?_erase, if_pos rfl]
            have none := tracked.copies_eq_zero oldFound fun _ => by simp [isPending]
            unfold allowed
            rw [if_pos ⟨isHome, ended⟩]
            exact copies_putBack_of_none none
          · rw [copies_putBack_of_ne (own.trans_ne same)]
            exact Nat.le_trans (tracked.bounded _ old oldFound) (allowed_le_erase app other _)
        · exact Nat.le_trans (tracked.bounded resource records before)
            (allowed_le_erase app other _)

theorem Tracked.receive {app : Application} (tracked : Tracked home assignment app) {event : Event}
    (admits : app.Admits home assignment event) : Tracked home assignment (app.receive event) := by
  cases event with
  | resources program answer =>
      refine tracked.of_pending_eq (receiveResources_pending app program answer) ?_
      intro resource records found
      exact Or.inl (recordsOf?_of_receiveResources found)
  | assignments key answer =>
      refine tracked.of_pending_eq (receiveAssignments_pending app key answer) ?_
      intro resource records found
      rcases recordsOf?_of_receiveAssignments found with before | ⟨rfl, rfl, wanted⟩
      · exact Or.inl before
      · exact Or.inr (admits wanted)
  | histogram key answer =>
      exact tracked.of_keepsInputs (receiveHistogram_keepsInputs app key answer)
        (receiveHistogram_pending app key answer)
  | leveling ticket answer =>
      exact tracked.of_keepsInputs (receiveLeveling_keepsInputs app ticket answer)
        (receiveLeveling_pending app ticket answer)
  | deleted _ other answer => exact tracked.finishDeletion other answer

theorem Tracked.perform {app : Application} (tracked : Tracked home assignment app)
    (effect : Effect) : Tracked home assignment (app.perform effect) := by
  cases effect with
  | fetchAssignments =>
      exact tracked.of_keepsInputs (requestAssignments_keepsInputs app)
        (requestAssignments_pending app)
  | fetchHistogram =>
      exact tracked.of_keepsInputs (requestHistogram_keepsInputs app) (requestHistogram_pending app)
  | refetch => exact tracked.of_keepsInputs (refetchAll_keepsInputs app) (refetchAll_pending app)
  | deleteAssignment other =>
      by_cases same : assignment = other
      · subst same
        exact tracked.deleteAssignment_self
      · exact tracked.deleteAssignment_of_ne same
  | leveling ticket =>
      exact tracked.of_keepsInputs (sendLeveling_keepsInputs app ticket)
        (sendLeveling_pending app ticket)
  | exportUtilization =>
      unfold Application.perform
      dsimp only
      split
      all_goals exact ⟨tracked.bounded, tracked.known, tracked.atHome⟩
  | openSettingsFolder | showAbout | notify =>
      exact ⟨tracked.bounded, tracked.known, tracked.atHome⟩

theorem Tracked.performAll (effects : List Effect) {app : Application}
    (tracked : Tracked home assignment app) :
    Tracked home assignment (effects.foldl Application.perform app) := by
  induction effects generalizing app with
  | nil => exact tracked
  | cons effect effects induction => exact induction (tracked.perform effect)

theorem Tracked.quietStep {before after : Application}
    (quiet : QuietStep home assignment before after) (tracked : Tracked home assignment before) :
    Tracked home assignment after := by
  cases quiet with
  | command done =>
      obtain ⟨⟨view, effects⟩, _, performed⟩ := Option.map_eq_some_iff.1 done
      subst performed
      apply Tracked.performAll
      exact ⟨tracked.bounded, tracked.known, tracked.atHome⟩
  | event admits => exact tracked.receive admits
  | refresh done =>
      unfold refresh? at done
      split at done
      · cases done
        exact tracked
      · obtain ⟨grid, _, same⟩ := Option.map_eq_some_iff.1 done
        subst same
        exact ⟨tracked.bounded, tracked.known, tracked.atHome⟩
  | surroundings => exact ⟨tracked.bounded, tracked.known, tracked.atHome⟩

theorem Tracked.initial (program : Option Identifier) (range : DayRange) (scale : Scale) :
    Tracked home assignment (.initial program range scale) := by
  refine Tracked.of_keepsInputs ?_ (requestResources_keepsInputs _) (requestResources_pending _)
  constructor
  · intro resource records found
    cases found
  · intro other pending found
    cases found
  · intro pending found
    cases found

theorem Undisturbed.tracked {app : Application} (undisturbed : Undisturbed home assignment app) :
    Tracked home assignment app := by
  obtain ⟨program, range, scale, steps⟩ := undisturbed
  induction steps with
  | refl => exact .initial program range scale
  | tail _ quiet tracked => exact tracked.quietStep quiet

theorem confirmation_recordsOf? (app : Application) (resource assignment other : Identifier) :
    (app.receive (.deleted resource assignment (.ok ()))).recordsOf? other =
      app.recordsOf? other := by
  unfold receive finishDeletion
  dsimp only
  split <;> rfl

theorem lists_confirmation_iff (app : Application) (resource assignment other : Identifier) :
    (app.receive (.deleted resource assignment (.ok ()))).Lists other ↔ app.Lists other := by
  simp only [Lists, confirmation_recordsOf?]

theorem Tracked.not_lists {app : Application} (tracked : Tracked home assignment app)
    (isPending : app.pending.find? assignment ≠ none) : ¬ app.Lists assignment := by
  rintro ⟨resource, records, found, record, member, own⟩
  have none := tracked.copies_eq_zero found fun _ => isPending
  exact copies_eq_zero_iff.1 none record member own

/-- A list that counts is there afterwards, whatever deletions are under way. -/
theorem lists_of_receive {app : Application} {key : AssignmentsKey}
    {records : List AssignmentRecord}
    (wanted : (app.assignmentQuery key.resource).wanted = some key)
    (holds : ∃ record ∈ records, record.identifier = assignment) :
    (app.receive (.assignments key (.ok records))).Lists assignment := by
  refine ⟨key.resource, records, ?_, holds⟩
  have data := Query.resolve_data_of_ok wanted records
  have applied := (Query.resolve_applied_iff _ key (.ok records)).2 wanted
  have stored : (((app.assignments.insert key.resource
      ((app.assignmentQuery key.resource).resolve key (.ok records)).1).find?
        key.resource).bind Query.value?) = some records := by
    rw [OrderedMap.find?_insert_self, Option.bind_some, Query.value?, data, Option.map_some]
  unfold receive receiveAssignments
  dsimp only [Except.mapError]
  rw [if_neg (by rw [applied]; exact Resolution.noConfusion)]
  exact stored

theorem lists_of_mem_freshGrid {app : Application} {grid : Grid}
    (built : app.freshGrid? = some grid) {lane : Lane} (isLane : lane ∈ grid.lanes)
    {bar : Assignment} (isBar : bar ∈ lane.assignments) : app.Lists bar.identifier := by
  obtain ⟨columns, _, rfl⟩ := Option.map_eq_some_iff.1 built
  obtain ⟨resource, _, rfl⟩ := List.mem_map.1 isLane
  obtain ⟨record, member, placed⟩ := List.mem_filterMap.1 isBar
  obtain ⟨day, _, rfl⟩ := Option.map_eq_some_iff.1 placed
  rw [find?_records] at member
  cases found : app.recordsOf? resource.identifier with
  | none =>
      rw [found] at member
      cases member
  | some records =>
      rw [found] at member
      exact ⟨resource.identifier, records, found, record, member, rfl⟩

/-- In a run in which no list brings the assignment too often, a confirmed deletion lasts: no list
holds the assignment right after the confirmation, and neither does a lane of the grid built next.
But a list that holds the assignment and counts while the deletion is under way outlasts the
confirmation. -/
theorem confirmed_deletion_lasts {app : Application} (undisturbed : app.Undisturbed home assignment)
    (isPending : app.pending.find? assignment ≠ none) (resource : Identifier) :
    (¬ (app.receive (.deleted resource assignment (.ok ()))).Lists assignment ∧
      ∀ refreshed, (app.receive (.deleted resource assignment (.ok ()))).refresh? = some refreshed →
        ∀ lane ∈ refreshed.grid.lanes, ∀ bar ∈ lane.assignments, bar.identifier ≠ assignment) ∧
    ∀ (key : AssignmentsKey) (records : List AssignmentRecord),
      (app.assignmentQuery key.resource).wanted = some key →
        (∃ record ∈ records, record.identifier = assignment) →
          ((app.receive (.assignments key (.ok records))).receive
            (.deleted resource assignment (.ok ()))).Lists assignment := by
  have away : ¬ (app.receive (.deleted resource assignment (.ok ()))).Lists assignment := by
    rw [lists_confirmation_iff]
    exact undisturbed.tracked.not_lists isPending
  refine ⟨⟨away, ?_⟩, ?_⟩
  · intro refreshed done lane isLane bar isBar same
    have current : GridCurrent (app.receive (.deleted resource assignment (.ok ()))) :=
      (undisturbed.reachable.induction GridCurrent.initial GridCurrent.step).of_follows
        (receive_follows app _)
    rw [current.refresh?_eq] at done
    obtain ⟨grid, built, rfl⟩ := Option.map_eq_some_iff.1 done
    exact away (same ▸ lists_of_mem_freshGrid built isLane isBar)
  · intro key records wanted holds
    rw [lists_confirmation_iff]
    exact lists_of_receive wanted holds

def sampleRange : DayRange :=
  ⟨⟨740021, by decide, by decide⟩, ⟨740027, by decide, by decide⟩, by decide⟩

def sampleKey : AssignmentsKey := ⟨⟨1⟩, sampleRange⟩

def sampleRecord : AssignmentRecord :=
  ⟨⟨5⟩, ⟨6⟩, ⟨1⟩, 1, some sampleRange.first, some sampleRange.last, none⟩

def sampleStart : Application := .initial (some ⟨7⟩) sampleRange .days

def sampleListed : Application :=
  sampleStart.receive (.resources ⟨7⟩ (.ok [.ofCode ⟨1⟩ "R" "R" .labor]))

def sampleLoaded : Application := sampleListed.receive (.assignments sampleKey (.ok [sampleRecord]))

/-- The assignments were asked for again, and then the deletion of the assignment began. -/
def sampleDeleting : Application := sampleLoaded.refetchAll.deleteAssignment ⟨5⟩

theorem sampleDeleting_undisturbed : sampleDeleting.Undisturbed ⟨1⟩ ⟨5⟩ := by
  have listed : QuietStep ⟨1⟩ ⟨5⟩ sampleStart sampleListed := by
    apply QuietStep.event
    trivial
  have loaded : QuietStep ⟨1⟩ ⟨5⟩ sampleListed sampleLoaded := by
    apply QuietStep.event
    intro wanted
    decide
  have refetched : sampleLoaded.run? .retry = some sampleLoaded.refetchAll := rfl
  have deleting : sampleLoaded.refetchAll.run? (.bar (.delete ⟨5⟩)) = some sampleDeleting := rfl
  refine ⟨some ⟨7⟩, sampleRange, .days, ?_⟩
  exact (((Relation.ReflTransGen.single listed).tail loaded).tail (.command refetched)).tail
    (.command deleting)

theorem sampleDeleting_isPending : sampleDeleting.pending.find? ⟨5⟩ ≠ none := by
  apply Option.ne_none_iff_isSome.2
  decide

theorem sampleDeleting_wanted :
    (sampleDeleting.assignmentQuery sampleKey.resource).wanted = some sampleKey := by
  decide

/-- A confirmed deletion does not last if the list that was asked for before arrives before the
confirmation. -/
theorem confirmed_deletion_not_always_lasting :
    ¬ ∀ (app : Application), Reachable app → ∀ assignment : Identifier,
      app.pending.find? assignment ≠ none → ∀ resource : Identifier,
        ¬ (app.receive (.deleted resource assignment (.ok ()))).Lists assignment := by
  intro lasting
  have reachable :
      Reachable (sampleDeleting.receive (.assignments sampleKey (.ok [sampleRecord]))) := by
    obtain ⟨program, range, scale, steps⟩ := sampleDeleting_undisturbed.reachable
    exact ⟨program, range, scale, steps.tail (.event _ _)⟩
  apply lasting _ reachable ⟨5⟩ ?_ ⟨1⟩
  · rw [lists_confirmation_iff]
    exact lists_of_receive sampleDeleting_wanted ⟨sampleRecord, List.mem_cons_self, rfl⟩
  · exact sampleDeleting_isPending

/-- In the sample run the confirmation would have lasted without the list. -/
theorem confirmed_deletion_lasts_in_sample :
    sampleDeleting.Undisturbed ⟨1⟩ ⟨5⟩ ∧ sampleDeleting.pending.find? ⟨5⟩ ≠ none ∧
      (sampleDeleting.assignmentQuery sampleKey.resource).wanted = some sampleKey ∧
      ¬ (sampleDeleting.receive (.deleted ⟨1⟩ ⟨5⟩ (.ok ()))).Lists ⟨5⟩ ∧
      ((sampleDeleting.receive (.assignments sampleKey (.ok [sampleRecord]))).receive
        (.deleted ⟨1⟩ ⟨5⟩ (.ok ()))).Lists ⟨5⟩ := by
  obtain ⟨⟨away, _⟩, back⟩ :=
    confirmed_deletion_lasts sampleDeleting_undisturbed sampleDeleting_isPending ⟨1⟩
  exact ⟨sampleDeleting_undisturbed, sampleDeleting_isPending, sampleDeleting_wanted, away,
    back sampleKey [sampleRecord] sampleDeleting_wanted ⟨sampleRecord, List.mem_cons_self, rfl⟩⟩

end Application

end LoadChart
