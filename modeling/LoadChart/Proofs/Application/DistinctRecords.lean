import LoadChart.Proofs.Application.History
import LoadChart.Proofs.Application.Records

/-!
# Lists without repetitions

As long as no list of the service repeats an assignment, no list that is kept does.  A record goes
back into its list only if no other one for its assignment is there.
-/

namespace LoadChart

/-- An answer with assignments repeats none. -/
def Event.RepeatsNothing : Event → Prop
  | .assignments _ (.ok records) => Application.DistinctRecords records
  | _ => True

/-- No answer with assignments has repeated one. -/
def Ledger.RepeatsNothing (ledger : Ledger) : Prop :=
  ∀ event ∈ ledger.received, event.RepeatsNothing

namespace Application

/-- No list repeats an assignment, and the deletions under way know their records. -/
structure Orderly (app : Application) : Prop where
  distinct : ∀ resource records, app.recordsOf? resource = some records → DistinctRecords records
  known : Known app.pending

namespace Orderly

variable {app after : Application} {assignment : Identifier} {pending : PendingDeletion}

theorem of_kept (orderly : Orderly app) (kept : KeepsRecords app after) : Orderly after where
  distinct resource records found :=
    orderly.distinct resource records (kept.records resource ▸ found)
  known := kept.pending ▸ orderly.known

theorem begins (orderly : Orderly app) (begun : Begins assignment pending app after) :
    Orderly after where
  distinct resource records found := by
    rw [begun.records] at found
    split at found
    · obtain ⟨old, oldFound, rfl⟩ := Option.map_eq_some_iff.1 found
      exact nodup_takeOut (orderly.distinct resource old oldFound)
    · exact orderly.distinct resource records found
  known := begun.pending ▸ orderly.known.insert begun.own

theorem known_erase (orderly : Orderly app) (assignment : Identifier) :
    Known (app.pending.erase assignment) := fun other own found =>
  orderly.known other own (OrderedMap.find?_of_find?_erase found)

theorem confirms (orderly : Orderly app) (confirmed : Confirms assignment pending app after) :
    Orderly after where
  distinct resource records found :=
    orderly.distinct resource records ((confirmed.records resource).symm.trans found)
  known := confirmed.pending ▸ orderly.known_erase assignment

theorem refuses (orderly : Orderly app) (refused : Refuses assignment pending app after) :
    Orderly after where
  distinct resource records found := by
    rw [refused.records] at found
    split at found
    · obtain ⟨old, oldFound, rfl⟩ := Option.map_eq_some_iff.1 found
      exact nodup_putBack (orderly.distinct resource old oldFound)
    · exact orderly.distinct resource records found
  known := refused.pending ▸ orderly.known_erase assignment

theorem deleteAssignment (orderly : Orderly app) (assignment : Identifier) :
    Orderly (app.deleteAssignment assignment) := by
  rcases deleteAssignment_cases app assignment with ⟨_, same⟩ | ⟨_, _, begun⟩
  · rwa [same]
  · exact orderly.begins begun

theorem finishDeletion (orderly : Orderly app) (assignment : Identifier)
    (answer : Except Failure Unit) : Orderly (app.finishDeletion assignment answer) := by
  rcases finishDeletion_cases app assignment answer with
    ⟨_, same⟩ | ⟨_, ⟨_, confirmed⟩ | ⟨_, _, refused⟩⟩
  · rwa [same]
  · exact orderly.confirms confirmed
  · exact orderly.refuses refused

theorem run? {command : Command} (orderly : Orderly app) (done : app.run? command = some after) :
    Orderly after :=
  run?_of_kept (fun _ _ kept orderly => orderly.of_kept kept)
    (fun _ assignment orderly => orderly.deleteAssignment assignment) done orderly

theorem receive {event : Event} (orderly : Orderly app) (admitted : event.RepeatsNothing) :
    Orderly (app.receive event) := by
  cases event with
  | resources program answer =>
      constructor
      · intro resource records found
        exact orderly.distinct resource records (recordsOf?_of_receiveResources found)
      · rw [Application.receive, receiveResources_pending]
        exact orderly.known
  | assignments key answer =>
      constructor
      · intro resource records found
        rcases recordsOf?_of_receiveAssignments found with before | ⟨_, rfl, _⟩
        · exact orderly.distinct resource records before
        · exact admitted
      · rw [Application.receive, receiveAssignments_pending]
        exact orderly.known
  | histogram key answer => exact orderly.of_kept (receiveHistogram_keepsRecords app key answer)
  | leveling ticket answer => exact orderly.of_kept (receiveLeveling_keepsRecords app ticket answer)
  | deleted _ assignment answer => exact orderly.finishDeletion assignment answer

theorem initial (program : Option Identifier) (range : DayRange) (scale : Scale) :
    Orderly (.initial program range scale) := by
  refine Orderly.of_kept ?_
    ((requestResources_keepsInputs _).keepsRecords (requestResources_pending _))
  constructor
  · intro resource records found
    cases found
  · intro assignment pending found
    cases found

end Orderly

theorem Recorded.orderly {app : Application} {ledger : Ledger} (recorded : Recorded app ledger)
    (clean : ledger.RepeatsNothing) : Orderly app := by
  induction recorded with
  | initial program range scale => exact .initial program range scale
  | command _ done induction => exact (induction clean).run? done
  | event event _ induction =>
      have before := induction fun other member =>
        clean other (Ledger.received_subset_receive _ event member)
      exact before.receive (clean event (Ledger.mem_received_receive _ event))
  | refresh _ done induction => exact (induction clean).of_kept (refresh?_keepsRecords done)
  | send _ induction => exact ⟨(induction clean).distinct, (induction clean).known⟩
  | surroundings _ _ _ _ induction => exact ⟨(induction clean).distinct, (induction clean).known⟩

/-- Right after a refusal the list of the resource, if there is one, holds the record once. -/
theorem Orderly.copies_after_refusal {app : Application} (orderly : Orderly app)
    {assignment : Identifier} {pending : PendingDeletion}
    (isPending : app.pending.find? assignment = some pending) {records : List AssignmentRecord}
    (found : app.recordsOf? pending.resource = some records) (resource : Identifier)
    (failure : Failure) :
    ∃ left, (app.receive (.deleted resource assignment (.error failure))).recordsOf?
        pending.resource = some left ∧ copies assignment left = 1 := by
  have refused := finishDeletion_refuses isPending failure
  refine ⟨putBack pending records, ?_, ?_⟩
  · rw [Application.receive, refused.records, if_pos rfl, found, Option.map_some]
  · rw [← orderly.known assignment pending isPending]
    exact copies_putBack_self (orderly.distinct _ records found)

end Application

end LoadChart
