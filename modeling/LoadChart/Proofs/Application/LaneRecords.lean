import LoadChart.Proofs.Application.AssignmentQueries
import LoadChart.Proofs.Application.ConfirmedDeletion
import LoadChart.Proofs.Application.Records

/-!
# Lanes show the assignments of their own resource

Whatever is listed for a resource, or was taken out of its list for a deletion, came in a list of
assignments that was received for this resource.  So a lane shows nothing from the answer for
another resource, and since lanes are built for the listed resources only, the assignments of any
other resource show nowhere.
-/

namespace LoadChart

/-- A record came in a list of assignments for a resource. -/
def Ledger.Brought (ledger : Ledger) (resource : Identifier) (record : AssignmentRecord) : Prop :=
  ∃ key records, .assignments key (.ok records) ∈ ledger.received ∧ key.resource = resource ∧
    record ∈ records

theorem Ledger.Brought.enter {ledger : Ledger} {resource : Identifier} {record : AssignmentRecord}
    (brought : ledger.Brought resource record) (event : Event) :
    (ledger.receive event).Brought resource record := by
  obtain ⟨key, records, arrived, own, member⟩ := brought
  exact ⟨key, records, ledger.received_subset_receive event arrived, own, member⟩

/-- Every bar of a grid is a record that came for the resource of its lane. -/
def Ledger.Accounts (ledger : Ledger) (grid : Grid) : Prop :=
  ∀ lane ∈ grid.lanes, ∀ bar ∈ lane.assignments,
    ∃ record, ledger.Brought lane.identifier record ∧ Assignment.ofRecord? record = some bar

namespace Application

/-- The listed records and those under deletion came for the resources that they are kept for. -/
structure RecordsTraced (app : Application) (ledger : Ledger) : Prop where
  lists : ∀ resource records, app.recordsOf? resource = some records →
    ∀ record ∈ records, ledger.Brought resource record
  pending : ∀ assignment pending, app.pending.find? assignment = some pending →
    ledger.Brought pending.resource pending.record

namespace RecordsTraced

variable {app after : Application} {ledger : Ledger}

theorem of_kept (traced : RecordsTraced app ledger) (kept : KeepsRecords app after) :
    RecordsTraced after ledger where
  lists resource records found := traced.lists resource records (kept.records resource ▸ found)
  pending assignment pending found :=
    traced.pending assignment pending (kept.pending ▸ found)

theorem enter (traced : RecordsTraced app ledger) (event : Event) :
    RecordsTraced app (ledger.receive event) where
  lists resource records found record member :=
    (traced.lists resource records found record member).enter event
  pending assignment pending found := (traced.pending assignment pending found).enter event

theorem deleteAssignment (traced : RecordsTraced app ledger) (assignment : Identifier) :
    RecordsTraced (app.deleteAssignment assignment) ledger := by
  rcases deleteAssignment_cases app assignment with ⟨_, same⟩ | ⟨pending, _, begun⟩
  · rwa [same]
  · obtain ⟨records, found, atIndex⟩ := begun.held
    constructor
    · intro resource list isList record member
      rw [begun.records] at isList
      split at isList
      · obtain ⟨old, oldFound, rfl⟩ := Option.map_eq_some_iff.1 isList
        exact traced.lists resource old oldFound record (mem_of_mem_takeOut member)
      · exact traced.lists resource list isList record member
    · intro other own isPending
      rw [begun.pending] at isPending
      rcases OrderedMap.eq_or_find?_of_find?_insert isPending with ⟨_, rfl⟩ | before
      · exact traced.lists _ records found _ (List.mem_of_getElem? atIndex)
      · exact traced.pending other own before

theorem finishDeletion (traced : RecordsTraced app ledger) (assignment : Identifier)
    (answer : Except Failure Unit) :
    RecordsTraced (app.finishDeletion assignment answer) ledger := by
  rcases finishDeletion_cases app assignment answer with
    ⟨_, same⟩ | ⟨pending, ⟨_, confirmed⟩ | ⟨_, _, refused⟩⟩
  · rwa [same]
  · constructor
    · intro resource list isList
      exact traced.lists resource list ((confirmed.records resource).symm.trans isList)
    · intro other own isPending
      rw [confirmed.pending] at isPending
      exact traced.pending other own (OrderedMap.find?_of_find?_erase isPending)
  · constructor
    · intro resource list isList record member
      rw [refused.records] at isList
      split at isList
      next same =>
        obtain ⟨old, oldFound, rfl⟩ := Option.map_eq_some_iff.1 isList
        rcases eq_or_mem_of_mem_putBack member with rfl | wasThere
        · rw [same]
          exact traced.pending assignment pending refused.isPending
        · exact traced.lists resource old oldFound record wasThere
      · exact traced.lists resource list isList record member
    · intro other own isPending
      rw [refused.pending] at isPending
      exact traced.pending other own (OrderedMap.find?_of_find?_erase isPending)

theorem run? {command : Command} (traced : RecordsTraced app ledger)
    (done : app.run? command = some after) : RecordsTraced after ledger := by
  have kept : ∀ before after, KeepsRecords before after → RecordsTraced before ledger →
      RecordsTraced after ledger := fun _ _ kept traced => traced.of_kept kept
  exact run?_of_kept kept (fun _ assignment traced => traced.deleteAssignment assignment) done
    traced

theorem receive (traced : RecordsTraced app ledger) (event : Event) :
    RecordsTraced (app.receive event) (ledger.receive event) := by
  cases event with
  | resources program answer =>
      constructor
      · intro resource records found record member
        have before := recordsOf?_of_receiveResources found
        exact (traced.lists resource records before record member).enter _
      · intro assignment pending found
        rw [Application.receive, receiveResources_pending] at found
        exact (traced.pending assignment pending found).enter _
  | assignments key answer =>
      constructor
      · intro resource records found record member
        rcases recordsOf?_of_receiveAssignments found with before | ⟨rfl, rfl, _⟩
        · exact (traced.lists resource records before record member).enter _
        · exact ⟨key, records, ledger.mem_received_receive _, rfl, member⟩
      · intro assignment pending found
        rw [Application.receive, receiveAssignments_pending] at found
        exact (traced.pending assignment pending found).enter _
  | histogram key answer =>
      exact (traced.of_kept (receiveHistogram_keepsRecords app key answer)).enter _
  | leveling ticket answer =>
      exact (traced.of_kept (receiveLeveling_keepsRecords app ticket answer)).enter _
  | deleted _ assignment answer => exact (traced.finishDeletion assignment answer).enter _

theorem initial (program : Option Identifier) (range : DayRange) (scale : Scale) :
    RecordsTraced (.initial program range scale) .empty := by
  refine RecordsTraced.of_kept ?_
    ((requestResources_keepsInputs _).keepsRecords (requestResources_pending _))
  constructor
  · intro resource records found
    cases found
  · intro assignment pending found
    cases found

end RecordsTraced

theorem Recorded.recordsTraced {app : Application} {ledger : Ledger}
    (recorded : Recorded app ledger) : RecordsTraced app ledger := by
  induction recorded with
  | initial program range scale => exact .initial program range scale
  | command _ done traced => exact traced.run? done
  | event event _ traced => exact traced.receive event
  | refresh _ done traced => exact traced.of_kept (refresh?_keepsRecords done)
  | send _ traced => exact ⟨traced.lists, traced.pending⟩
  | surroundings _ _ _ _ traced => exact ⟨traced.lists, traced.pending⟩

theorem RecordsTraced.accounts {app : Application} {ledger : Ledger} {grid : Grid}
    (traced : RecordsTraced app ledger) (built : app.freshGrid? = some grid) :
    ledger.Accounts grid := by
  obtain ⟨columns, _, rfl⟩ := Option.map_eq_some_iff.1 built
  intro lane isLane bar isBar
  obtain ⟨resource, _, rfl⟩ := List.mem_map.1 isLane
  obtain ⟨record, member, placed⟩ := List.mem_filterMap.1 isBar
  rw [find?_records] at member
  cases found : app.recordsOf? resource.identifier with
  | none =>
      rw [found] at member
      cases member
  | some records =>
      rw [found] at member
      exact ⟨record, traced.lists _ records found record member, placed⟩

theorem Recorded.accounts {app : Application} {ledger : Ledger} (recorded : Recorded app ledger) :
    ledger.Accounts app.grid := by
  induction recorded with
  | initial program range scale =>
      rw [Application.initial, (requestResources_keepsInputs _).grid]
      intro lane isLane
      cases isLane
  | command _ done accounts =>
      rw [(run?_follows done).grid]
      exact accounts
  | event event _ accounts =>
      rw [(receive_follows _ event).grid]
      intro lane isLane bar isBar
      obtain ⟨record, brought, placed⟩ := accounts lane isLane bar isBar
      exact ⟨record, brought.enter event, placed⟩
  | refresh recorded done accounts =>
      unfold refresh? at done
      split at done
      · cases done
        exact accounts
      · obtain ⟨grid, built, rfl⟩ := Option.map_eq_some_iff.1 done
        exact recorded.recordsTraced.accounts built
  | send _ accounts => exact accounts
  | surroundings _ _ _ _ accounts => exact accounts

theorem freshGrid?_of_listed {app : Application}
    {assignments : OrderedMap Identifier AssignmentQuery}
    (same : ∀ resource ∈ app.listed,
      assignments.find? resource = app.assignments.find? resource) :
    { app with assignments }.freshGrid? = app.freshGrid? := by
  have lanes : Lane.ofResources (app.resources.value?.getD [])
        (records { app with assignments }) app.view.range =
      Lane.ofResources (app.resources.value?.getD []) app.records app.view.range := by
    apply List.map_congr_left
    intro resource member
    have own := same resource.identifier (List.mem_map_of_mem member)
    rw [find?_records, find?_records, recordsOf?, recordsOf?, own]
  unfold freshGrid? Grid.build?
  rw [lanes]

theorem freshGrid?_lanes {app : Application} {grid : Grid} (built : app.freshGrid? = some grid) :
    grid.lanes.map Lane.identifier = app.listed := by
  obtain ⟨columns, _, rfl⟩ := Option.map_eq_some_iff.1 built
  exact List.map_map

theorem exists_query_of_wanted {app : Application} {resource : Identifier} {key : AssignmentsKey}
    (wanted : (app.assignmentQuery resource).wanted = some key) :
    ∃ query, app.assignments.find? resource = some query ∧ query.wanted = some key := by
  unfold assignmentQuery at wanted
  cases found : app.assignments.find? resource with
  | none =>
      rw [found] at wanted
      cases wanted
  | some query =>
      rw [found] at wanted
      exact ⟨query, rfl, wanted⟩

/-- In every state each listed resource has a query that wants its assignments in the present range;
the query of a resource mentions only keys of this resource, and every bar of a lane is a record
that came in an answer for the resource of the lane.  A new grid has lanes for the listed resources
only, and what is kept for other resources makes no difference to it. -/
theorem lanes_show_own_assignments {app : Application} {ledger : Ledger}
    (recorded : Recorded app ledger) :
    (∀ resource ∈ app.listed, ∃ query,
      app.assignments.find? resource = some query ∧
        query.wanted = some ⟨resource, app.view.range⟩) ∧
    (∀ resource query, app.assignments.find? resource = some query → ∀ key,
      query.wanted = some key ∨ query.inFlight = some key ∨ query.DataFor key →
        key.resource = resource) ∧
    (∀ lane ∈ app.grid.lanes, ∀ bar ∈ lane.assignments, ∃ key records record,
      .assignments key (.ok records) ∈ ledger.received ∧ key.resource = lane.identifier ∧
        record ∈ records ∧ Assignment.ofRecord? record = some bar) ∧
    (∀ grid, app.freshGrid? = some grid → grid.lanes.map Lane.identifier = app.listed) ∧
    ∀ assignments : OrderedMap Identifier AssignmentQuery,
      (∀ resource ∈ app.listed,
        assignments.find? resource = app.assignments.find? resource) →
      { app with assignments }.freshGrid? = app.freshGrid? := by
  refine ⟨?_, ?_, ?_, fun _ => freshGrid?_lanes, fun _ => freshGrid?_of_listed⟩
  · intro resource member
    exact exists_query_of_wanted (recorded.reachable.wantsListed resource member)
  · intro resource query found key mentioned
    have keyed := recorded.reachable.keyedByResource resource
    rw [assignmentQuery, found, Option.getD_some] at keyed
    rcases mentioned with wanted | flying | dataFor
    · exact keyed.wanted key wanted
    · exact keyed.inFlight key flying
    · exact keyed.data key dataFor
  · intro lane isLane bar isBar
    obtain ⟨record, ⟨key, records, arrived, own, member⟩, placed⟩ :=
      recorded.accounts lane isLane bar isBar
    exact ⟨key, records, record, arrived, own, member, placed⟩

/-- Assignments of a resource that is not listed have arrived. -/
def sampleStray : Application :=
  sampleLoaded.receive (.assignments ⟨⟨2⟩, sampleRange⟩ (.ok [sampleRecord]))

def sampleCharted : Application := sampleStray.refresh?.getD sampleStray

/-- The grid has one lane, and its bar came for the listed resource. -/
theorem lanes_show_own_assignments_stray :
    ∃ ledger lane bar, Recorded sampleCharted ledger ∧ sampleCharted.grid.lanes = [lane] ∧
      lane.assignments = [bar] ∧
      (∃ query, sampleCharted.assignments.find? ⟨1⟩ = some query ∧ query.wanted = some sampleKey) ∧
      ∃ key records record, .assignments key (.ok records) ∈ ledger.received ∧ key.resource = ⟨1⟩ ∧
        record ∈ records ∧ Assignment.ofRecord? record = some bar := by
  have loaded := ((Recorded.initial (some ⟨7⟩) sampleRange .days).event
    (.resources ⟨7⟩ (.ok [.ofCode ⟨1⟩ "R" "R" .labor]))).event
    (.assignments sampleKey (.ok [sampleRecord]))
  have charted : sampleStray.refresh? = some sampleCharted := rfl
  have recorded :=
    (loaded.event (.assignments ⟨⟨2⟩, sampleRange⟩ (.ok [sampleRecord]))).refresh charted
  obtain ⟨lane, isLane, isBar⟩ : ∃ lane, sampleCharted.grid.lanes = [lane] ∧
      ∃ bar, lane.assignments = [bar] := ⟨_, rfl, _, rfl⟩
  obtain ⟨bar, isBar⟩ := isBar
  obtain ⟨wants, _, came, _⟩ := lanes_show_own_assignments recorded
  have listed : (⟨1⟩ : Identifier) ∈ sampleCharted.listed := List.mem_cons_self
  have bars := came lane (isLane ▸ List.mem_cons_self) bar (isBar ▸ List.mem_cons_self)
  have own : lane.identifier = ⟨1⟩ := by
    have first : sampleCharted.grid.lanes.map Lane.identifier = [⟨1⟩] := rfl
    rw [isLane] at first
    exact (List.cons.inj first).1
  exact ⟨_, lane, bar, recorded, isLane, isBar, wants _ listed, own ▸ bars⟩

end Application

end LoadChart
