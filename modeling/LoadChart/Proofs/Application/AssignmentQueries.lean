import LoadChart.Proofs.Application.GridFreshness
import LoadChart.Proofs.Application.History
import LoadChart.Proofs.Application.Writes
import LoadChart.Proofs.Query.Keys
import LoadChart.Proofs.View.Choice

/-!
# The queries for assignments

Every listed resource has its assignments in the present range wanted, and the query of a resource
mentions only keys of this resource.  Queries come and go with the list of resources, and all their
keys change with the range; but wherever one of the two changes, the assignments of the listed
resources are asked for again.
-/

namespace LoadChart

namespace Application

theorem listed_congr {left right : Application}
    (same : left.resources.value? = right.resources.value?) : left.listed = right.listed := by
  rw [listed, listed, same]

/-- The range and the list of resources are kept, and no query of assignments comes to want another
key or to mention a new one. -/
structure KeepsQueries (before after : Application) : Prop where
  range : after.view.range = before.view.range
  listed : after.listed = before.listed
  wanted : ∀ resource,
    (after.assignmentQuery resource).wanted = (before.assignmentQuery resource).wanted
  keyed : ∀ resource admits, (before.assignmentQuery resource).KeyedBy admits →
    (after.assignmentQuery resource).KeyedBy admits

namespace KeepsQueries

theorem trans {first second third : Application} (left : KeepsQueries first second)
    (right : KeepsQueries second third) : KeepsQueries first third where
  range := right.range.trans left.range
  listed := right.listed.trans left.listed
  wanted := fun resource => (right.wanted resource).trans (left.wanted resource)
  keyed := fun resource admits keyed =>
    right.keyed resource admits (left.keyed resource admits keyed)

theorem of_assignments_eq {before after : Application}
    (range : after.view.range = before.view.range)
    (resources : after.resources.value? = before.resources.value?)
    (assignments : after.assignments = before.assignments) : KeepsQueries before after where
  range := range
  listed := listed_congr resources
  wanted := fun resource => by rw [assignmentQuery, assignments, assignmentQuery]
  keyed := fun resource admits keyed => by rwa [assignmentQuery, assignments]

theorem of_mapValues {before after : Application}
    {change : Identifier → AssignmentQuery → AssignmentQuery}
    (range : after.view.range = before.view.range)
    (resources : after.resources.value? = before.resources.value?)
    (assignments : after.assignments = before.assignments.mapValues change)
    (wanted : ∀ resource query, (change resource query).wanted = query.wanted)
    (keyed : ∀ resource (query : AssignmentQuery) admits, query.KeyedBy admits →
      (change resource query).KeyedBy admits) : KeepsQueries before after where
  range := range
  listed := listed_congr resources
  wanted := by
    intro resource
    rw [assignmentQuery, assignments, OrderedMap.find?_mapValues, assignmentQuery]
    cases before.assignments.find? resource with
    | none => rfl
    | some query => exact wanted resource query
  keyed := by
    intro resource admits
    unfold assignmentQuery
    rw [assignments, OrderedMap.find?_mapValues]
    cases before.assignments.find? resource with
    | none => exact fun keyed => keyed
    | some query => exact keyed resource query admits

end KeepsQueries

theorem requestHistogram_keepsQueries (app : Application) :
    KeepsQueries app app.requestHistogram := by
  obtain ⟨histogram, tasks, same⟩ := app.requestHistogram_writes
  rw [same]
  exact .of_assignments_eq rfl rfl rfl

theorem refetchResources_keepsQueries (app : Application) :
    KeepsQueries app app.refetchResources := by
  have resources := (refetchResources_keepsInputs app).resources
  obtain ⟨_, status, tasks, same⟩ := app.refetchResources_writes
  rw [same] at resources ⊢
  exact .of_assignments_eq rfl resources rfl

theorem refetchAssignments_keepsQueries (app : Application) :
    KeepsQueries app app.refetchAssignments := by
  have invalidated : app.refetchAssignments.assignments =
      app.assignments.mapValues fun _ query => query.invalidate.1 := rfl
  exact .of_mapValues rfl rfl invalidated (fun _ _ => rfl) (fun _ _ _ keyed => keyed.invalidate)

theorem refetchAll_keepsQueries (app : Application) : KeepsQueries app app.refetchAll := by
  have lists := (refetchResources_keepsQueries app).trans (refetchAssignments_keepsQueries _)
  refine lists.trans ?_
  rw [refetchAll, refetchHistogram_eq]
  exact .of_assignments_eq rfl rfl rfl

theorem sendLeveling_keepsQueries (app : Application) (ticket : LevelingTicket) :
    KeepsQueries app (app.sendLeveling ticket) := by
  obtain ⟨leveling, tasks, same⟩ := app.sendLeveling_writes ticket
  rw [same]
  exact .of_assignments_eq rfl rfl rfl

theorem editRecords_keepsQueries {before after : Application} {resource : Identifier}
    {change : List AssignmentRecord → List AssignmentRecord}
    (range : after.view.range = before.view.range)
    (resources : after.resources.value? = before.resources.value?)
    (edited : after.assignments = editRecords before.assignments resource change) :
    KeepsQueries before after := by
  refine .of_mapValues range resources edited ?_ ?_
  · intro other query
    split <;> rfl
  · intro other query admits keyed
    split
    · exact keyed.edit change
    · exact keyed

theorem deleteAssignment_keepsQueries (app : Application) (assignment : Identifier) :
    KeepsQueries app (app.deleteAssignment assignment) := by
  unfold deleteAssignment
  split
  · exact .of_assignments_eq rfl rfl rfl
  · exact editRecords_keepsQueries rfl rfl rfl

theorem finishDeletion_keepsQueries (app : Application) (assignment : Identifier)
    (answer : Except Failure Unit) : KeepsQueries app (app.finishDeletion assignment answer) := by
  unfold finishDeletion
  split
  · exact .of_assignments_eq rfl rfl rfl
  · cases answer with
    | ok _ => exact .of_assignments_eq rfl rfl rfl
    | error failure => exact editRecords_keepsQueries rfl rfl rfl

theorem assignmentQuery_insert (app : Application) (resource other : Identifier)
    (query : AssignmentQuery) :
    (((app.assignments.insert resource query).find? other).getD .initial : AssignmentQuery) =
      if other = resource then query else app.assignmentQuery other := by
  split
  next same => rw [same, OrderedMap.find?_insert_self, Option.getD_some]
  next different => rw [OrderedMap.find?_insert_of_ne _ different, assignmentQuery]

/-- An answer may make a query for a resource that has none, but this one wants nothing. -/
theorem receiveAssignments_keepsQueries (app : Application) (key : AssignmentsKey)
    (answer : Except Failure (List AssignmentRecord)) :
    KeepsQueries app (app.receiveAssignments key answer) := by
  obtain ⟨revision, notices, same⟩ := app.receiveAssignments_writes key answer
  rw [same]
  refine ⟨rfl, rfl, ?_, ?_⟩
  · intro resource
    rw [assignmentQuery, assignmentQuery_insert]
    split
    next own => rw [Query.resolve_wanted, own]
    next => rfl
  · intro resource admits keyed
    rw [assignmentQuery, assignmentQuery_insert]
    split
    next own => exact (own ▸ keyed).resolve key _
    next => exact keyed

theorem receiveHistogram_keepsQueries (app : Application) (key : HistogramKey)
    (answer : Except Failure Histogram) : KeepsQueries app (app.receiveHistogram key answer) := by
  obtain ⟨notices, same⟩ := app.receiveHistogram_writes key answer
  rw [same]
  exact .of_assignments_eq rfl rfl rfl

theorem receiveLeveling_keepsQueries (app : Application) (ticket : LevelingTicket)
    (answer : Except Failure LevelingOutcome) :
    KeepsQueries app (app.receiveLeveling ticket answer) := by
  obtain ⟨leveling, same | ⟨status, notices, same⟩⟩ := app.receiveLeveling_cases ticket answer
  · rw [same]
    exact .of_assignments_eq rfl rfl rfl
  · rw [same]
    refine KeepsQueries.trans ?_ (refetchAll_keepsQueries _)
    exact .of_assignments_eq rfl rfl rfl

/-- The listed resources want their assignments in the present range. -/
def WantsListed (app : Application) : Prop :=
  ∀ resource ∈ app.listed,
    (app.assignmentQuery resource).wanted = some ⟨resource, app.view.range⟩

/-- Each query mentions keys of its own resource only. -/
def KeyedByResource (app : Application) : Prop :=
  ∀ resource, (app.assignmentQuery resource).KeyedBy fun key => key.resource = resource

theorem KeepsQueries.wantsListed {before after : Application} (kept : KeepsQueries before after)
    (wants : WantsListed before) : WantsListed after := by
  intro resource member
  rw [kept.wanted, kept.range]
  exact wants resource (kept.listed ▸ member)

theorem KeepsQueries.keyedByResource {before after : Application}
    (kept : KeepsQueries before after) (keyed : KeyedByResource before) :
    KeyedByResource after := fun resource => kept.keyed resource _ (keyed resource)

theorem requestAssignmentsOf_keyedByResource {app : Application} (keyed : KeyedByResource app)
    (resource : Identifier) : KeyedByResource (app.requestAssignmentsOf resource) := by
  obtain ⟨tasks, same⟩ := app.requestAssignmentsOf_eq resource
  rw [same]
  intro other
  rw [assignmentQuery, assignmentQuery_insert]
  split
  next own =>
    rw [own]
    exact (keyed resource).request fun _ => rfl
  next => exact keyed other

theorem requestAssignments_keyedByResource {app : Application} (keyed : KeyedByResource app) :
    KeyedByResource app.requestAssignments :=
  List.foldlRecOn app.listed requestAssignmentsOf keyed fun _ keyed resource _ =>
    requestAssignmentsOf_keyedByResource keyed resource

/-- A resource that was asked for, now or before, wants its assignments in the range. -/
theorem requestAssignmentsOf_wanted (app : Application) {resource other : Identifier}
    (asked : other = resource ∨
      (app.assignmentQuery other).wanted = some ⟨other, app.view.range⟩) :
    ((app.requestAssignmentsOf resource).assignmentQuery other).wanted =
      some ⟨other, app.view.range⟩ := by
  obtain ⟨tasks, same⟩ := app.requestAssignmentsOf_eq resource
  rw [same, assignmentQuery, assignmentQuery_insert]
  split
  next own => rw [Query.request_wanted, own]
  next different => exact asked.resolve_left different

theorem requestAssignmentsOf_range (app : Application) (resource : Identifier) :
    (app.requestAssignmentsOf resource).view.range = app.view.range :=
  (requestAssignmentsOf_keepsInputs app resource).settings.range

theorem foldl_requestAssignmentsOf_wanted (resources : List Identifier) {app : Application}
    {other : Identifier}
    (asked : other ∈ resources ∨
      (app.assignmentQuery other).wanted = some ⟨other, app.view.range⟩) :
    ((resources.foldl requestAssignmentsOf app).assignmentQuery other).wanted =
      some ⟨other, app.view.range⟩ := by
  induction resources generalizing app with
  | nil => exact asked.resolve_left List.not_mem_nil
  | cons resource rest induction =>
      rw [← requestAssignmentsOf_range app resource]
      apply induction
      rw [requestAssignmentsOf_range]
      rcases asked with member | before
      · rcases List.mem_cons.1 member with own | later
        · exact Or.inr (requestAssignmentsOf_wanted app (Or.inl own))
        · exact Or.inl later
      · exact Or.inr (requestAssignmentsOf_wanted app (Or.inr before))

theorem requestAssignments_wantsListed (app : Application) :
    WantsListed app.requestAssignments := by
  have kept := requestAssignments_keepsInputs app
  intro resource member
  rw [listed_congr kept.resources] at member
  rw [kept.settings.range]
  exact foldl_requestAssignmentsOf_wanted app.listed (Or.inl member)

theorem filterKeys_keyedByResource {before after : Application} {listed : Identifier → Bool}
    (keyed : KeyedByResource before)
    (assignments : after.assignments = before.assignments.filterKeys listed) :
    KeyedByResource after := by
  intro resource
  rw [assignmentQuery, assignments, OrderedMap.find?_filterKeys]
  split
  · exact keyed resource
  · exact .initial

theorem perform_keepsQueries {effect : Effect} (app : Application)
    (notFetched : effect ≠ .fetchAssignments) : KeepsQueries app (app.perform effect) := by
  cases effect with
  | fetchAssignments => exact absurd rfl notFetched
  | fetchHistogram => exact requestHistogram_keepsQueries app
  | refetch => exact refetchAll_keepsQueries app
  | deleteAssignment assignment => exact deleteAssignment_keepsQueries app assignment
  | leveling ticket => exact sendLeveling_keepsQueries app ticket
  | exportUtilization =>
      simp only [perform]
      split
      all_goals exact .of_assignments_eq rfl rfl rfl
  | openSettingsFolder | showAbout | notify => exact .of_assignments_eq rfl rfl rfl

theorem WantsListed.perform {app : Application} (wants : WantsListed app) (effect : Effect) :
    WantsListed (app.perform effect) := by
  by_cases fetched : effect = .fetchAssignments
  · subst fetched
    exact requestAssignments_wantsListed app
  · exact (perform_keepsQueries app fetched).wantsListed wants

theorem KeyedByResource.perform {app : Application} (keyed : KeyedByResource app)
    (effect : Effect) : KeyedByResource (app.perform effect) := by
  by_cases fetched : effect = .fetchAssignments
  · subst fetched
    exact requestAssignments_keyedByResource keyed
  · exact (perform_keepsQueries app fetched).keyedByResource keyed

theorem WantsListed.run? {before after : Application} {command : Command}
    (wants : WantsListed before) (done : before.run? command = some after) :
    WantsListed after := by
  obtain ⟨⟨view, effects⟩, dispatched, performed⟩ := Option.map_eq_some_iff.1 done
  subst performed
  have kept : ∀ app effect, WantsListed app → WantsListed (app.perform effect) :=
    fun _ effect wants => wants.perform effect
  have established : ∀ app : Application, WantsListed (app.perform .fetchAssignments) :=
    requestAssignments_wantsListed
  refine performAll_of_established kept established effects ?_
  rcases (ViewState.dispatch?_chosen dispatched).range with same | fetched
  · refine Or.inl fun resource member => ?_
    rw [same]
    exact wants resource member
  · exact Or.inr fetched

theorem KeyedByResource.run? {before after : Application} {command : Command}
    (keyed : KeyedByResource before) (done : before.run? command = some after) :
    KeyedByResource after := by
  obtain ⟨⟨view, effects⟩, _, performed⟩ := Option.map_eq_some_iff.1 done
  subst performed
  have start : KeyedByResource { before with view } := keyed
  have kept : ∀ app effect, KeyedByResource app → KeyedByResource (app.perform effect) :=
    fun _ effect keyed => keyed.perform effect
  exact performAll_of_kept kept effects start

/-- Only a list of resources that counts changes what is wanted, and then it is asked for. -/
theorem receive_cases (app : Application) (event : Event) :
    KeepsQueries app (app.receive event) ∨
      ∃ resources listed dataRevision status,
        app.receive event =
          requestAssignments
            { app with
              resources, dataRevision, status,
              assignments := app.assignments.filterKeys listed } := by
  cases event with
  | resources program answer =>
      rcases app.receiveResources_cases program answer with ⟨_, _, _, kept, same⟩ | counted
      · rw [receive, same]
        exact Or.inl (.of_assignments_eq rfl kept rfl)
      · exact Or.inr counted
  | assignments key answer => exact Or.inl (receiveAssignments_keepsQueries app key answer)
  | histogram key answer => exact Or.inl (receiveHistogram_keepsQueries app key answer)
  | leveling ticket answer => exact Or.inl (receiveLeveling_keepsQueries app ticket answer)
  | deleted _ assignment answer => exact Or.inl (finishDeletion_keepsQueries app assignment answer)

theorem WantsListed.receive {app : Application} (wants : WantsListed app) (event : Event) :
    WantsListed (app.receive event) := by
  rcases app.receive_cases event with kept | ⟨_, _, _, _, same⟩
  · exact kept.wantsListed wants
  · rw [same]
    exact requestAssignments_wantsListed _

theorem KeyedByResource.receive {app : Application} (keyed : KeyedByResource app)
    (event : Event) : KeyedByResource (app.receive event) := by
  rcases app.receive_cases event with kept | ⟨_, listed, _, _, same⟩
  · exact kept.keyedByResource keyed
  · rw [same]
    exact requestAssignments_keyedByResource (filterKeys_keyedByResource keyed rfl)

theorem requestResources_keepsQueries (app : Application) :
    KeepsQueries app app.requestResources := by
  have resources := (requestResources_keepsInputs app).resources
  obtain ⟨_, status, tasks, same⟩ := app.requestResources_writes
  rw [same] at resources ⊢
  exact .of_assignments_eq rfl resources rfl

theorem WantsListed.initial (program : Option Identifier) (range : DayRange) (scale : Scale) :
    WantsListed (.initial program range scale) := by
  apply (requestResources_keepsQueries _).wantsListed
  intro resource member
  cases member

theorem KeyedByResource.initial (program : Option Identifier) (range : DayRange) (scale : Scale) :
    KeyedByResource (.initial program range scale) := by
  apply (requestResources_keepsQueries _).keyedByResource
  intro resource
  exact .initial

theorem Reachable.wantsListed {app : Application} (reachable : Reachable app) :
    WantsListed app := by
  refine reachable.induction WantsListed.initial ?_
  intro before after step wants
  cases step with
  | command done => exact wants.run? done
  | event event => exact wants.receive event
  | refresh done =>
      obtain ⟨grid, gridKey, rfl⟩ := refresh?_writes done
      exact wants
  | surroundings => exact wants

theorem Reachable.keyedByResource {app : Application} (reachable : Reachable app) :
    KeyedByResource app := by
  refine reachable.induction KeyedByResource.initial ?_
  intro before after step keyed
  cases step with
  | command done => exact keyed.run? done
  | event event => exact keyed.receive event
  | refresh done =>
      obtain ⟨grid, gridKey, rfl⟩ := refresh?_writes done
      exact keyed
  | surroundings => exact keyed

end Application

end LoadChart
