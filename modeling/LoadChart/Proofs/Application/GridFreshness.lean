import LoadChart.Proofs.Application.History
import LoadChart.Proofs.View.Revision

/-!
# The grid is never stale

The grid is built again only if a revision has moved on.  Every step either leaves all that the
grid is built from as it was, or moves a revision on; so a grid whose key is the present one is
the grid that would be built now, and a refresh always agrees with building from nothing.
-/

namespace LoadChart

namespace Application

/-- The second state has the grid of the first, and all that a grid is built from. -/
structure KeepsInputs (before after : Application) : Prop where
  grid : after.grid = before.grid
  gridKey : after.gridKey = before.gridKey
  viewRevision : after.view.revision = before.view.revision
  settings : after.view.SameSettings before.view
  dataRevision : after.dataRevision = before.dataRevision
  resources : after.resources.value? = before.resources.value?
  records : ∀ resource, after.recordsOf? resource = before.recordsOf? resource

/-- The second state has the grid of the first, and a grid key of which no revision has moved on
still stands for the same grid. -/
structure Follows (before after : Application) : Prop where
  grid : after.grid = before.grid
  gridKey : after.gridKey = before.gridKey
  view_le : before.view.revision ≤ after.view.revision
  data_le : before.dataRevision ≤ after.dataRevision
  fresh : after.presentKey = before.presentKey → after.freshGrid? = before.freshGrid?

/-- The grid is built from the settings of the view, the resources and the records alone. -/
theorem freshGrid?_congr {left right : Application} (settings : left.view.SameSettings right.view)
    (resources : left.resources.value? = right.resources.value?)
    (records : ∀ resource, left.recordsOf? resource = right.recordsOf? resource) :
    left.freshGrid? = right.freshGrid? := by
  unfold freshGrid? Grid.build? ViewState.columns?
  rw [records_congr records, resources, settings.range, settings.scale, settings.filter,
    settings.showUtilization]

namespace KeepsInputs

theorem refl (app : Application) : KeepsInputs app app :=
  ⟨rfl, rfl, rfl, .refl _, rfl, rfl, fun _ => rfl⟩

theorem trans {first second third : Application} (left : KeepsInputs first second)
    (right : KeepsInputs second third) : KeepsInputs first third where
  grid := right.grid.trans left.grid
  gridKey := right.gridKey.trans left.gridKey
  viewRevision := right.viewRevision.trans left.viewRevision
  settings :=
    { range := right.settings.range.trans left.settings.range
      scale := right.settings.scale.trans left.settings.scale
      showUtilization := right.settings.showUtilization.trans left.settings.showUtilization
      highlightOverallocations := right.settings.highlightOverallocations.trans
        left.settings.highlightOverallocations
      filter := right.settings.filter.trans left.settings.filter }
  dataRevision := right.dataRevision.trans left.dataRevision
  resources := right.resources.trans left.resources
  records := fun resource => (right.records resource).trans (left.records resource)

theorem foldl {α : Type} {step : Application → α → Application}
    (kept : ∀ app item, KeepsInputs app (step app item)) (items : List α) (app : Application) :
    KeepsInputs app (items.foldl step app) := by
  induction items generalizing app with
  | nil => exact .refl app
  | cons item items induction => exact (kept app item).trans (induction (step app item))

theorem follows {before after : Application} (kept : KeepsInputs before after) :
    Follows before after where
  grid := kept.grid
  gridKey := kept.gridKey
  view_le := Nat.le_of_eq kept.viewRevision.symm
  data_le := Nat.le_of_eq kept.dataRevision.symm
  fresh := fun _ => freshGrid?_congr kept.settings kept.resources kept.records

end KeepsInputs

namespace Follows

theorem trans {first second third : Application} (left : Follows first second)
    (right : Follows second third) : Follows first third where
  grid := right.grid.trans left.grid
  gridKey := right.gridKey.trans left.gridKey
  view_le := Nat.le_trans left.view_le right.view_le
  data_le := Nat.le_trans left.data_le right.data_le
  fresh := by
    intro same
    obtain ⟨sameView, sameData⟩ := GridKey.mk.inj same
    have firstKey : second.presentKey = first.presentKey := by
      have viewLe := left.view_le
      have viewGe := right.view_le
      have dataLe := left.data_le
      have dataGe := right.data_le
      simp only [presentKey, GridKey.mk.injEq]
      omega
    exact (right.fresh (same.trans firstKey.symm)).trans (left.fresh firstKey)

/-- Where the data revision has moved on, nothing else needs to be known. -/
theorem of_dataRevision {before after : Application} (grid : after.grid = before.grid)
    (gridKey : after.gridKey = before.gridKey) (view : after.view = before.view)
    (moved : after.dataRevision = before.dataRevision + 1) : Follows before after where
  grid := grid
  gridKey := gridKey
  view_le := Nat.le_of_eq (congrArg ViewState.revision view.symm)
  data_le := by omega
  fresh := by
    intro same
    have sameData := (GridKey.mk.inj same).2
    omega

end Follows

theorem requestResources_keepsInputs (app : Application) :
    KeepsInputs app app.requestResources := by
  unfold requestResources
  split
  · exact ⟨rfl, rfl, rfl, .refl _, rfl, rfl, fun _ => rfl⟩
  next program _ =>
    have resources : (app.resources.request program).1.value? = app.resources.value? :=
      Query.request_value? app.resources program
    dsimp only
    split
    all_goals exact ⟨rfl, rfl, rfl, .refl _, rfl, resources, fun _ => rfl⟩

/-- A query put in the place of one with the same data, or of none, changes no records. -/
theorem recordsOf?_insert (app : Application) (resource : Identifier) {query : AssignmentQuery}
    (same : query.value? = (app.assignmentQuery resource).value?) (other : Identifier) :
    ((app.assignments.insert resource query).find? other).bind Query.value? =
      app.recordsOf? other := by
  by_cases equal : other = resource
  · subst equal
    rw [OrderedMap.find?_insert_self, Option.bind_some, same, recordsOf?, assignmentQuery]
    cases app.assignments.find? other <;> rfl
  · rw [OrderedMap.find?_insert_of_ne _ equal, recordsOf?]

theorem requestAssignmentsOf_keepsInputs (app : Application) (resource : Identifier) :
    KeepsInputs app (app.requestAssignmentsOf resource) := by
  have records := recordsOf?_insert app resource
    (Query.request_value? (app.assignmentQuery resource) ⟨resource, app.view.range⟩)
  unfold requestAssignmentsOf
  dsimp only
  split
  all_goals exact ⟨rfl, rfl, rfl, .refl _, rfl, rfl, records⟩

theorem requestAssignments_keepsInputs (app : Application) :
    KeepsInputs app app.requestAssignments :=
  .foldl requestAssignmentsOf_keepsInputs app.listed app

theorem requestHistogram_keepsInputs (app : Application) :
    KeepsInputs app app.requestHistogram := by
  unfold requestHistogram
  split
  · exact .refl app
  · dsimp only
    split
    all_goals exact ⟨rfl, rfl, rfl, .refl _, rfl, rfl, fun _ => rfl⟩

theorem refetchResources_keepsInputs (app : Application) :
    KeepsInputs app app.refetchResources := by
  unfold refetchResources
  split
  · exact requestResources_keepsInputs app
  · dsimp only
    split
    all_goals exact ⟨rfl, rfl, rfl, .refl _, rfl, rfl, fun _ => rfl⟩

theorem refetchAssignments_keepsInputs (app : Application) :
    KeepsInputs app app.refetchAssignments := by
  refine ⟨rfl, rfl, rfl, .refl _, rfl, rfl, ?_⟩
  intro resource
  simp only [recordsOf?, refetchAssignments, OrderedMap.find?_mapValues]
  cases app.assignments.find? resource <;> rfl

theorem refetchHistogram_keepsInputs (app : Application) :
    KeepsInputs app app.refetchHistogram := by
  unfold refetchHistogram
  dsimp only
  split
  all_goals exact ⟨rfl, rfl, rfl, .refl _, rfl, rfl, fun _ => rfl⟩

theorem refetchAll_keepsInputs (app : Application) : KeepsInputs app app.refetchAll :=
  ((refetchResources_keepsInputs app).trans (refetchAssignments_keepsInputs _)).trans
    (refetchHistogram_keepsInputs _)

theorem receiveHistogram_keepsInputs (app : Application) (key : HistogramKey)
    (answer : Except Failure Histogram) : KeepsInputs app (app.receiveHistogram key answer) := by
  unfold receiveHistogram
  dsimp only
  split
  all_goals exact ⟨rfl, rfl, rfl, .refl _, rfl, rfl, fun _ => rfl⟩

theorem receiveLeveling_keepsInputs (app : Application) (ticket : LevelingTicket)
    (answer : Except Failure LevelingOutcome) :
    KeepsInputs app (app.receiveLeveling ticket answer) := by
  unfold receiveLeveling
  dsimp only
  split
  · exact ⟨rfl, rfl, rfl, ⟨rfl, rfl, rfl, rfl, rfl⟩, rfl, rfl, fun _ => rfl⟩
  · refine KeepsInputs.trans ?_ (refetchAll_keepsInputs _)
    exact ⟨rfl, rfl, rfl, ⟨rfl, rfl, rfl, rfl, rfl⟩, rfl, rfl, fun _ => rfl⟩

theorem sendLeveling_keepsInputs (app : Application) (ticket : LevelingTicket) :
    KeepsInputs app (app.sendLeveling ticket) := by
  unfold sendLeveling
  split
  all_goals exact ⟨rfl, rfl, rfl, ⟨rfl, rfl, rfl, rfl, rfl⟩, rfl, rfl, fun _ => rfl⟩

theorem deleteAssignment_follows (app : Application) (assignment : Identifier) :
    Follows app (app.deleteAssignment assignment) := by
  unfold deleteAssignment
  split
  · exact (KeepsInputs.refl app).follows
  · exact .of_dataRevision rfl rfl rfl rfl

theorem finishDeletion_follows (app : Application) (assignment : Identifier)
    (answer : Except Failure Unit) : Follows app (app.finishDeletion assignment answer) := by
  unfold finishDeletion
  split
  · exact (KeepsInputs.refl app).follows
  · cases answer with
    | ok => exact KeepsInputs.follows ⟨rfl, rfl, rfl, .refl _, rfl, rfl, fun _ => rfl⟩
    | error failure => exact .of_dataRevision rfl rfl rfl rfl

theorem receiveResources_follows (app : Application) (program : Identifier)
    (answer : Except Failure (List Resource)) :
    Follows app (app.receiveResources program answer) := by
  unfold receiveResources
  dsimp only
  split
  next superseded =>
    have resources := Query.resolve_value?_of_superseded superseded
    exact KeepsInputs.follows ⟨rfl, rfl, rfl, .refl _, rfl, resources, fun _ => rfl⟩
  · cases answer with
    | ok list =>
        refine Follows.trans ?_ (requestAssignments_keepsInputs _).follows
        exact .of_dataRevision rfl rfl rfl rfl
    | error failure =>
        dsimp only
        split
        all_goals exact .of_dataRevision rfl rfl rfl rfl

theorem receiveAssignments_follows (app : Application) (key : AssignmentsKey)
    (answer : Except Failure (List AssignmentRecord)) :
    Follows app (app.receiveAssignments key answer) := by
  unfold receiveAssignments
  dsimp only
  split
  next superseded =>
    have records := recordsOf?_insert app key.resource
      (Query.resolve_value?_of_superseded superseded)
    exact KeepsInputs.follows ⟨rfl, rfl, rfl, .refl _, rfl, rfl, records⟩
  · cases answer
    all_goals exact .of_dataRevision rfl rfl rfl rfl

theorem receive_follows (app : Application) (event : Event) : Follows app (app.receive event) := by
  cases event with
  | resources program answer => exact receiveResources_follows app program answer
  | assignments key answer => exact receiveAssignments_follows app key answer
  | histogram key answer => exact (receiveHistogram_keepsInputs app key answer).follows
  | leveling ticket answer => exact (receiveLeveling_keepsInputs app ticket answer).follows
  | deleted _ assignment answer => exact finishDeletion_follows app assignment answer

theorem perform_follows (app : Application) (effect : Effect) :
    Follows app (app.perform effect) := by
  cases effect with
  | fetchAssignments => exact (requestAssignments_keepsInputs app).follows
  | fetchHistogram => exact (requestHistogram_keepsInputs app).follows
  | refetch => exact (refetchAll_keepsInputs app).follows
  | deleteAssignment assignment => exact deleteAssignment_follows app assignment
  | leveling ticket => exact (sendLeveling_keepsInputs app ticket).follows
  | exportUtilization =>
      unfold perform
      dsimp only
      split
      all_goals exact KeepsInputs.follows ⟨rfl, rfl, rfl, .refl _, rfl, rfl, fun _ => rfl⟩
  | openSettingsFolder | showAbout | notify =>
      exact KeepsInputs.follows ⟨rfl, rfl, rfl, .refl _, rfl, rfl, fun _ => rfl⟩

theorem performAll_follows (effects : List Effect) (app : Application) :
    Follows app (effects.foldl perform app) := by
  induction effects generalizing app with
  | nil => exact (KeepsInputs.refl app).follows
  | cons effect effects induction =>
      exact (perform_follows app effect).trans (induction (app.perform effect))

/-- A view whose revision moves with its settings may be put in place. -/
theorem Follows.of_revised {app : Application} {view : ViewState}
    (revised : app.view.Revised view) : Follows app { app with view } := by
  rcases revised with moved | ⟨same, settings⟩
  · refine ⟨rfl, rfl, ?_, Nat.le_refl _, ?_⟩
    · simp [moved]
    · intro same
      have sameView := (GridKey.mk.inj same).1
      simp [moved] at sameView
  · exact KeepsInputs.follows ⟨rfl, rfl, same, settings, rfl, rfl, fun _ => rfl⟩

theorem run?_follows {before after : Application} {command : Command}
    (done : before.run? command = some after) : Follows before after := by
  obtain ⟨⟨view, effects⟩, dispatched, performed⟩ := Option.map_eq_some_iff.1 done
  subst performed
  exact (Follows.of_revised (ViewState.dispatch?_revised dispatched)).trans
    (performAll_follows effects _)

/-- The key of the grid is not ahead of the revisions, and if it is the present one the grid is
the one that would be built now. -/
structure GridCurrent (app : Application) : Prop where
  view_le : ∀ key, app.gridKey = some key → key.view ≤ app.view.revision
  data_le : ∀ key, app.gridKey = some key → key.data ≤ app.dataRevision
  fresh : app.gridKey = some app.presentKey → app.freshGrid? = some app.grid

theorem GridCurrent.of_follows {before after : Application} (current : GridCurrent before)
    (follows : Follows before after) : GridCurrent after where
  view_le := by
    intro key isKey
    rw [follows.gridKey] at isKey
    exact Nat.le_trans (current.view_le key isKey) follows.view_le
  data_le := by
    intro key isKey
    rw [follows.gridKey] at isKey
    exact Nat.le_trans (current.data_le key isKey) follows.data_le
  fresh := by
    intro isKey
    rw [follows.gridKey] at isKey
    have samePresent : after.presentKey = before.presentKey := by
      have viewLe : after.view.revision ≤ before.view.revision := current.view_le _ isKey
      have dataLe : after.dataRevision ≤ before.dataRevision := current.data_le _ isKey
      have viewGe := follows.view_le
      have dataGe := follows.data_le
      simp only [presentKey, GridKey.mk.injEq]
      omega
    rw [follows.fresh samePresent, follows.grid]
    exact current.fresh (samePresent ▸ isKey)

/-- The grid built afresh, with the key of the present revisions. -/
def rebuild? (app : Application) : Option Application :=
  app.freshGrid?.map fun grid => { app with grid, gridKey := some app.presentKey }

theorem GridCurrent.of_rebuild? {before after : Application}
    (done : before.rebuild? = some after) : GridCurrent after := by
  obtain ⟨grid, built, same⟩ := Option.map_eq_some_iff.1 done
  subst same
  constructor
  · intro key isKey
    cases isKey
    exact Nat.le_refl _
  · intro key isKey
    cases isKey
    exact Nat.le_refl _
  · intro _
    exact built

/-- A refresh of a state that keeps the invariant does what building afresh does. -/
theorem GridCurrent.refresh?_eq {app : Application} (current : GridCurrent app) :
    app.refresh? = app.rebuild? := by
  unfold refresh? rebuild?
  split
  next isKey =>
    rw [current.fresh isKey, Option.map_some, ← isKey]
  · rfl

theorem GridCurrent.step {before after : Application} (step : Step before after)
    (current : GridCurrent before) : GridCurrent after := by
  cases step with
  | command done => exact current.of_follows (run?_follows done)
  | event event => exact current.of_follows (receive_follows before event)
  | refresh done =>
      rw [current.refresh?_eq] at done
      exact .of_rebuild? done
  | surroundings status notices showAbout outbox =>
      exact current.of_follows
        (KeepsInputs.follows ⟨rfl, rfl, rfl, .refl _, rfl, rfl, fun _ => rfl⟩)

theorem GridCurrent.initial (program : Option Identifier) (range : DayRange) (scale : Scale) :
    GridCurrent (.initial program range scale) := by
  refine GridCurrent.of_follows ?_ (requestResources_keepsInputs _).follows
  constructor
  · intro key isKey
    cases isKey
  · intro key isKey
    cases isKey
  · intro isKey
    cases isKey

/-- In every reachable state a refresh, also one that finds its key unchanged, is the same as
building the grid from nothing; so the grid after it is the one that the view, the resources and
the assignments then give. -/
theorem refresh?_never_stale {app : Application} (reachable : Reachable app) :
    app.refresh? = app.rebuild? ∧
      ∀ refreshed, app.refresh? = some refreshed →
        refreshed.freshGrid? = some refreshed.grid := by
  have current : GridCurrent app := reachable.induction GridCurrent.initial GridCurrent.step
  refine ⟨current.refresh?_eq, ?_⟩
  intro refreshed done
  rw [current.refresh?_eq] at done
  obtain ⟨grid, built, same⟩ := Option.map_eq_some_iff.1 done
  subst same
  exact built

def sampleWholeWeek : DayRange :=
  ⟨⟨740000, by decide, by decide⟩, ⟨740006, by decide, by decide⟩, by decide⟩

def sampleAssigned : AssignmentRecord :=
  ⟨⟨5⟩, ⟨6⟩, ⟨1⟩, 1, some sampleWholeWeek.first, some sampleWholeWeek.last, none⟩

def sampleTwoListed : Application :=
  (Application.initial (some ⟨7⟩) sampleWholeWeek .days).receive
    (.resources ⟨7⟩ (.ok [.ofCode ⟨1⟩ "R" "R" .labor, .ofCode ⟨2⟩ "S" "S" .equipment]))

def sampleOneFilled : Application :=
  sampleTwoListed.receive (.assignments ⟨⟨1⟩, sampleWholeWeek⟩ (.ok [sampleAssigned]))

def sampleToggled : Application := (sampleOneFilled.run? .toggleUtilization).getD sampleOneFilled

def sampleBuilt : Application := sampleToggled.refresh?.getD sampleToggled

/-- After the grid was built, an answer came that nobody waits for. -/
def sampleUnmoved : Application :=
  sampleBuilt.receive (.assignments
    ⟨⟨2⟩, ⟨sampleWholeWeek.first, sampleWholeWeek.first, Int.le_refl _⟩⟩ (.ok [sampleAssigned]))

/-- The second refresh finds its key unchanged, and the grid with its two lanes is the present one.
-/
theorem refresh?_never_stale_unchanged :
    sampleUnmoved.gridKey = some sampleUnmoved.presentKey ∧
      sampleUnmoved.refresh? = some sampleUnmoved ∧
      sampleUnmoved.freshGrid? = some sampleUnmoved.grid ∧
      sampleUnmoved.grid.lanes.map (·.assignments.length) = [1, 0] := by
  have toggled : sampleOneFilled.run? .toggleUtilization = some sampleToggled := rfl
  have built : sampleToggled.refresh? = some sampleBuilt := rfl
  have again : sampleUnmoved.refresh? = some sampleUnmoved := rfl
  have listed : Reachable sampleTwoListed :=
    ⟨some ⟨7⟩, sampleWholeWeek, .days, .single (.event _ _)⟩
  have reachable : Reachable sampleUnmoved := by
    obtain ⟨program, range, scale, steps⟩ := listed
    exact ⟨program, range, scale,
      (((steps.tail (.event _ _)).tail (.command toggled)).tail (.refresh built)).tail (.event _ _)⟩
  exact ⟨rfl, again, (refresh?_never_stale reachable).2 sampleUnmoved again, rfl⟩

end Application

end LoadChart
