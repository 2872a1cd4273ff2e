import LoadChart.Panel.Sidebar
import LoadChart.Proofs.Application.GridFreshness
import LoadChart.Proofs.Application.History
import LoadChart.Proofs.Application.Writes
import LoadChart.Proofs.Query.Keys
import LoadChart.Proofs.Resource.Buckets
import LoadChart.Proofs.View.Choice

/-!
# The histogram belongs to the selection

Whatever changes the selected resource, the range or the scale also has the histogram for them asked
for, so the wanted histogram is always that of the selection.  The side bar shows a histogram of the
service only if it is the wanted one, and then it came as the answer to the request for it.
-/

namespace LoadChart

namespace ViewState

/-- The key of the histogram for what is selected, if something is. -/
def selectionKey? (view : ViewState) : Option HistogramKey :=
  view.selectedResource.map fun resource => ⟨resource, view.range, view.scale.granularity⟩

theorem SameChoice.selectionKey? {left right : ViewState} (same : left.SameChoice right) :
    left.selectionKey? = right.selectionKey? := by
  simp [ViewState.selectionKey?, same.range, same.scale, same.selectedResource]

theorem fetchHistogram_mem_histogramEffects {view : ViewState}
    (selected : view.selectionKey? ≠ none) : .fetchHistogram ∈ view.histogramEffects := by
  unfold histogramEffects
  rw [if_pos]
  · exact List.mem_cons_self
  · simpa [selectionKey?, Option.isSome_iff_ne_none] using selected

/-- What is selected is kept, or nothing is, or its histogram is left to be fetched. -/
theorem Chosen.selection {before after : ViewState} {effects : List Effect}
    (chosen : before.Chosen after effects) :
    after.selectionKey? = before.selectionKey? ∨ after.selectionKey? = none ∨
      .fetchHistogram ∈ effects := by
  by_cases selected : after.selectionKey? = none
  · exact Or.inr (Or.inl selected)
  have fetched := fetchHistogram_mem_histogramEffects selected
  rcases chosen with same | ⟨_, rfl⟩ | rfl
  · exact Or.inl same.selectionKey?
  · exact Or.inr (Or.inr fetched)
  · exact Or.inr (Or.inr (List.mem_cons_of_mem _ fetched))

end ViewState

namespace Application

/-- The selection and the histogram are kept, and no task is lost. -/
structure KeepsHistogram (before after : Application) : Prop where
  selection : after.view.selectionKey? = before.view.selectionKey?
  histogram : after.histogram = before.histogram
  outbox : before.outbox ⊆ after.outbox

theorem KeepsHistogram.trans {first second third : Application}
    (left : KeepsHistogram first second) (right : KeepsHistogram second third) :
    KeepsHistogram first third where
  selection := right.selection.trans left.selection
  histogram := right.histogram.trans left.histogram
  outbox := List.Subset.trans left.outbox right.outbox

theorem requestResources_keepsHistogram (app : Application) :
    KeepsHistogram app app.requestResources := by
  obtain ⟨resources, status, tasks, same⟩ := app.requestResources_writes
  rw [same]
  exact ⟨rfl, rfl, List.subset_append_left _ _⟩

theorem requestAssignments_keepsHistogram (app : Application) :
    KeepsHistogram app app.requestAssignments := by
  obtain ⟨assignments, tasks, same⟩ := app.requestAssignments_writes
  rw [same]
  exact ⟨rfl, rfl, List.subset_append_left _ _⟩

/-- What comes before the histogram when everything is asked for again. -/
theorem refetchLists_keepsHistogram (app : Application) :
    KeepsHistogram app app.refetchResources.refetchAssignments := by
  obtain ⟨resources, status, tasks, same⟩ := app.refetchResources_writes
  rw [same]
  refine ⟨rfl, rfl, ?_⟩
  exact List.Subset.trans (List.subset_append_left _ _) (List.subset_append_left _ _)

theorem perform_keepsHistogram {effect : Effect} (app : Application)
    (notFetched : effect ≠ .fetchHistogram) (notRefetched : effect ≠ .refetch) :
    KeepsHistogram app (app.perform effect) := by
  cases effect with
  | fetchAssignments => exact requestAssignments_keepsHistogram app
  | fetchHistogram => exact absurd rfl notFetched
  | refetch => exact absurd rfl notRefetched
  | deleteAssignment assignment =>
      obtain ⟨_, _, _, _, tasks, same⟩ := app.deleteAssignment_writes assignment
      rw [perform, same]
      exact ⟨rfl, rfl, List.subset_append_left _ _⟩
  | leveling ticket =>
      obtain ⟨_, tasks, same⟩ := app.sendLeveling_writes ticket
      rw [perform, same]
      exact ⟨rfl, rfl, List.subset_append_left _ _⟩
  | exportUtilization =>
      unfold perform
      dsimp only
      split
      all_goals exact ⟨rfl, rfl, List.Subset.refl _⟩
  | openSettingsFolder | showAbout | notify => exact ⟨rfl, rfl, List.Subset.refl _⟩

theorem receiveResources_keepsHistogram (app : Application) (program : Identifier)
    (answer : Except Failure (List Resource)) :
    KeepsHistogram app (app.receiveResources program answer) := by
  rcases app.receiveResources_cases program answer with
    ⟨_, _, _, _, same⟩ | ⟨resources, listed, revision, status, same⟩
  · rw [same]
    exact ⟨rfl, rfl, List.Subset.refl _⟩
  · rw [same]
    refine KeepsHistogram.trans ?_ (requestAssignments_keepsHistogram _)
    exact ⟨rfl, rfl, List.Subset.refl _⟩

theorem receiveAssignments_keepsHistogram (app : Application) (key : AssignmentsKey)
    (answer : Except Failure (List AssignmentRecord)) :
    KeepsHistogram app (app.receiveAssignments key answer) := by
  obtain ⟨_, _, same⟩ := app.receiveAssignments_writes key answer
  rw [same]
  exact ⟨rfl, rfl, List.Subset.refl _⟩

theorem finishDeletion_keepsHistogram (app : Application) (assignment : Identifier)
    (answer : Except Failure Unit) : KeepsHistogram app (app.finishDeletion assignment answer) := by
  obtain ⟨_, _, _, _, _, same⟩ := app.finishDeletion_writes assignment answer
  rw [same]
  exact ⟨rfl, rfl, List.Subset.refl _⟩

/-- Every answer but one with a histogram leaves the histogram as it was, and then everything may be
asked for again. -/
theorem receive_cases_histogram (app : Application) (event : Event) :
    (∃ key answer, event = .histogram key answer) ∨
      ∃ between, KeepsHistogram app between ∧
        (app.receive event = between ∨ app.receive event = between.refetchAll) := by
  cases event with
  | resources program answer =>
      exact Or.inr ⟨_, receiveResources_keepsHistogram app program answer, Or.inl rfl⟩
  | assignments key answer =>
      exact Or.inr ⟨_, receiveAssignments_keepsHistogram app key answer, Or.inl rfl⟩
  | histogram key answer => exact Or.inl ⟨key, answer, rfl⟩
  | leveling ticket answer =>
      right
      obtain ⟨leveling, same | ⟨status, notices, same⟩⟩ := app.receiveLeveling_cases ticket answer
      · refine ⟨_, ?_, Or.inl same⟩
        exact ⟨rfl, rfl, List.Subset.refl _⟩
      · refine ⟨_, ?_, Or.inr same⟩
        exact ⟨rfl, rfl, List.Subset.refl _⟩
  | deleted _ assignment answer =>
      exact Or.inr ⟨_, finishDeletion_keepsHistogram app assignment answer, Or.inl rfl⟩

/-- The histogram of what is selected is wanted. -/
def WantsSelection (app : Application) : Prop :=
  ∀ key, app.view.selectionKey? = some key → app.histogram.wanted = some key

theorem WantsSelection.of_wanted_eq {before after : Application} (wants : WantsSelection before)
    (selection : after.view.selectionKey? = before.view.selectionKey?)
    (wanted : after.histogram.wanted = before.histogram.wanted) : WantsSelection after := by
  intro key selected
  rw [wanted]
  exact wants key (selection ▸ selected)

theorem WantsSelection.of_kept {before after : Application} (wants : WantsSelection before)
    (kept : KeepsHistogram before after) : WantsSelection after :=
  wants.of_wanted_eq kept.selection (congrArg Query.wanted kept.histogram)

theorem requestHistogram_of_selected {app : Application} {key : HistogramKey}
    (selected : app.view.selectionKey? = some key) :
    app.requestHistogram =
      { app with
        histogram := (app.histogram.request key).1
        outbox := app.outbox ++
          if (app.histogram.request key).2 then [.histogram key] else [] } := by
  obtain ⟨resource, isSelected, rfl⟩ := Option.map_eq_some_iff.1 selected
  unfold requestHistogram
  rw [isSelected]
  dsimp only
  split
  · rfl
  · rw [List.append_nil]

theorem requestHistogram_of_none {app : Application} (none : app.view.selectionKey? = none) :
    app.requestHistogram = app := by
  unfold requestHistogram
  rw [Option.map_eq_none_iff.1 none]

theorem requestHistogram_wantsSelection (app : Application) :
    WantsSelection app.requestHistogram := by
  cases selected : app.view.selectionKey? with
  | none =>
      rw [requestHistogram_of_none selected]
      intro key isKey
      rw [selected] at isKey
      cases isKey
  | some own =>
      rw [requestHistogram_of_selected selected]
      intro key isKey
      rw [Query.request_wanted]
      exact selected.symm.trans isKey

theorem WantsSelection.refetchAll {app : Application} (wants : WantsSelection app) :
    WantsSelection app.refetchAll := by
  have lists := wants.of_kept (refetchLists_keepsHistogram app)
  unfold Application.refetchAll
  rw [refetchHistogram_eq]
  exact lists.of_wanted_eq rfl rfl

theorem WantsSelection.perform {app : Application} (wants : WantsSelection app) (effect : Effect) :
    WantsSelection (app.perform effect) := by
  by_cases fetched : effect = .fetchHistogram
  · subst fetched
    exact requestHistogram_wantsSelection app
  by_cases refetched : effect = .refetch
  · subst refetched
    exact wants.refetchAll
  exact wants.of_kept (perform_keepsHistogram app fetched refetched)

theorem WantsSelection.run? {before after : Application} {command : Command}
    (wants : WantsSelection before) (done : before.run? command = some after) :
    WantsSelection after := by
  obtain ⟨⟨view, effects⟩, dispatched, performed⟩ := Option.map_eq_some_iff.1 done
  subst performed
  have kept : ∀ app effect, WantsSelection app → WantsSelection (app.perform effect) :=
    fun _ effect wants => wants.perform effect
  have established : ∀ app : Application, WantsSelection (app.perform .fetchHistogram) :=
    requestHistogram_wantsSelection
  refine performAll_of_established kept established effects ?_
  rcases (ViewState.dispatch?_chosen dispatched).selection with same | none | fetched
  · exact Or.inl (wants.of_wanted_eq same rfl)
  · refine Or.inl fun key selected => ?_
    rw [none] at selected
    cases selected
  · exact Or.inr fetched

theorem WantsSelection.receive {app : Application} (wants : WantsSelection app) (event : Event) :
    WantsSelection (app.receive event) := by
  rcases app.receive_cases_histogram event with
    ⟨key, answer, rfl⟩ | ⟨between, kept, same | same⟩
  · obtain ⟨_, same⟩ := app.receiveHistogram_writes key answer
    rw [Application.receive, same]
    exact wants.of_wanted_eq rfl (Query.resolve_wanted _ _ _)
  · rw [same]
    exact wants.of_kept kept
  · rw [same]
    exact (wants.of_kept kept).refetchAll

theorem WantsSelection.initial (program : Option Identifier) (range : DayRange) (scale : Scale) :
    WantsSelection (.initial program range scale) := by
  refine WantsSelection.of_kept ?_ (requestResources_keepsHistogram _)
  intro key selected
  cases selected

theorem WantsSelection.refresh? {before after : Application} (wants : WantsSelection before)
    (done : before.refresh? = some after) : WantsSelection after := by
  obtain ⟨grid, gridKey, rfl⟩ := refresh?_writes done
  exact wants

/-- The histogram was asked for under every key that the query mentions, and its data are an answer
that has arrived. -/
structure HistogramTraced (app : Application) (ledger : Ledger) : Prop where
  asked : app.histogram.KeyedBy fun key => .histogram key ∈ app.tasks ledger
  answered : ∀ key histogram, app.histogram.data = some (key, histogram) →
    .histogram key (.ok histogram) ∈ ledger.received

namespace HistogramTraced

variable {app : Application} {ledger : Ledger}

theorem of_kept {after : Application} (traced : HistogramTraced app ledger)
    (kept : KeepsHistogram app after) : HistogramTraced after ledger := by
  constructor
  · rw [kept.histogram]
    exact traced.asked.mono fun key member => mem_tasks_of_subset kept.outbox member
  · rw [kept.histogram]
    exact traced.answered

theorem requestHistogram (traced : HistogramTraced app ledger) :
    HistogramTraced app.requestHistogram ledger := by
  cases selected : app.view.selectionKey? with
  | none => rwa [requestHistogram_of_none selected]
  | some key =>
      rw [requestHistogram_of_selected selected]
      constructor
      · refine (traced.asked.mono fun own member => ?_).request fun isSent => ?_
        · exact mem_tasks_of_subset (List.subset_append_left _ _) member
        · rw [if_pos isSent]
          exact List.mem_append_right _ (List.mem_append_right _ (List.mem_singleton.2 rfl))
      · intro own histogram data
        exact traced.answered own histogram ((Query.request_data _ _).symm.trans data)

theorem refetchAll (traced : HistogramTraced app ledger) :
    HistogramTraced app.refetchAll ledger := by
  have lists := traced.of_kept (refetchLists_keepsHistogram app)
  unfold Application.refetchAll
  rw [refetchHistogram_eq]
  constructor
  · refine (lists.asked.mono fun key member => ?_).invalidate
    exact mem_tasks_of_subset (List.subset_append_left _ _) member
  · exact lists.answered

theorem perform (traced : HistogramTraced app ledger) (effect : Effect) :
    HistogramTraced (app.perform effect) ledger := by
  by_cases fetched : effect = .fetchHistogram
  · subst fetched
    exact traced.requestHistogram
  by_cases refetched : effect = .refetch
  · subst refetched
    exact traced.refetchAll
  exact traced.of_kept (perform_keepsHistogram app fetched refetched)

theorem run? {after : Application} {command : Command} (traced : HistogramTraced app ledger)
    (done : app.run? command = some after) : HistogramTraced after ledger := by
  obtain ⟨⟨view, effects⟩, _, performed⟩ := Option.map_eq_some_iff.1 done
  subst performed
  have start : HistogramTraced { app with view } ledger := ⟨traced.asked, traced.answered⟩
  have kept : ∀ app effect, HistogramTraced app ledger →
      HistogramTraced (app.perform effect) ledger := fun _ effect traced => traced.perform effect
  exact performAll_of_kept kept effects start

theorem receiveHistogram (traced : HistogramTraced app ledger) (key : HistogramKey)
    (answer : Except Failure Histogram) :
    HistogramTraced (app.receiveHistogram key answer) (ledger.receive (.histogram key answer)) := by
  obtain ⟨_, same⟩ := app.receiveHistogram_writes key answer
  rw [same]
  constructor
  · exact traced.asked.resolve key _
  · intro own histogram data
    rcases Query.resolve_data_eq_some data with before | ⟨_, rfl, succeeded⟩
    · exact ledger.received_subset_receive _ (traced.answered own histogram before)
    · cases answer with
      | ok value =>
          cases succeeded
          exact ledger.mem_received_receive _
      | error failure => cases succeeded

theorem enter (traced : HistogramTraced app ledger) (event : Event) :
    HistogramTraced app (ledger.receive event) where
  asked := traced.asked
  answered key histogram data :=
    ledger.received_subset_receive _ (traced.answered key histogram data)

theorem receive (traced : HistogramTraced app ledger) (event : Event) :
    HistogramTraced (app.receive event) (ledger.receive event) := by
  rcases app.receive_cases_histogram event with
    ⟨key, answer, rfl⟩ | ⟨between, kept, same | same⟩
  · exact traced.receiveHistogram key answer
  · rw [same]
    exact (traced.of_kept kept).enter event
  · rw [same]
    exact (traced.of_kept kept).refetchAll.enter event

theorem initial (program : Option Identifier) (range : DayRange) (scale : Scale) :
    HistogramTraced (.initial program range scale) .empty := by
  refine HistogramTraced.of_kept ?_ (requestResources_keepsHistogram _)
  constructor
  · exact .initial
  · intro key histogram data
    cases data

end HistogramTraced

theorem Recorded.wantsSelection {app : Application} {ledger : Ledger}
    (recorded : Recorded app ledger) : WantsSelection app := by
  induction recorded with
  | initial program range scale => exact .initial program range scale
  | command _ done wants => exact wants.run? done
  | event event _ wants => exact wants.receive event
  | refresh _ done wants => exact wants.refresh? done
  | send _ wants => exact wants
  | surroundings _ _ _ _ wants => exact wants

theorem Recorded.histogramTraced {app : Application} {ledger : Ledger}
    (recorded : Recorded app ledger) : HistogramTraced app ledger := by
  induction recorded with
  | initial program range scale => exact .initial program range scale
  | command _ done traced => exact traced.run? done
  | event event _ traced => exact traced.receive event
  | refresh _ done traced =>
      obtain ⟨grid, gridKey, rfl⟩ := refresh?_writes done
      exact ⟨traced.asked, traced.answered⟩
  | @send app ledger _ traced =>
      refine ⟨traced.asked.mono fun key member => ?_, traced.answered⟩
      exact List.mem_append_left _ member
  | surroundings _ _ _ _ traced => exact ⟨traced.asked, traced.answered⟩

theorem histogramSource_eq_service_iff (app : Application) (lane : Lane) (histogram : Histogram) :
    Sidebar.histogramSource app lane = .service histogram ↔
      app.histogram.value? = some histogram ∧ app.histogram.isStale = false := by
  unfold Sidebar.histogramSource
  cases found : app.histogram.value? with
  | none => simp [Sidebar.histogramSource.computed]
  | some own =>
      cases stale : app.histogram.isStale with
      | true => simp [Sidebar.histogramSource.computed]
      | false => simp

theorem histogramSource_cases (app : Application) (lane : Lane) :
    (∃ histogram, Sidebar.histogramSource app lane = .service histogram) ∨
      Sidebar.histogramSource app lane = Sidebar.histogramSource.computed app lane := by
  unfold Sidebar.histogramSource
  cases app.histogram.value? with
  | none => exact Or.inr rfl
  | some own =>
      cases app.histogram.isStale with
      | true => exact Or.inr rfl
      | false => exact Or.inl ⟨own, rfl⟩

theorem selectedLane?_identifier {app : Application} {lane : Lane}
    (found : Sidebar.selectedLane? app = some lane) :
    app.view.selectedResource = some lane.identifier := by
  obtain ⟨resource, selected, member⟩ := Option.bind_eq_some_iff.1 found
  have own := List.find?_some member
  rw [selected, of_decide_eq_true own]

theorem data_of_service {app : Application} {key : HistogramKey} {lane : Lane}
    {histogram : Histogram} (wanted : app.histogram.wanted = some key)
    (shown : Sidebar.histogramSource app lane = .service histogram) :
    app.histogram.data = some (key, histogram) := by
  obtain ⟨valued, current⟩ := (histogramSource_eq_service_iff app lane histogram).1 shown
  obtain ⟨⟨own, value⟩, data, rfl⟩ := Option.map_eq_some_iff.1 valued
  have same : own = key := by simpa [Query.isStale, data, wanted] using current
  rw [data, same]

/-- Wherever the grid can be built, the days of its lanes have buckets, so what the assignments tell
is told of all of them. -/
theorem exists_buckets_of_refresh? {app refreshed : Application} {ledger : Ledger}
    (recorded : Recorded app ledger) (done : app.refresh? = some refreshed) {lane : Lane}
    (isLane : lane ∈ refreshed.grid.lanes) :
    ∃ points, bucketize? lane.daily refreshed.view.scale.granularity = some points ∧
      Sidebar.histogramSource.computed refreshed lane = .assignments (summarize points) := by
  have current := recorded.reachable.induction GridCurrent.initial GridCurrent.step
  rw [current.refresh?_eq] at done
  obtain ⟨grid, built, rfl⟩ := Option.map_eq_some_iff.1 done
  obtain ⟨columns, found, rfl⟩ := Option.map_eq_some_iff.1 built
  obtain ⟨resource, _, rfl⟩ := List.mem_map.1 isLane
  obtain ⟨points, buckets⟩ := Lane.exists_bucketize? resource _ app.view.range
    (Column.exists_unitStart?_of_over? found)
  refine ⟨points, buckets, ?_⟩
  rw [Sidebar.histogramSource.computed, buckets]
  rfl

/-- While a resource is selected, the wanted histogram is the one of this resource, the present
range and the granularity of the present scale.  The side bar shows a histogram of the service
exactly if there is one that is not stale; then it has been asked for with that key, and came as the
answer for it.  Otherwise the side bar shows what the assignments tell. -/
theorem histogram_belongs_to_selection {app : Application} {ledger : Ledger}
    (recorded : Recorded app ledger) {resource : Identifier}
    (selected : app.view.selectedResource = some resource) :
    app.histogram.wanted = some ⟨resource, app.view.range, app.view.scale.granularity⟩ ∧
      ∀ lane, Sidebar.selectedLane? app = some lane →
        lane.identifier = resource ∧
        (∀ histogram, Sidebar.histogramSource app lane = .service histogram ↔
          app.histogram.value? = some histogram ∧ app.histogram.isStale = false) ∧
        (∀ histogram, Sidebar.histogramSource app lane = .service histogram →
          .histogram ⟨resource, app.view.range, app.view.scale.granularity⟩ ∈ app.tasks ledger ∧
            .histogram ⟨resource, app.view.range, app.view.scale.granularity⟩ (.ok histogram) ∈
              ledger.received) ∧
        ((∀ histogram, Sidebar.histogramSource app lane ≠ .service histogram) →
          Sidebar.histogramSource app lane =
            .assignments
              (summarize ((bucketize? lane.daily app.view.scale.granularity).getD []))) := by
  have wanted := recorded.wantsSelection _ (congrArg (Option.map _) selected)
  refine ⟨wanted, ?_⟩
  intro lane found
  refine ⟨?_, histogramSource_eq_service_iff app lane, ?_, ?_⟩
  · exact Option.some.inj ((selectedLane?_identifier found).symm.trans selected)
  · intro histogram shown
    have data := data_of_service wanted shown
    have traced := recorded.histogramTraced
    exact ⟨traced.asked.data _ ⟨histogram, data⟩, traced.answered _ histogram data⟩
  · intro noService
    rcases histogramSource_cases app lane with ⟨histogram, shown⟩ | computed
    · exact absurd shown (noService histogram)
    · exact computed

def sampleWeek : DayRange :=
  ⟨⟨740035, by decide, by decide⟩, ⟨740041, by decide, by decide⟩, by decide⟩

def sampleNextWeek : DayRange :=
  ⟨⟨740042, by decide, by decide⟩, ⟨740048, by decide, by decide⟩, by decide⟩

def sampleHistogram (overallocated : Nat) : Histogram := ⟨[], 0, none, 0, overallocated, 0, 0⟩

def sampleListing : Application :=
  (Application.initial (some ⟨7⟩) sampleWeek .days).receive
    (.resources ⟨7⟩ (.ok [.ofCode ⟨1⟩ "R" "R" .labor]))

def sampleSelecting : Application :=
  (sampleListing.run? (.selectResource (some ⟨1⟩))).getD sampleListing

def sampleMoved : Application :=
  (sampleSelecting.run? (.setRange sampleNextWeek.first sampleNextWeek.last)).getD sampleSelecting

/-- The histogram of the next week has arrived, and after it the one of the week before. -/
def sampleLate : Application :=
  (sampleMoved.receive (.histogram ⟨⟨1⟩, sampleNextWeek, .daily⟩ (.ok (sampleHistogram 2)))).receive
    (.histogram ⟨⟨1⟩, sampleWeek, .daily⟩ (.ok (sampleHistogram 1)))

def sampleDrawn : Application := sampleLate.refresh?.getD sampleLate

/-- The late histogram is not shown. -/
theorem histogram_belongs_to_selection_late :
    ∃ ledger lane, Recorded sampleDrawn ledger ∧
      sampleDrawn.view.selectedResource = some ⟨1⟩ ∧
      Sidebar.selectedLane? sampleDrawn = some lane ∧
      Sidebar.histogramSource sampleDrawn lane = .service (sampleHistogram 2) ∧
      .histogram ⟨⟨1⟩, sampleNextWeek, .daily⟩ ∈ sampleDrawn.tasks ledger ∧
      .histogram ⟨⟨1⟩, sampleNextWeek, .daily⟩ (.ok (sampleHistogram 2)) ∈ ledger.received := by
  have listed := (Recorded.initial (some ⟨7⟩) sampleWeek .days).event
    (.resources ⟨7⟩ (.ok [.ofCode ⟨1⟩ "R" "R" .labor]))
  have selecting : sampleListing.run? (.selectResource (some ⟨1⟩)) = some sampleSelecting := rfl
  have moved : sampleSelecting.run? (.setRange sampleNextWeek.first sampleNextWeek.last) =
      some sampleMoved := rfl
  have drawn : sampleLate.refresh? = some sampleDrawn := rfl
  have recorded := ((((listed.command selecting).command moved).event
    (.histogram ⟨⟨1⟩, sampleNextWeek, .daily⟩ (.ok (sampleHistogram 2)))).event
    (.histogram ⟨⟨1⟩, sampleWeek, .daily⟩ (.ok (sampleHistogram 1)))).refresh drawn
  have selected : sampleDrawn.view.selectedResource = some ⟨1⟩ := rfl
  obtain ⟨lane, found⟩ : ∃ lane, Sidebar.selectedLane? sampleDrawn = some lane := ⟨_, rfl⟩
  obtain ⟨_, _, came, _⟩ := (histogram_belongs_to_selection recorded selected).2 lane found
  have shown : Sidebar.histogramSource sampleDrawn lane = .service (sampleHistogram 2) := rfl
  exact ⟨_, lane, recorded, selected, found, shown, came _ shown⟩

end Application

end LoadChart
