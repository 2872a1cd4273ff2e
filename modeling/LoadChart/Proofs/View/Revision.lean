import LoadChart.View

/-!
# The revision of the view

Every command either moves the revision on by one, or leaves the configuration and the filter as
they were.
-/

namespace LoadChart

namespace ViewState

/-- Two views with the same configuration and the same filter. -/
structure SameSettings (left right : ViewState) : Prop where
  range : left.range = right.range
  scale : left.scale = right.scale
  showUtilization : left.showUtilization = right.showUtilization
  highlightOverallocations : left.highlightOverallocations = right.highlightOverallocations
  filter : left.filter = right.filter

theorem SameSettings.refl (view : ViewState) : SameSettings view view := ⟨rfl, rfl, rfl, rfl, rfl⟩

/-- The revision has moved on by one, or else nothing was changed that it stands for. -/
def Revised (before after : ViewState) : Prop :=
  after.revision = before.revision + 1 ∨
    (after.revision = before.revision ∧ SameSettings after before)

theorem Revised.refl (view : ViewState) : Revised view view :=
  Or.inr ⟨rfl, .refl view⟩

theorem setFilter_revised (view : ViewState) (filter : Filter) :
    Revised view (view.setFilter filter) := by
  unfold setFilter
  split
  · exact .refl view
  · exact Or.inl rfl

theorem setRange_revised (view : ViewState) (first last : Day) :
    Revised view (view.setRange first last).1 := by
  unfold setRange
  split
  · exact Or.inl rfl
  · exact .refl view

theorem shiftRange?_revised {view after : ViewState} {days : Int} {effects : List Effect}
    (done : view.shiftRange? days = some (after, effects)) : Revised view after := by
  unfold shiftRange? at done
  split at done
  · cases done
    exact .refl view
  · obtain ⟨range, _, same⟩ := Option.map_eq_some_iff.1 done
    cases same
    exact Or.inl rfl

theorem dispatchBar_revised (view : ViewState) (command : BarCommand) :
    Revised view (view.dispatchBar command).1 := by
  cases command with
  | select assignment => exact Or.inr ⟨rfl, rfl, rfl, rfl, rfl, rfl⟩
  | delete assignment =>
      unfold dispatchBar
      dsimp only
      split
      · exact Or.inr ⟨rfl, rfl, rfl, rfl, rfl, rfl⟩
      · exact .refl view

theorem dispatchLeveling_revised (view : ViewState) (command : LevelingCommand) :
    Revised view (view.dispatchLeveling command).1 := by
  cases command with
  | request request =>
      unfold dispatchLeveling
      dsimp only
      split
      · exact .refl view
      · exact Or.inr ⟨rfl, rfl, rfl, rfl, rfl, rfl⟩
  | _ => exact Or.inr ⟨rfl, rfl, rfl, rfl, rfl, rfl⟩

theorem dispatch?_revised {view after : ViewState} {command : Command} {effects : List Effect}
    (done : view.dispatch? command = some (after, effects)) : Revised view after := by
  cases command with
  | setScale scale =>
      simp only [dispatch?] at done
      split at done
      · cases done
        exact .refl view
      · cases done
        exact Or.inl rfl
  | setRange first last =>
      have revised := setRange_revised view first last
      rwa [Option.some.inj done] at revised
  | shiftRange days => exact shiftRange?_revised done
  | toggleUtilization =>
      cases done
      exact Or.inl rfl
  | toggleHighlight =>
      cases done
      exact Or.inl rfl
  | setFilter filter =>
      cases done
      exact setFilter_revised view filter
  | clearFilters =>
      cases done
      exact setFilter_revised view .standard
  | selectResource resource =>
      simp only [dispatch?] at done
      split at done
      all_goals
        cases done
        exact Or.inr ⟨rfl, rfl, rfl, rfl, rfl, rfl⟩
  | bar command =>
      have revised := dispatchBar_revised view command
      rwa [Option.some.inj done] at revised
  | leveling command =>
      have revised := dispatchLeveling_revised view command
      rwa [Option.some.inj done] at revised
  | retry | exportUtilization | openSettingsFolder | showAbout =>
      cases done
      exact .refl view

end ViewState

end LoadChart
