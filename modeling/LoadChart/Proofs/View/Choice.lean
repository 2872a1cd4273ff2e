import LoadChart.View

/-!
# What a command leaves to be fetched

A command that changes the range leaves the assignments and the histogram to be fetched, and one
that changes the scale or the selected resource leaves the histogram.  Every other command keeps all
three, and one alone leaves an assignment to be deleted.
-/

namespace LoadChart

namespace ViewState

/-- Two views with the same range, scale and selected resource. -/
structure SameChoice (left right : ViewState) : Prop where
  range : left.range = right.range
  scale : left.scale = right.scale
  selectedResource : left.selectedResource = right.selectedResource

theorem SameChoice.refl (view : ViewState) : SameChoice view view := ⟨rfl, rfl, rfl⟩

/-- What a command has done to the range, the scale and the selected resource. -/
def Chosen (before after : ViewState) (effects : List Effect) : Prop :=
  SameChoice after before ∨
    (after.range = before.range ∧ effects = after.histogramEffects) ∨
      effects = after.rangeEffects

theorem setRange_chosen (view : ViewState) (first last : Day) :
    view.Chosen (view.setRange first last).1 (view.setRange first last).2 := by
  unfold setRange
  split
  · exact Or.inr (Or.inr rfl)
  · exact Or.inl (.refl view)

theorem shiftRange?_chosen {view after : ViewState} {days : Int} {effects : List Effect}
    (done : view.shiftRange? days = some (after, effects)) : view.Chosen after effects := by
  unfold shiftRange? at done
  split at done
  · cases done
    exact Or.inl (.refl view)
  · obtain ⟨range, _, same⟩ := Option.map_eq_some_iff.1 done
    cases same
    exact Or.inr (Or.inr rfl)

theorem setFilter_sameChoice (view : ViewState) (filter : Filter) :
    SameChoice (view.setFilter filter) view := by
  unfold setFilter
  split <;> exact ⟨rfl, rfl, rfl⟩

theorem dispatchBar_sameChoice (view : ViewState) (command : BarCommand) :
    SameChoice (view.dispatchBar command).1 view := by
  cases command with
  | select assignment => exact ⟨rfl, rfl, rfl⟩
  | delete assignment =>
      simp only [dispatchBar]
      split <;> exact ⟨rfl, rfl, rfl⟩

theorem dispatchLeveling_sameChoice (view : ViewState) (command : LevelingCommand) :
    SameChoice (view.dispatchLeveling command).1 view := by
  cases command with
  | request request =>
      simp only [dispatchLeveling]
      split <;> exact ⟨rfl, rfl, rfl⟩
  | _ => exact ⟨rfl, rfl, rfl⟩

theorem dispatch?_chosen {view after : ViewState} {command : Command} {effects : List Effect}
    (done : view.dispatch? command = some (after, effects)) : view.Chosen after effects := by
  cases command with
  | setScale scale =>
      simp only [dispatch?] at done
      split at done
      · cases done
        exact Or.inl (.refl view)
      · cases done
        exact Or.inr (Or.inl ⟨rfl, rfl⟩)
  | setRange first last =>
      have chosen := setRange_chosen view first last
      rwa [Option.some.inj done] at chosen
  | shiftRange days => exact shiftRange?_chosen done
  | setFilter filter =>
      cases done
      exact Or.inl (setFilter_sameChoice view filter)
  | clearFilters =>
      cases done
      exact Or.inl (setFilter_sameChoice view .standard)
  | selectResource resource =>
      simp only [dispatch?] at done
      split at done
      · cases done
        exact Or.inl ⟨rfl, rfl, rfl⟩
      · cases done
        exact Or.inr (Or.inl ⟨rfl, rfl⟩)
  | bar command =>
      have same := dispatchBar_sameChoice view command
      rw [Option.some.inj done] at same
      exact Or.inl same
  | leveling command =>
      have same := dispatchLeveling_sameChoice view command
      rw [Option.some.inj done] at same
      exact Or.inl same
  | toggleUtilization | toggleHighlight | retry | exportUtilization | openSettingsFolder
    | showAbout =>
      cases done
      exact Or.inl ⟨rfl, rfl, rfl⟩

theorem Chosen.range {before after : ViewState} {effects : List Effect}
    (chosen : before.Chosen after effects) :
    after.range = before.range ∨ .fetchAssignments ∈ effects := by
  rcases chosen with same | ⟨range, _⟩ | rfl
  · exact Or.inl same.range
  · exact Or.inl range
  · exact Or.inr List.mem_cons_self

theorem histogramEffects_not_delete (view : ViewState) (assignment : Identifier) :
    .deleteAssignment assignment ∉ view.histogramEffects := by
  unfold histogramEffects
  split <;> simp

theorem rangeEffects_not_delete (view : ViewState) (assignment : Identifier) :
    .deleteAssignment assignment ∉ view.rangeEffects := by
  simp [rangeEffects, histogramEffects_not_delete]

theorem dispatch?_not_delete {view after : ViewState} {command : Command} {effects : List Effect}
    (done : view.dispatch? command = some (after, effects))
    (notDeletion : ∀ assignment, command ≠ .bar (.delete assignment)) (assignment : Identifier) :
    .deleteAssignment assignment ∉ effects := by
  cases command with
  | setScale scale =>
      simp only [dispatch?] at done
      split at done
      · cases done
        exact List.not_mem_nil
      · cases done
        exact histogramEffects_not_delete _ assignment
  | setRange first last =>
      obtain rfl := congrArg Prod.snd (Option.some.inj done)
      unfold setRange
      split
      · exact rangeEffects_not_delete _ assignment
      · simp
  | shiftRange days =>
      simp only [dispatch?, shiftRange?] at done
      split at done
      · cases done
        exact List.not_mem_nil
      · obtain ⟨range, _, same⟩ := Option.map_eq_some_iff.1 done
        cases same
        exact rangeEffects_not_delete _ assignment
  | selectResource resource =>
      simp only [dispatch?] at done
      split at done
      · cases done
        exact List.not_mem_nil
      · cases done
        exact histogramEffects_not_delete _ assignment
  | bar command =>
      cases command with
      | select own =>
          cases done
          exact List.not_mem_nil
      | delete own => exact absurd rfl (notDeletion own)
  | leveling command =>
      obtain rfl := congrArg Prod.snd (Option.some.inj done)
      cases command with
      | request request =>
          simp only [dispatchLeveling]
          split <;> simp
      | _ => exact List.not_mem_nil
  | setFilter | clearFilters | toggleUtilization | toggleHighlight | retry | exportUtilization
    | openSettingsFolder | showAbout =>
      cases done
      simp

end ViewState

end LoadChart
