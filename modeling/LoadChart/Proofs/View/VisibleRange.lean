import LoadChart.Proofs.Timeline.Unit
import LoadChart.Proofs.View.Choice
import LoadChart.Proofs.View.Revision

/-!
# Moving the visible range

The two ends of the range are moved each by itself, and yet they stay in order and as far apart as
they were.  A range that is refused changes nothing.
-/

namespace LoadChart

namespace Day

theorem plus?_zero (day : Day) : day.plus? 0 = some day := by
  rw [plus?, Int.add_zero, ofOrdinal?_ordinal]

theorem plus?_plus? {day moved : Day} {count : Int} (found : day.plus? count = some moved)
    (more : Int) : moved.plus? more = day.plus? (count + more) := by
  rw [plus?, plus?, ordinal_of_plus? found, Int.add_assoc]

end Day

namespace DayRange

variable {range moved : DayRange} {count : Int}

def ends (range : DayRange) : Day × Day := (range.first, range.last)

theorem ends_injective {left right : DayRange} (same : left.ends = right.ends) : left = right :=
  ext_days (congrArg Prod.fst same) (congrArg Prod.snd same)

theorem shift?_eq_some :
    range.shift? count = some moved ↔
      range.first.plus? count = some moved.first ∧ range.last.plus? count = some moved.last := by
  constructor
  · intro found
    obtain ⟨first, firstFound, found⟩ := Option.bind_eq_some_iff.1 found
    obtain ⟨last, lastFound, found⟩ := Option.bind_eq_some_iff.1 found
    obtain ⟨rfl, rfl⟩ := of?_eq_some.1 found
    exact ⟨firstFound, lastFound⟩
  · rintro ⟨firstFound, lastFound⟩
    rw [shift?, firstFound, lastFound]
    exact of?_eq_some.2 ⟨rfl, rfl⟩

theorem length_of_shift? (found : range.shift? count = some moved) :
    moved.length = range.length := by
  obtain ⟨first, last⟩ := shift?_eq_some.1 found
  rw [length, length, Day.ordinal_of_plus? first, Day.ordinal_of_plus? last]
  omega

theorem shift?_zero (range : DayRange) : range.shift? 0 = some range :=
  shift?_eq_some.2 ⟨range.first.plus?_zero, range.last.plus?_zero⟩

theorem shift?_shift? (found : range.shift? count = some moved) (more : Int) :
    moved.shift? more = range.shift? (count + more) := by
  obtain ⟨first, last⟩ := shift?_eq_some.1 found
  rw [shift?, shift?, Day.plus?_plus? first, Day.plus?_plus? last]

theorem shift?_neg (found : range.shift? count = some moved) :
    moved.shift? (-count) = some range := by
  rw [shift?_shift? found, Int.add_right_neg, shift?_zero]

theorem first_of_shift?_length (found : range.shift? range.length = some moved) :
    range.last.plus? 1 = some moved.first := by
  rw [Day.plus?_eq_some, Day.ordinal_of_plus? (shift?_eq_some.1 found).1, length]
  omega

theorem shift?_of_moved {first last : Day} (firstFound : range.first.plus? count = some first)
    (lastFound : range.last.plus? count = some last) :
    (range.shift? count).map ends = some (first, last) := by
  have ordered : first ≤ last := by
    have before := Day.le_def.1 range.first_le_last
    rw [Day.le_def, Day.ordinal_of_plus? firstFound, Day.ordinal_of_plus? lastFound]
    omega
  have found : range.shift? count = some ⟨first, last, ordered⟩ :=
    shift?_eq_some.2 ⟨firstFound, lastFound⟩
  rw [found]
  rfl

end DayRange

namespace ViewState

/-- Two days moved each by itself, as a command moves the ends of a range. -/
def moveEnds? (ends : Day × Day) : Command → Option (Day × Day)
  | .setRange first last => some (if last < first then ends else (first, last))
  | .shiftRange days => do
      let first ← ends.1.plus? days
      let last ← ends.2.plus? days
      return (first, last)
  | _ => some ends

def dispatchAll? (view : ViewState) (commands : List Command) : Option ViewState :=
  commands.foldlM (fun view command => (view.dispatch? command).map Prod.fst) view

variable {view after : ViewState} {days : Int} {effects : List Effect}

theorem setRange_of_reversed {first last : Day} (reversed : last < first) :
    view.setRange first last = (view, [.notify (TimelineError.reversedText first last)]) := by
  have refused : DayRange.of? first last = none :=
    dif_neg fun ordered => by
      rw [Day.le_def] at ordered
      rw [Day.lt_def] at reversed
      omega
  rw [setRange, refused]

theorem setRange_range (view : ViewState) (first last : Day) :
    (view.setRange first last).1.range.ends =
      if last < first then view.range.ends else (first, last) := by
  split
  next reversed => rw [setRange_of_reversed reversed]
  next notReversed =>
    have ordered : first ≤ last := by
      rw [Day.lt_def] at notReversed
      rw [Day.le_def]
      omega
    have taken : DayRange.of? first last = some ⟨first, last, ordered⟩ := dif_pos ordered
    rw [setRange, taken]
    rfl

theorem shiftRange?_range (view : ViewState) (days : Int) :
    (view.shiftRange? days).map (fun done => done.1.range) = view.range.shift? days := by
  unfold shiftRange?
  split
  next none =>
    rw [none, DayRange.shift?_zero]
    rfl
  · rw [Option.map_map]
    exact Option.map_id'

theorem moveEnds?_shiftRange (range : DayRange) (days : Int) :
    moveEnds? range.ends (.shiftRange days) = (range.shift? days).map DayRange.ends := by
  have apart : moveEnds? range.ends (.shiftRange days) =
      (range.first.plus? days).bind fun first =>
        (range.last.plus? days).bind fun last => some (first, last) := rfl
  rw [apart]
  cases firstFound : range.first.plus? days with
  | none =>
      rw [DayRange.shift?, firstFound]
      rfl
  | some first =>
      cases lastFound : range.last.plus? days with
      | none =>
          rw [DayRange.shift?, firstFound, lastFound]
          rfl
      | some last => rw [DayRange.shift?_of_moved firstFound lastFound]; rfl

theorem dispatch?_ends (view : ViewState) (command : Command) :
    (view.dispatch? command).map (fun done => done.1.range.ends) =
      moveEnds? view.range.ends command := by
  cases command with
  | setRange first last => exact congrArg some (setRange_range view first last)
  | shiftRange days =>
      rw [moveEnds?_shiftRange, ← shiftRange?_range, Option.map_map]
      rfl
  | setScale scale =>
      simp only [dispatch?]
      split <;> rfl
  | setFilter filter => exact congrArg (some ∘ DayRange.ends) (setFilter_sameChoice view filter).range
  | clearFilters =>
      exact congrArg (some ∘ DayRange.ends) (setFilter_sameChoice view .standard).range
  | selectResource resource =>
      simp only [dispatch?]
      split <;> rfl
  | bar command =>
      exact congrArg (some ∘ DayRange.ends) (dispatchBar_sameChoice view command).range
  | leveling command =>
      exact congrArg (some ∘ DayRange.ends) (dispatchLeveling_sameChoice view command).range
  | toggleUtilization | toggleHighlight | retry | exportUtilization | openSettingsFolder
    | showAbout => rfl

theorem dispatchAll?_ends (view : ViewState) (commands : List Command) :
    (view.dispatchAll? commands).map (fun view => view.range.ends) =
      commands.foldlM moveEnds? view.range.ends := by
  induction commands generalizing view with
  | nil => rfl
  | cons command commands induction =>
      rw [dispatchAll?, List.foldlM_cons, List.foldlM_cons, ← dispatch?_ends]
      cases view.dispatch? command with
      | none => rfl
      | some done => exact induction done.1

theorem shift?_of_dispatch? (done : view.dispatch? (.shiftRange days) = some (after, effects)) :
    view.range.shift? days = some after.range := by
  rw [← shiftRange?_range, ← dispatch?, done]
  rfl

theorem exists_dispatch?_of_shift? {range : DayRange}
    (found : view.range.shift? days = some range) :
    ∃ after effects, view.dispatch? (.shiftRange days) = some (after, effects) ∧
      after.range = range := by
  rw [← shiftRange?_range] at found
  obtain ⟨⟨after, effects⟩, done, same⟩ := Option.map_eq_some_iff.1 found
  exact ⟨after, effects, done, same⟩

/-- What commands do to the range of a view, and to its revision. -/
structure MovesRigidly (view : ViewState) : Prop where
  /-- A reversed range changes nothing, and one notice tells of it. -/
  reversed : ∀ {first last : Day}, last < first →
    view.dispatch? (.setRange first last) =
      some (view, [.notify (TimelineError.reversedText first last)])
  /-- A shift that keeps both ends in the calendar is made. -/
  made : ∀ {days : Int}, (view.range.first.plus? days).isSome → (view.range.last.plus? days).isSome →
    ∃ after effects, view.dispatch? (.shiftRange days) = some (after, effects)
  /-- A shift moves both ends, and keeps the number of days. -/
  moved : ∀ {days : Int} {after : ViewState} {effects : List Effect},
    view.dispatch? (.shiftRange days) = some (after, effects) →
      after.range.first.ordinal = view.range.first.ordinal + days ∧
        after.range.last.ordinal = view.range.last.ordinal + days ∧
          after.range.length = view.range.length
  /-- Two shifts in turn are one by their sum. -/
  together : ∀ {one two : Int} {next after : ViewState} {effects later : List Effect},
    view.dispatch? (.shiftRange one) = some (next, effects) →
      next.dispatch? (.shiftRange two) = some (after, later) →
        ∃ direct effects, view.dispatch? (.shiftRange (one + two)) = some (direct, effects) ∧
          direct.range = after.range
  /-- A shift by the number of days leads to the day after the end. -/
  follows : ∀ {after : ViewState} {effects : List Effect},
    view.dispatch? (.shiftRange view.range.length) = some (after, effects) →
      view.range.last.plus? 1 = some after.range.first
  /-- A shift back restores the range. -/
  back : ∀ {days : Int} {after : ViewState} {effects : List Effect},
    view.dispatch? (.shiftRange days) = some (after, effects) →
      ∃ restored effects, after.dispatch? (.shiftRange (-days)) = some (restored, effects) ∧
        restored.range = view.range
  /-- The revision moves on with the configuration and the filter. -/
  revised : ∀ {command : Command} {after : ViewState} {effects : List Effect},
    view.dispatch? command = some (after, effects) → ¬SameSettings after view →
      view.revision < after.revision

theorem movesRigidly (view : ViewState) : MovesRigidly view where
  reversed reversed := congrArg some (setRange_of_reversed reversed)
  made firstMoved lastMoved := by
    obtain ⟨first, firstFound⟩ := Option.isSome_iff_exists.1 firstMoved
    obtain ⟨last, lastFound⟩ := Option.isSome_iff_exists.1 lastMoved
    obtain ⟨range, found, _⟩ :=
      Option.map_eq_some_iff.1 (DayRange.shift?_of_moved firstFound lastFound)
    obtain ⟨after, effects, done, _⟩ := exists_dispatch?_of_shift? found
    exact ⟨after, effects, done⟩
  moved done := by
    have found := shift?_of_dispatch? done
    obtain ⟨first, last⟩ := DayRange.shift?_eq_some.1 found
    exact ⟨Day.ordinal_of_plus? first, Day.ordinal_of_plus? last, DayRange.length_of_shift? found⟩
  together done next := by
    have direct := shift?_of_dispatch? next
    rw [DayRange.shift?_shift? (shift?_of_dispatch? done)] at direct
    exact exists_dispatch?_of_shift? direct
  follows done := DayRange.first_of_shift?_length (shift?_of_dispatch? done)
  back done := exists_dispatch?_of_shift? (DayRange.shift?_neg (shift?_of_dispatch? done))
  revised done changed := by
    rcases dispatch?_revised done with moved | ⟨_, same⟩
    · omega
    · exact absurd same changed

/-- Commands in turn are all carried out as long as the two ends, moved by themselves, stay in the
calendar.  They lead to a view with these ends in order, which every further shift moves together.
-/
theorem dispatchAll?_movesRigidly (range : DayRange) (scale : Scale) (commands : List Command)
    {ends : Day × Day} (stays : commands.foldlM moveEnds? range.ends = some ends) :
    ∃ view, (initial range scale).dispatchAll? commands = some view ∧ view.range.ends = ends ∧
      ends.1 ≤ ends.2 ∧ MovesRigidly view := by
  have moved := dispatchAll?_ends (initial range scale) commands
  rw [show (initial range scale).range = range from rfl, stays] at moved
  obtain ⟨view, done, rfl⟩ := Option.map_eq_some_iff.1 moved
  exact ⟨view, done, rfl, view.range.first_le_last, view.movesRigidly⟩

/-- The week from Monday, 16 February 2026, to Sunday. -/
def sampleWeek : DayRange :=
  ⟨⟨740028, by decide, by decide⟩, ⟨740034, by decide, by decide⟩, by decide⟩

def sampleMoves : List Command :=
  [.shiftRange 7, .setRange sampleWeek.last sampleWeek.first, .toggleHighlight, .shiftRange (-7)]

theorem dispatchAll?_movesRigidly_week :
    ∃ view, (initial sampleWeek .days).dispatchAll? sampleMoves = some view ∧
      view.range = sampleWeek ∧ MovesRigidly view := by
  have stays : sampleMoves.foldlM moveEnds? sampleWeek.ends = some sampleWeek.ends := by decide
  obtain ⟨view, done, same, _, rigid⟩ := dispatchAll?_movesRigidly sampleWeek .days sampleMoves stays
  exact ⟨view, done, DayRange.ends_injective same, rigid⟩

end ViewState

end LoadChart
