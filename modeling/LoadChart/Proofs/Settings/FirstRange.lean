import LoadChart.Application.State
import LoadChart.Proofs.Calendar.Civil
import LoadChart.Proofs.Settings.RoundTrip
import LoadChart.Proofs.Timeline.Unit

/-!
# The first range

Settings that can be used give the first range its length, and it begins today.  There is such a
range exactly if the calendar has that many days left; nothing in the settings is checked against
the calendar, so with very long ranges there is none.
-/

namespace LoadChart

namespace Day

variable {day : Day} {year : Int}

def daysLeft (day : Day) : Int := lastOrdinal - day.ordinal + 1

theorem year_bounds (day : Day) :
    daysBeforeYear day.year ≤ day.ordinal ∧ day.ordinal < daysBeforeYear (day.year + 1) :=
  yearOfOrdinal_bounds day.ordinal

theorem daysLeft_of_year_le (early : day.year ≤ year) :
    daysBeforeYear 262143 - daysBeforeYear (year + 1) + 1 ≤ day.daysLeft := by
  have below := day.year_bounds.2
  have mono := daysBeforeYear_mono (Int.add_le_add_right early 1)
  unfold daysLeft lastOrdinal
  omega

end Day

namespace Settings

variable {settings : Settings} {today : Day} {range : DayRange}

/-- The first range is the one that begins today and has the length that is set. -/
theorem firstRange?_eq_some_iff (positive : 0 < settings.rangeDays) :
    settings.firstRange? today = some range ↔
      range.first = today ∧ range.length = settings.rangeDays := by
  have least : max settings.rangeDays 1 = settings.rangeDays := Nat.max_eq_left positive
  simp only [firstRange?, Option.bind_eq_bind, Option.bind_eq_some_iff, DayRange.of?_eq_some,
    Day.plus?_eq_some, DayRange.length]
  constructor
  · rintro ⟨last, isLast, rfl, rfl⟩
    refine ⟨rfl, ?_⟩
    omega
  · rintro ⟨rfl, length⟩
    exact ⟨range.last, by omega, rfl, rfl⟩

theorem exists_firstRange?_iff (positive : 0 < settings.rangeDays) :
    (∃ range, settings.firstRange? today = some range) ↔
      (settings.rangeDays : Int) ≤ today.daysLeft := by
  simp only [firstRange?_eq_some_iff positive]
  constructor
  · rintro ⟨range, rfl, length⟩
    have le_last := range.last.le_last
    rw [← length, DayRange.length, Day.daysLeft]
    omega
  · intro fits
    have first_le := today.first_le
    rw [Day.daysLeft] at fits
    let last : Day := ⟨today.ordinal + (settings.rangeDays - 1), by omega, by omega⟩
    have ordered : today ≤ last := by
      rw [Day.le_def]
      simp only [last]
      omega
    refine ⟨⟨today, last, ordered⟩, rfl, ?_⟩
    simp only [DayRange.length, last]
    omega

def lastToday : Day := ⟨3652424, by decide, by decide⟩

/-- Settings that can be used give a first range of their length on each day from which on the
calendar has that many days left, and on no other.  So they do it on every day from 1970 to 9999
exactly if their range has at most 92093341 days. -/
theorem firstRange?_fits_calendar (usable : settings.problem? = none) :
    (∀ today range, settings.firstRange? today = some range ↔
      range.first = today ∧ range.length = settings.rangeDays) ∧
    (∀ today : Day, (∃ range, settings.firstRange? today = some range) ↔
      (settings.rangeDays : Int) ≤ today.daysLeft) ∧
    ((∀ today : Day, 1970 ≤ today.year → today.year ≤ 9999 →
      ∃ range, settings.firstRange? today = some range) ↔ settings.rangeDays ≤ 92093341) := by
  have positive := (problem?_eq_none.1 usable).2.1
  refine ⟨fun _ _ => firstRange?_eq_some_iff positive, fun _ => exists_firstRange?_iff positive, ?_⟩
  simp only [exists_firstRange?_iff positive]
  constructor
  · intro fits
    have left : lastToday.daysLeft = 92093341 := by decide
    have lastFits := fits lastToday (by decide) (by decide)
    rw [left] at lastFits
    omega
  · intro short today _ early
    have left := Day.daysLeft_of_year_le early
    have least : daysBeforeYear 262143 - daysBeforeYear (9999 + 1) + 1 = 92093341 := by decide
    omega

def sampleLongest : Settings := { standard with rangeDays := 92093341 }

def sampleTooLong : Settings := { standard with rangeDays := 92093342 }

/-- On the last day of the year 9999 the longest range ends with the calendar, and one more day does
not fit. -/
theorem firstRange?_fits_calendar_longest :
    sampleLongest.problem? = none ∧ sampleTooLong.problem? = none ∧
      (∃ range, sampleLongest.firstRange? lastToday = some range ∧ range.first = lastToday ∧
        range.length = 92093341) ∧
      ¬ ∃ range, sampleTooLong.firstRange? lastToday = some range := by
  have usable : sampleLongest.problem? = none :=
    problem?_eq_none.2 ⟨by decide, by decide, by decide⟩
  have usableToo : sampleTooLong.problem? = none :=
    problem?_eq_none.2 ⟨by decide, by decide, by decide⟩
  obtain ⟨isFirst, _, always⟩ := firstRange?_fits_calendar usable
  obtain ⟨range, found⟩ := always.2 (by decide) lastToday (by decide) (by decide)
  obtain ⟨begins, length⟩ := (isFirst lastToday range).1 found
  refine ⟨usable, usableToo, ⟨range, found, begins, length⟩, ?_⟩
  rw [(firstRange?_fits_calendar usableToo).2.1 lastToday]
  decide

/-- A range that is longer than the calendar, in settings that can be kept in a file. -/
def sampleEndless : Settings := { standard with rangeDays := 100000000 }

/-- Settings that can be used do not always give a first range. -/
theorem firstRange?_not_always_fitting :
    ¬ ∀ (settings : Settings) (today : Day), settings.FitsWords → settings.problem? = none →
      1970 ≤ today.year → today.year ≤ 9999 →
        ∃ range, settings.firstRange? today = some range := by
  intro fits
  have fitsWords : sampleEndless.FitsWords := ⟨by decide, by decide⟩
  have usable : sampleEndless.problem? = none :=
    problem?_eq_none.2 ⟨by decide, by decide, by decide⟩
  have found := fits sampleEndless lastToday fitsWords usable (by decide) (by decide)
  rw [exists_firstRange?_iff (by decide)] at found
  revert found
  decide

end Settings

/-- The application starts exactly on the days from which on the calendar has as many days left as
the first range is to have. -/
theorem Application.exists_ofSettings?_iff {settings : Settings} {today : Day}
    (usable : settings.problem? = none) :
    (∃ app, ofSettings? settings today = some app) ↔
      (settings.rangeDays : Int) ≤ today.daysLeft := by
  rw [← Settings.exists_firstRange?_iff (Settings.problem?_eq_none.1 usable).2.1]
  simp only [ofSettings?, Option.map_eq_some_iff]
  constructor
  · rintro ⟨_, range, found, _⟩
    exact ⟨range, found⟩
  · rintro ⟨range, found⟩
    exact ⟨_, range, found, rfl⟩

end LoadChart
