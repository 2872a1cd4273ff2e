import LoadChart.Proofs.Resource.FloatOrder
import Mathlib.Data.List.Induction
import Mathlib.Order.MinMax

/-!
# Peaks

The peak of a series is its greatest percentage, at the first day that reaches it; the percentages
are numbers, of which any two can be compared.  A lane takes its own peak from zero on, which is the
same number wherever no percentage is below zero.
-/

namespace LoadChart

open FloatOrder (place lt_iff_place le_iff_place beq_iff_place isNaN_of_zero_le)

/-- Points whose percentages are numbers. -/
def Comparable (points : List UtilizationPoint) : Prop :=
  ∀ point ∈ points, point.percent.isNaN = false

variable {points : List UtilizationPoint} {peak point : UtilizationPoint}

theorem Comparable.of_concat (comparable : Comparable (points ++ [point])) :
    Comparable points ∧ point.percent.isNaN = false :=
  ⟨fun other member => comparable other (List.mem_append_left _ member),
    comparable point (by simp)⟩

/-- A point that no other one exceeds, and that exceeds all before it. -/
structure IsEarliestPeak (points : List UtilizationPoint) (peak : UtilizationPoint) : Prop where
  greatest : ∀ point ∈ points, point.percent ≤ peak.percent
  earliest : ∃ front back, points = front ++ peak :: back ∧
    ∀ point ∈ front, point.percent < peak.percent

theorem IsEarliestPeak.mem (isPeak : IsEarliestPeak points peak) : peak ∈ points := by
  obtain ⟨front, back, rfl, _⟩ := isPeak.earliest
  simp

/-- One more point takes the place of the peak only if it exceeds it. -/
theorem IsEarliestPeak.concat (comparable : Comparable (points ++ [point]))
    (isPeak : IsEarliestPeak points peak) :
    IsEarliestPeak (points ++ [point])
      (if peak.percent < point.percent then point else peak) := by
  obtain ⟨comparable, pointNumber⟩ := comparable.of_concat
  have peakNumber := comparable peak isPeak.mem
  have placed : ∀ other ∈ points, place other.percent ≤ place peak.percent := fun other member =>
    (le_iff_place (comparable other member) peakNumber).1 (isPeak.greatest other member)
  split
  next exceeds =>
    rw [lt_iff_place peakNumber pointNumber] at exceeds
    have below : ∀ other ∈ points, other.percent < point.percent := fun other member =>
      (lt_iff_place (comparable other member) pointNumber).2
        (lt_of_le_of_lt (placed other member) exceeds)
    refine ⟨?_, points, [], rfl, below⟩
    intro other member
    rcases List.mem_append.1 member with member | isLast
    · exact (le_iff_place (comparable other member) pointNumber).2
        (le_of_lt ((lt_iff_place (comparable other member) pointNumber).1 (below other member)))
    · cases List.mem_singleton.1 isLast
      exact (le_iff_place pointNumber pointNumber).2 le_rfl
  next notExceeds =>
    rw [lt_iff_place peakNumber pointNumber, not_lt] at notExceeds
    obtain ⟨front, back, split, below⟩ := isPeak.earliest
    refine ⟨?_, front, back ++ [point], by simp [split], below⟩
    intro other member
    rcases List.mem_append.1 member with member | isLast
    · exact isPeak.greatest other member
    · cases List.mem_singleton.1 isLast
      exact (le_iff_place pointNumber peakNumber).2 notExceeds

/-- The peak of a series, if it has points. -/
def PeakOf (points : List UtilizationPoint) (peak? : Option UtilizationPoint) : Prop :=
  (points = [] ∧ peak? = none) ∨ ∃ peak, peak? = some peak ∧ IsEarliestPeak points peak

theorem PeakOf.concat {peak? : Option UtilizationPoint}
    (comparable : Comparable (points ++ [point])) (peakOf : PeakOf points peak?) :
    PeakOf (points ++ [point]) (some (UtilizationTally.laterPeak peak? point)) := by
  rcases peakOf with ⟨rfl, rfl⟩ | ⟨peak, rfl, isPeak⟩
  · have pointNumber := comparable.of_concat.2
    have itself : point.percent ≤ point.percent := (le_iff_place pointNumber pointNumber).2 le_rfl
    exact Or.inr ⟨point, rfl, by simpa using itself, [], [], rfl, by simp⟩
  · exact Or.inr ⟨_, rfl, isPeak.concat comparable⟩

/-- What is gathered from a series counts its points one by one. -/
structure UtilizationTally.Counts (tally : UtilizationTally) (points : List UtilizationPoint) :
    Prop where
  overallocated : tally.overallocated = points.countP (·.isOverallocated)
  counted : tally.counted = points.countP fun point => 0 < point.available
  percents : tally.percents =
    ((points.filter fun point => 0 < point.available).map (·.percent)).foldl (· + ·) 0

namespace UtilizationTally

variable {tally : UtilizationTally}

theorem Counts.add (counts : tally.Counts points) (point : UtilizationPoint) :
    (tally.add point).Counts (points ++ [point]) where
  overallocated := by
    rw [List.countP_append, ← counts.overallocated]
    cases exceeded : point.isOverallocated <;> simp [UtilizationTally.add, exceeded]
  counted := by
    rw [List.countP_append, ← counts.counted]
    by_cases offers : 0 < point.available <;> simp [UtilizationTally.add, offers]
  percents := by
    rw [List.filter_append, List.map_append, List.foldl_append, ← counts.percents]
    by_cases offers : 0 < point.available <;> simp [UtilizationTally.add, offers]

theorem ofPoints_concat (points : List UtilizationPoint) (point : UtilizationPoint) :
    ofPoints (points ++ [point]) = (ofPoints points).add point :=
  List.foldl_append

theorem ofPoints_counts (points : List UtilizationPoint) : (ofPoints points).Counts points := by
  induction points using List.reverseRecOn with
  | nil => exact ⟨rfl, rfl, rfl⟩
  | append_singleton points point induction =>
      rw [ofPoints_concat]
      exact induction.add point

theorem ofPoints_peakOf (comparable : Comparable points) :
    PeakOf points (ofPoints points).peak? := by
  induction points using List.reverseRecOn with
  | nil => exact Or.inl ⟨rfl, rfl⟩
  | append_singleton points point induction =>
      rw [ofPoints_concat]
      exact (induction comparable.of_concat.1).concat comparable

end UtilizationTally

open UtilizationTally (ofPoints ofPoints_counts ofPoints_peakOf)

/-- The figures that a summary tells of a series. -/
structure UtilizationSummary.Tells (summary : UtilizationSummary) (points : List UtilizationPoint) :
    Prop where
  /-- No point exceeds the peak, and its day is that of the first point that reaches it. -/
  peak : points ≠ [] →
    (∀ point ∈ points, point.percent ≤ summary.peak) ∧
      ∃ front first back, points = front ++ first :: back ∧
        (first.percent == summary.peak) = true ∧ summary.peakDay = some first.day ∧
        ∀ point ∈ front, point.percent < summary.peak
  overallocated : summary.overallocated = points.countP (·.isOverallocated)
  /-- The percentages of the points that offer hours are summed from left to right and divided by
  their number. -/
  average : summary.average =
    if points.countP (fun point => 0 < point.available) = 0 then 0
    else ((points.filter fun point => 0 < point.available).map (·.percent)).foldl (· + ·) 0 /
      Float.ofNat (points.countP fun point => 0 < point.available)

theorem summarize_tells (comparable : Comparable points) : (summarize points).Tells points where
  peak := by
    intro nonempty
    rcases ofPoints_peakOf comparable with ⟨empty, _⟩ | ⟨peak, found, isPeak⟩
    · exact absurd empty nonempty
    · obtain ⟨front, back, split, below⟩ := isPeak.earliest
      have peakNumber := comparable peak isPeak.mem
      have same : (summarize points).peak = peak.percent := by simp [summarize, found]
      have sameDay : (summarize points).peakDay = some peak.day := by simp [summarize, found]
      rw [same]
      exact ⟨isPeak.greatest, front, peak, back, split, (beq_iff_place peakNumber peakNumber).2 rfl,
        sameDay, below⟩
  overallocated := (ofPoints_counts points).overallocated
  average := by
    have counts := ofPoints_counts points
    rw [← counts.counted, ← counts.percents]
    by_cases none : (ofPoints points).counted = 0
    · simp [summarize, UtilizationTally.average, none]
    · simp [summarize, UtilizationTally.average, none, Nat.pos_of_ne_zero none]

/-- Taking the greater one again and again ends at the place of one of the numbers, below none. -/
theorem foldl_greaterFloat {numbers : List Float} {start : Float}
    (areNumbers : ∀ number ∈ start :: numbers, number.isNaN = false) :
    (numbers.foldl greaterFloat start).isNaN = false ∧
      (∃ number ∈ start :: numbers,
        place (numbers.foldl greaterFloat start) = place number) ∧
      ∀ number ∈ start :: numbers, place number ≤ place (numbers.foldl greaterFloat start) := by
  induction numbers generalizing start with
  | nil => exact ⟨areNumbers start (by simp), ⟨start, by simp, rfl⟩, by simp⟩
  | cons head rest induction =>
      obtain ⟨isNumber, greater⟩ :=
        place_greaterFloat (areNumbers start (by simp)) (areNumbers head (by simp))
      have restNumbers : ∀ number ∈ greaterFloat start head :: rest, number.isNaN = false := by
        intro number member
        rcases List.mem_cons.1 member with rfl | member
        · exact isNumber
        · exact areNumbers number (by simp [member])
      obtain ⟨endsNumber, ⟨reached, member, samePlace⟩, below⟩ := induction restNumbers
      have greaterBelow := below (greaterFloat start head) (by simp)
      rw [greater, max_le_iff] at greaterBelow
      refine ⟨endsNumber, ?_, ?_⟩
      · rcases List.mem_cons.1 member with rfl | member
        · rcases max_choice (place start) (place head) with isStart | isHead
          · exact ⟨start, by simp, samePlace.trans (greater.trans isStart)⟩
          · exact ⟨head, by simp, samePlace.trans (greater.trans isHead)⟩
        · exact ⟨reached, by simp [member], samePlace⟩
      · intro number member
        rcases List.mem_cons.1 member with rfl | member
        · exact greaterBelow.1
        · rcases List.mem_cons.1 member with rfl | member
          · exact greaterBelow.2
          · exact below number (by simp [member])

namespace Lane

variable {lane : Lane}

/-- Where no percentage is below zero, the peak of a lane is that of its daily points. -/
theorem peak_eq_summarize_daily (nonnegative : ∀ point ∈ lane.daily, 0 ≤ point.percent) :
    (lane.peak == (summarize lane.daily).peak) = true := by
  have comparable : Comparable lane.daily := fun point member =>
    isNaN_of_zero_le (nonnegative point member)
  have zeroNumber : (0 : Float).isNaN = false := by decide
  have areNumbers : ∀ number ∈ 0 :: lane.daily.map (·.percent), number.isNaN = false := by
    intro number member
    rcases List.mem_cons.1 member with rfl | member
    · exact zeroNumber
    · obtain ⟨point, isPoint, rfl⟩ := List.mem_map.1 member
      exact comparable point isPoint
  obtain ⟨peakNumber, ⟨reached, member, samePlace⟩, below⟩ := foldl_greaterFloat areNumbers
  rcases ofPoints_peakOf comparable with ⟨empty, _⟩ | ⟨peak, found, isPeak⟩
  · rw [Lane.peak, empty]
    decide
  · have same : (summarize lane.daily).peak = peak.percent := by simp [summarize, found]
    have ownNumber := comparable peak isPeak.mem
    rw [same]
    refine (beq_iff_place peakNumber ownNumber).2 (le_antisymm ?_ ?_)
    · rw [samePlace]
      rcases List.mem_cons.1 member with rfl | member
      · exact (le_iff_place zeroNumber ownNumber).1 (nonnegative peak isPeak.mem)
      · obtain ⟨point, isPoint, rfl⟩ := List.mem_map.1 member
        exact (le_iff_place (comparable point isPoint) ownNumber).1 (isPeak.greatest point isPoint)
    · exact below peak.percent (List.mem_cons_of_mem _ (List.mem_map_of_mem isPeak.mem))

end Lane

/-- The figures of a series whose percentages can be compared: its peak is the earliest maximum, the
overallocated points are counted, and the mean is taken over the points that offer hours.  The peak
of a lane without percentages below zero is that of its daily points. -/
theorem summarize_peak_is_earliest :
    (∀ points, Comparable points → (summarize points).Tells points) ∧
      ∀ lane : Lane, (∀ point ∈ lane.daily, 0 ≤ point.percent) →
        (lane.peak == (summarize lane.daily).peak) = true :=
  ⟨fun _ => summarize_tells, fun _ => Lane.peak_eq_summarize_daily⟩

/-- Monday, 27 April 2026, half taken up, two full days after a day off, and no hours in the end. -/
def sampleSeries : List UtilizationPoint :=
  [.ofHours ⟨740098, by decide, by decide⟩ 8 4, .ofHours ⟨740099, by decide, by decide⟩ 0 0,
    .ofHours ⟨740100, by decide, by decide⟩ 8 8, .ofHours ⟨740101, by decide, by decide⟩ 6 6,
    .ofHours ⟨740102, by decide, by decide⟩ 0 (-0.0)]

def sampleSeriesLane : Lane :=
  { identifier := ⟨1⟩, code := "R", name := "Rigger", category := .labor, capacity := 8,
    pools := OrderedSet.empty, assignments := [], daily := sampleSeries }

/-- Of the two full days the earlier one is the day of the peak. -/
theorem summarize_peak_is_earliest_tied :
    (summarize sampleSeries).Tells sampleSeries ∧
      (summarize sampleSeries).peakDay = some ⟨740100, by decide, by decide⟩ ∧
      (sampleSeriesLane.peak == (summarize sampleSeriesLane.daily).peak) = true := by
  have comparable : Comparable sampleSeries := by
    unfold Comparable
    decide +kernel
  have nonnegative : ∀ point ∈ sampleSeriesLane.daily, 0 ≤ point.percent := by decide +kernel
  have peakDay : (summarize sampleSeries).peakDay = some ⟨740100, by decide, by decide⟩ := by
    decide +kernel
  exact ⟨summarize_peak_is_earliest.1 sampleSeries comparable, peakDay,
    summarize_peak_is_earliest.2 sampleSeriesLane nonnegative⟩

end LoadChart
