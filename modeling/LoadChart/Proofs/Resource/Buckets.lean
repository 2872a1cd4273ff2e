import LoadChart.Proofs.Timeline.Tiling
import LoadChart.Proofs.Timeline.Touching
import LoadChart.Resource.Lane

/-!
# Buckets and columns

The figures of a range come from two computations.  One adds up the days that each column covers,
the other folds the days into buckets of equal keys.  Over a tiling both meet the same days in the
same order, so their hours arise from the same additions.
-/

namespace LoadChart

theorem Granularity.bucketStart?_granularity (scale : Scale) :
    scale.granularity.bucketStart? = scale.unitStart? := by
  cases scale <;> rfl

theorem keyed?_append {granularity : Granularity} {points more : List UtilizationPoint}
    {keyed keyedMore : List (Day × UtilizationPoint)}
    (found : keyed? granularity points = some keyed)
    (foundMore : keyed? granularity more = some keyedMore) :
    keyed? granularity (points ++ more) = some (keyed ++ keyedMore) := by
  unfold keyed? at found foundMore ⊢
  rw [List.mapM_append, found, foundMore]
  rfl

theorem keyed?_of_same {granularity : Granularity} {points : List UtilizationPoint} {key : Day}
    (same : ∀ point ∈ points, granularity.bucketStart? point.day = some key) :
    keyed? granularity points = some (points.map fun point => (key, point)) := by
  induction points with
  | nil => rfl
  | cons point rest induction =>
      obtain ⟨first, others⟩ := List.forall_mem_cons.1 same
      have restFound := induction others
      unfold keyed? at restFound ⊢
      rw [List.mapM_cons, first, restFound]
      rfl

theorem exists_keyed? {granularity : Granularity} {points : List UtilizationPoint}
    (keys : ∀ point ∈ points, ∃ key, granularity.bucketStart? point.day = some key) :
    ∃ keyed, keyed? granularity points = some keyed := by
  induction points with
  | nil => exact ⟨[], rfl⟩
  | cons point rest induction =>
      obtain ⟨⟨key, first⟩, others⟩ := List.forall_mem_cons.1 keys
      obtain ⟨keyed, restFound⟩ := induction others
      refine ⟨(key, point) :: keyed, ?_⟩
      unfold keyed? at restFound ⊢
      rw [List.mapM_cons, first, restFound]
      rfl

namespace Bucket

theorem key_foldl_add (bucket : Bucket) (points : List UtilizationPoint) :
    (points.foldl add bucket).key = bucket.key := by
  induction points generalizing bucket with
  | nil => rfl
  | cons point rest induction => exact induction (bucket.add point)

theorem gather_append (bucket : Bucket) (points : List UtilizationPoint)
    (rest : List (Day × UtilizationPoint)) :
    bucket.gather (points.map (fun point => (bucket.key, point)) ++ rest) =
      (points.foldl add bucket).gather rest := by
  induction points generalizing bucket with
  | nil => rfl
  | cons point points induction =>
      rw [List.map_cons, List.cons_append, gather, if_pos rfl]
      exact induction (bucket.add point)

theorem gather_of_ne {bucket : Bucket} {rest : List (Day × UtilizationPoint)}
    (different : ∀ entry ∈ rest, bucket.key ≠ entry.1) :
    bucket.gather rest = bucket :: ofKeyed rest := by
  cases rest with
  | nil => rfl
  | cons entry rest =>
      rw [gather, if_neg (different entry List.mem_cons_self), ofKeyed]

theorem point_foldl_add (bucket : Bucket) (points : List UtilizationPoint) :
    (points.foldl add bucket).point =
      .ofHours bucket.day
        (points.foldl (fun hours point => hours + point.available) bucket.available)
        (points.foldl (fun hours point => hours + point.assigned) bucket.assigned) := by
  induction points generalizing bucket with
  | nil => rfl
  | cons point rest induction => exact induction (bucket.add point)

/-- The points of a whole unit become one bucket, which holds their sum. -/
theorem ofKeyed_append {key : Day} {points : List UtilizationPoint}
    {rest : List (Day × UtilizationPoint)} (nonempty : points ≠ [])
    (different : ∀ entry ∈ rest, key ≠ entry.1) :
    (ofKeyed (points.map (fun point => (key, point)) ++ rest)).map (some ∘ point) =
      Lane.sumPoints? points :: (ofKeyed rest).map (some ∘ point) := by
  obtain ⟨first, others, rfl⟩ := List.exists_cons_of_ne_nil nonempty
  have sameKey : (others.foldl add (ofPoint key first)).key = key := key_foldl_add _ _
  calc
    (ofKeyed ((first :: others).map (fun point => (key, point)) ++ rest)).map (some ∘ point)
      = ((ofPoint key first).gather
          (others.map (fun point => ((ofPoint key first).key, point)) ++ rest)).map
            (some ∘ point) := rfl
    _ = ((others.foldl add (ofPoint key first)).gather rest).map (some ∘ point) := by
      rw [gather_append]
    _ = some (others.foldl add (ofPoint key first)).point ::
          (ofKeyed rest).map (some ∘ point) := by
      rw [gather_of_ne (by rwa [sameKey])]
      rfl
    _ = Lane.sumPoints? (first :: others) :: (ofKeyed rest).map (some ∘ point) := by
      rw [point_foldl_add]
      rfl

end Bucket

def pointsOf (points : List UtilizationPoint) (unit : Day × Day) : List UtilizationPoint :=
  points.filter fun point => unit.1 ≤ point.day && point.day ≤ unit.2

theorem pointsOf_append_left {points more : List UtilizationPoint} {unit : Day × Day}
    (inside : ∀ point ∈ points, unit.1 ≤ point.day ∧ point.day ≤ unit.2)
    (beyond : ∀ point ∈ more, unit.2 < point.day) : pointsOf (points ++ more) unit = points := by
  have all : pointsOf points unit = points :=
    List.filter_eq_self.2 fun point member => by simpa using inside point member
  have none : pointsOf more unit = [] := by
    refine List.filter_eq_nil_iff.2 fun point member => ?_
    have after := Int.not_le.2 (beyond point member)
    simp [Day.le_def, after]
  rw [pointsOf, List.filter_append, ← pointsOf, ← pointsOf, all, none, List.append_nil]

theorem pointsOf_append_right {points more : List UtilizationPoint} {unit : Day × Day}
    (before : ∀ point ∈ points, point.day < unit.1) :
    pointsOf (points ++ more) unit = pointsOf more unit := by
  have none : pointsOf points unit = [] := by
    refine List.filter_eq_nil_iff.2 fun point member => ?_
    have below := Int.not_le.2 (before point member)
    simp [Day.le_def, below]
  rw [pointsOf, List.filter_append, ← pointsOf, ← pointsOf, none, List.nil_append]

/-- A series of points, one for each of some days, holds the points of these days. -/
theorem day_bounds_of_mem {series : Day → UtilizationPoint} {low high : Day}
    {point : UtilizationPoint} (dated : ∀ day, (series day).day = day)
    (member : point ∈ (low.upTo high).map series) :
    low.ordinal ≤ point.day.ordinal ∧ point.day.ordinal ≤ high.ordinal := by
  obtain ⟨day, dayMember, rfl⟩ := List.mem_map.1 member
  rw [dated]
  exact Day.mem_upTo.1 dayMember

/-- A series of points from a day on, cut by the units from that day's unit on, gives the buckets of
the series. -/
theorem sums_eq_buckets {scale : Scale} {last first start : Day} {units : List (Day × Day)}
    {series : Day → UtilizationPoint} (dated : ∀ day, (series day).day = day)
    (tiling : Scale.Tiling scale last first units) (own : scale.unitStart? start = some first)
    (le : first ≤ start) (reaches : first ≤ last → start ≤ last) :
    ∃ keyed, keyed? scale.granularity ((start.upTo last).map series) = some keyed ∧
      (∀ entry ∈ keyed, first ≤ entry.1) ∧
      units.map (fun unit => Lane.sumPoints? (pointsOf ((start.upTo last).map series) unit)) =
        (Bucket.ofKeyed keyed).map (some ∘ Bucket.point) := by
  induction tiling generalizing start with
  | done beyond =>
      have empty : start.upTo last = [] := Day.upTo_of_lt (Int.lt_of_lt_of_le beyond le)
      refine ⟨[], ?_, by simp, ?_⟩
      · rw [empty]
        rfl
      · rfl
  | @unit first finish next rest within isUnit adjacent tiling induction =>
      obtain ⟨firstLe, startLt⟩ := (isUnit.unitStart?_iff start).1 own
      have firstLt := isUnit.lt
      have startLe : start.ordinal ≤ finish.ordinal := by omega
      obtain ⟨middle, startMiddle, middleLe, split⟩ :=
        Day.upTo_split startLe (reaches within) adjacent
      obtain ⟨keyed, keyedFound, keyedBehind, sums⟩ :=
        induction isUnit.unitStart?_next (Int.le_refl _) id
      rw [Day.le_def] at startMiddle middleLe
      have inUnit : ∀ point ∈ (start.upTo middle).map series,
          scale.granularity.bucketStart? point.day = some first := by
        intro point member
        obtain ⟨above, below⟩ := day_bounds_of_mem dated member
        rw [Granularity.bucketStart?_granularity, isUnit.unitStart?_iff]
        omega
      have inside : ∀ point ∈ (start.upTo middle).map series,
          first ≤ point.day ∧ point.day ≤ finish := by
        intro point member
        obtain ⟨above, below⟩ := day_bounds_of_mem dated member
        exact ⟨Int.le_trans le above, Int.le_trans below middleLe⟩
      have after : ∀ point ∈ (next.upTo last).map series, finish < point.day := by
        intro point member
        obtain ⟨above, _⟩ := day_bounds_of_mem dated member
        rw [Day.lt_def]
        omega
      have nonempty : (start.upTo middle).map series ≠ [] := by
        have member : start ∈ start.upTo middle := Day.mem_upTo.2 ⟨Int.le_refl _, startMiddle⟩
        exact List.ne_nil_of_mem (List.mem_map_of_mem member)
      have different : ∀ entry ∈ keyed, first ≠ entry.1 := by
        intro entry member same
        have behind := keyedBehind entry member
        rw [← same, Day.le_def] at behind
        omega
      have restSums : ∀ unit ∈ rest,
          pointsOf ((start.upTo middle).map series ++ (next.upTo last).map series) unit =
            pointsOf ((next.upTo last).map series) unit := by
        intro unit member
        obtain ⟨behind, _⟩ := tiling.ordered unit member
        refine pointsOf_append_right fun point pointMember => ?_
        obtain ⟨_, below⟩ := day_bounds_of_mem dated pointMember
        rw [Day.le_def] at behind
        rw [Day.lt_def]
        omega
      rw [split, List.map_append]
      refine ⟨_, keyed?_append (keyed?_of_same inUnit) keyedFound, ?_, ?_⟩
      · intro entry member
        rcases List.mem_append.1 member with member | member
        · obtain ⟨_, _, rfl⟩ := List.mem_map.1 member
          exact Int.le_refl _
        · exact Int.le_trans (Int.le_of_lt firstLt) (keyedBehind entry member)
      · rw [Bucket.ofKeyed_append nonempty different, ← sums, List.map_cons,
          pointsOf_append_left inside after]
        congr 1
        exact List.map_congr_left fun unit member => by rw [restSums unit member]

namespace Lane

variable (resource : Resource) (assignments : List Assignment) (range : DayRange)

/-- The days of a lane have buckets wherever the first day of its range has one. -/
theorem exists_bucketize? {scale : Scale}
    (begins : ∃ start, scale.unitStart? range.first = some start) :
    ∃ points, bucketize? (ofResource resource assignments range).daily scale.granularity =
      some points := by
  have keys : ∀ point ∈ (ofResource resource assignments range).daily,
      ∃ key, scale.granularity.bucketStart? point.day = some key := by
    intro point member
    obtain ⟨day, isDay, rfl⟩ := List.mem_map.1 member
    rw [Granularity.bucketStart?_granularity]
    exact Scale.exists_unitStart?_of_le (DayRange.bounds_of_mem_days isDay).1 begins
  obtain ⟨keyed, found⟩ := exists_keyed? keys
  exact ⟨_, congrArg (Option.map _) found⟩

/-- The cells of a row of columns are the buckets of the scale: same days, same hours, in the same
order, and no cell is empty. -/
theorem columnUtilization?_eq_bucketize? (scale : Scale)
    (early : Day.firstOrdinal + 6 ≤ range.first.ordinal)
    (late : range.last.ordinal + 31 ≤ Day.lastOrdinal) :
    ∃ columns points, Column.over? range scale = some columns ∧
      bucketize? (ofResource resource assignments range).daily scale.granularity = some points ∧
      (ofResource resource assignments range).columnUtilization? columns =
        some (points.map some) ∧
      (aggregate? resource assignments range scale.granularity).map (·.points) = some points := by
  obtain ⟨columns, first, columnsFound, own, le, tiling⟩ := Column.over?_tiling scale early late
  have daily : (ofResource resource assignments range).daily =
      (range.first.upTo range.last).map (dailyPoint resource assignments) :=
    congrArg _ (DayRange.days_eq_upTo (by omega))
  have dated : ∀ day, (dailyPoint resource assignments day).day = day := fun _ => rfl
  obtain ⟨keyed, keyedFound, _, sums⟩ :=
    sums_eq_buckets dated tiling own le fun _ => range.first_le_last
  rw [← daily] at keyedFound sums
  have buckets : bucketize? (ofResource resource assignments range).daily scale.granularity =
      some ((Bucket.ofKeyed keyed).map Bucket.point) := by
    rw [bucketize?, keyedFound]
    rfl
  have ordered : columns.all (fun column => column.first ≤ column.last) = true := by
    refine List.all_eq_true.2 fun column member => ?_
    exact decide_eq_true (tiling.ordered _ (List.mem_map_of_mem member)).2
  refine ⟨columns, _, columnsFound, buckets, ?_, ?_⟩
  · rw [columnUtilization?, ordered, Bool.or_true, if_pos rfl, List.map_map, ← sums, List.map_map]
    rfl
  · rw [aggregate?, show dailySeries resource assignments range =
      (ofResource resource assignments range).daily from rfl, buckets]
    rfl

/-- A range from a Wednesday to a Tuesday has two weeks in part. -/
theorem columnUtilization?_eq_bucketize?_parts_of_weeks :
    let wednesday : Day := ⟨740016, by decide, by decide⟩
    let tuesday : Day := ⟨740022, by decide, by decide⟩
    let range : DayRange := ⟨wednesday, tuesday, by decide⟩
    let resource : Resource := .ofCode ⟨1⟩ "A" "Alpha" .labor
    let assignments : List Assignment := [.ofCode ⟨2⟩ ⟨3⟩ "T" tuesday tuesday 1]
    let lane := ofResource resource assignments range
    (wednesday.weekdayIndex = 2 ∧ tuesday.weekdayIndex = 1) ∧
      Day.firstOrdinal + 6 ≤ range.first.ordinal ∧ range.last.ordinal + 31 ≤ Day.lastOrdinal ∧
      ∃ columns points, Column.over? range .weeks = some columns ∧
        bucketize? lane.daily .weekly = some points ∧
        lane.columnUtilization? columns = some (points.map some) ∧
        (aggregate? resource assignments range .weekly).map (·.points) = some points :=
  ⟨by decide, by decide, by decide,
    columnUtilization?_eq_bucketize? _ _ _ .weeks (by decide) (by decide)⟩

end Lane

end LoadChart
