import LoadChart.Proofs.Calendar.MonthKey
import LoadChart.Proofs.Timeline.ColumnOrder
import LoadChart.Proofs.Timeline.WholeUnit

/-!
# Headers of months

The headers over any columns cut them into the longest runs of one month key.  Over the columns of a
range each header names the month of its first day in the range, and the months go up, so that no
month has two headers.
-/

namespace LoadChart

namespace Day

theorem monthKey_eq_iff {left right : Day} :
    left.monthKey = right.monthKey ↔ left.monthNumber = right.monthNumber := by
  constructor
  · intro same
    have sameStart : left.monthStart = right.monthStart := by
      rw [← Option.some.injEq, ← ofMonthKey?_monthKey, same, ofMonthKey?_monthKey]
    have sameFirst := congrArg civil sameStart
    rw [monthStart_civil, monthStart_civil, CivilDate.mk.injEq] at sameFirst
    rw [monthNumber, monthNumber, year, year, month, month, sameFirst.1, sameFirst.2.1]
  · intro same
    obtain ⟨low, high⟩ := left.month_bounds
    obtain ⟨rightLow, rightHigh⟩ := right.month_bounds
    unfold monthNumber at same
    have sameYear : left.civil.year = right.civil.year := by
      change left.year = right.year
      omega
    have sameMonth : left.civil.month = right.civil.month := by
      change left.month = right.month
      omega
    rw [monthKey, monthKey, sameYear, sameMonth]

end Day

namespace MonthGroup

/-- Headers over columns from a place on.  Each stands over at least one column and only over
columns of its own month, and the next begins behind them, with another month. -/
inductive Heads : Nat → List Column → List MonthGroup → Prop where
  | done (start : Nat) : Heads start [] []
  | group {group : MonthGroup} {own rest : List Column} {others : List MonthGroup} :
      own ≠ [] → group.span = own.length → (∀ column ∈ own, column.monthKey = group.key) →
      group.label = Day.labelOfMonthKey group.key →
      (∀ column ∈ rest.head?, column.monthKey ≠ group.key) →
      Heads (group.firstColumn + group.span) rest others →
      Heads group.firstColumn (own ++ rest) (group :: others)

theorem gather_heads (group : MonthGroup) (own columns : List Column)
    (notEmpty : own ≠ []) (span : group.span = own.length)
    (keys : ∀ column ∈ own, column.monthKey = group.key)
    (label : group.label = Day.labelOfMonthKey group.key) :
    Heads group.firstColumn (own ++ columns)
      (gather group (group.firstColumn + group.span) columns) := by
  induction columns generalizing group own with
  | nil => exact .group notEmpty span keys label (by simp) (.done _)
  | cons column rest induction =>
      rw [gather]
      split
      next same =>
        have longerKeys : ∀ other ∈ own ++ [column], other.monthKey = group.key := by
          intro other member
          rcases List.mem_append.1 member with earlier | last
          · exact keys other earlier
          · rw [List.mem_singleton.1 last, same]
        have longer := induction { group with span := group.span + 1 } (own ++ [column]) (by simp)
          (by simp [span]) longerKeys label
        rw [List.append_assoc, List.singleton_append] at longer
        exact longer
      next different =>
        refine .group notEmpty span keys label ?_ ?_
        · rintro _ ⟨⟩
          exact Ne.symm different
        · exact induction
            ⟨column.monthKey, Day.labelOfMonthKey column.monthKey,
              group.firstColumn + group.span, 1⟩ [column] (by simp) rfl (by simp) rfl

theorem ofColumns_heads (columns : List Column) : Heads 0 columns (ofColumns columns) := by
  cases columns with
  | nil => exact .done 0
  | cons column rest =>
      exact gather_heads ⟨column.monthKey, Day.labelOfMonthKey column.monthKey, 0, 1⟩ [column] rest
        (by simp) rfl (by simp) rfl

/-- Headers that cut columns into runs of one month: they begin with the first column and follow one
another without a gap, and neighbours differ in their months. -/
structure Partitions (columns : List Column) (groups : List MonthGroup) : Prop where
  span_pos : ∀ group ∈ groups, 1 ≤ group.span
  head : ∀ group ∈ groups.head?, group.firstColumn = 0
  adjacent : groups.IsChain fun left right => right.firstColumn = left.firstColumn + left.span
  total : (groups.map (·.span)).sum = columns.length
  keys : ∀ group ∈ groups, ∀ index, group.firstColumn ≤ index →
    index < group.firstColumn + group.span →
      ∃ column, columns[index]? = some column ∧ column.monthKey = group.key
  changes : groups.IsChain fun left right => left.key ≠ right.key

namespace Heads

variable {start : Nat} {columns : List Column} {groups : List MonthGroup}

theorem span_pos (heads : Heads start columns groups) : ∀ group ∈ groups, 1 ≤ group.span := by
  induction heads with
  | done => simp
  | group notEmpty span _ _ _ _ induction =>
      refine List.forall_mem_cons.2 ⟨?_, induction⟩
      rw [span]
      exact List.length_pos_of_ne_nil notEmpty

theorem head (heads : Heads start columns groups) :
    ∀ group ∈ groups.head?, group.firstColumn = start := by
  cases heads with
  | done => simp
  | group => simp

theorem adjacent (heads : Heads start columns groups) :
    groups.IsChain fun left right => right.firstColumn = left.firstColumn + left.span := by
  induction heads with
  | done => exact .nil
  | group _ _ _ _ _ rest induction => exact List.isChain_cons.2 ⟨rest.head, induction⟩

theorem total (heads : Heads start columns groups) :
    (groups.map (·.span)).sum = columns.length := by
  induction heads with
  | done => rfl
  | group _ span _ _ _ _ induction =>
      rw [List.map_cons, List.sum_cons, induction, span, List.length_append]

theorem keys (heads : Heads start columns groups) :
    ∀ group ∈ groups, start ≤ group.firstColumn ∧
      ∀ index, group.firstColumn ≤ index → index < group.firstColumn + group.span →
        ∃ column, columns[index - start]? = some column ∧ column.monthKey = group.key := by
  induction heads with
  | done => simp
  | @group group own rest others notEmpty span keys _ _ _ induction =>
      refine List.forall_mem_cons.2 ⟨⟨Nat.le_refl _, fun index low high => ?_⟩, ?_⟩
      · have inside : index - group.firstColumn < own.length := by omega
        refine ⟨own[index - group.firstColumn], ?_, keys _ (List.getElem_mem inside)⟩
        rw [List.getElem?_append_left inside, List.getElem?_eq_getElem inside]
      · intro other member
        obtain ⟨behind, found⟩ := induction other member
        refine ⟨by omega, fun index low high => ?_⟩
        obtain ⟨column, atIndex, key⟩ := found index low high
        refine ⟨column, ?_, key⟩
        rw [List.getElem?_append_right (by omega), ← atIndex]
        congr 1
        omega

theorem head_key (heads : Heads start columns groups) :
    ∀ group ∈ groups.head?, ∃ column ∈ columns.head?, column.monthKey = group.key := by
  cases heads with
  | done => simp
  | @group group own rest others notEmpty _ keys =>
      rintro _ ⟨⟩
      obtain ⟨column, others, rfl⟩ := List.exists_cons_of_ne_nil notEmpty
      exact ⟨column, rfl, keys column List.mem_cons_self⟩

theorem changes (heads : Heads start columns groups) :
    groups.IsChain fun left right => left.key ≠ right.key := by
  induction heads with
  | done => exact .nil
  | group _ _ _ _ different rest induction =>
      refine List.isChain_cons.2 ⟨fun next isHead => ?_, induction⟩
      obtain ⟨column, isFirst, key⟩ := rest.head_key next isHead
      rw [← key]
      exact (different column isFirst).symm

theorem partitions (heads : Heads 0 columns groups) : Partitions columns groups where
  span_pos := heads.span_pos
  head := heads.head
  adjacent := heads.adjacent
  total := heads.total
  keys := fun group member => (heads.keys group member).2
  changes := heads.changes

theorem label (heads : Heads start columns groups) :
    ∀ group ∈ groups, group.label = Day.labelOfMonthKey group.key := by
  induction heads with
  | done => simp
  | group _ _ _ label _ _ induction => exact List.forall_mem_cons.2 ⟨label, induction⟩

theorem exists_column (heads : Heads start columns groups) :
    ∀ group ∈ groups, ∃ column ∈ columns, column.monthKey = group.key := by
  intro group member
  have positive := heads.span_pos group member
  obtain ⟨column, found, key⟩ :=
    (heads.keys group member).2 group.firstColumn (Nat.le_refl _) (by omega)
  exact ⟨column, List.mem_of_getElem? found, key⟩

/-- Where the keys of columns stay or go up, the keys of the headers go up. -/
theorem ascending (below : String → String → Prop)
    (trans : ∀ {first second third}, below first second → below second third → below first third)
    (heads : Heads start columns groups)
    (ordered : columns.Pairwise fun left right =>
      left.monthKey = right.monthKey ∨ below left.monthKey right.monthKey) :
    groups.Pairwise fun left right => below left.key right.key := by
  induction heads with
  | done => exact .nil
  | @group group own rest others notEmpty _ keys _ different restHeads induction =>
      obtain ⟨_, restOrdered, across⟩ := List.pairwise_append.1 ordered
      obtain ⟨column, ownOthers, rfl⟩ := List.exists_cons_of_ne_nil notEmpty
      have ownKey := keys column List.mem_cons_self
      refine List.pairwise_cons.2 ⟨fun other member => ?_, induction restOrdered⟩
      obtain ⟨found, isFound, key⟩ := restHeads.exists_column other member
      rw [← key]
      cases rest with
      | nil => cases isFound
      | cons next rest =>
          have up : below group.key next.monthKey := by
            have step := across column List.mem_cons_self next List.mem_cons_self
            rw [ownKey] at step
            exact step.resolve_left fun same => different next rfl same.symm
          rcases List.mem_cons.1 isFound with rfl | behind
          · exact up
          · rcases (List.pairwise_cons.1 restOrdered).1 found behind with same | further
            · rwa [← same]
            · exact trans up further

end Heads

end MonthGroup

/-- The first day of a column that lies in a range, if one does. -/
def Column.firstWithin (column : Column) (range : DayRange) : Day := column.first.later range.first

namespace MonthGroup

def firstDay? (columns : List Column) (range : DayRange) (group : MonthGroup) : Option Day :=
  columns[group.firstColumn]?.map (·.firstWithin range)

/-- Headers each of which names the month of its first day in a range, and whose months go up. -/
structure NamesMonths (columns : List Column) (range : DayRange) (groups : List MonthGroup) :
    Prop where
  named : ∀ group ∈ groups, ∃ day, group.firstDay? columns range = some day ∧
    group.key = day.monthKey ∧ group.label = day.monthLabel
  ascending : groups.Pairwise fun left right =>
    ∀ day ∈ left.firstDay? columns range, ∀ other ∈ right.firstDay? columns range,
      day.monthNumber < other.monthNumber
  keys_nodup : (groups.map (·.key)).Nodup

end MonthGroup

namespace Column

theorem firstWithin_le {left right : Column} (range : DayRange) (le : left.first ≤ right.first) :
    left.firstWithin range ≤ right.firstWithin range := by
  unfold firstWithin Day.later
  rw [Day.le_def] at *
  split <;> split <;> simp only [Day.le_def] at * <;> omega

theorem over?_monthKey {range : DayRange} {scale : Scale} {columns : List Column}
    (found : over? range scale = some columns) :
    ∀ column ∈ columns, column.monthKey = (column.firstWithin range).monthKey := by
  cases scale with
  | days =>
      cases found
      intro column member
      obtain ⟨day, isDay, rfl⟩ := List.mem_map.1 member
      obtain ⟨index, _, moved⟩ := List.mem_filterMap.1 isDay
      have ordinal := Day.plus?_eq_some.1 moved
      have own : day.later range.first = day := by
        unfold Day.later
        split
        next le =>
          rw [Day.le_def] at le
          exact Day.ext (by omega)
        next => rfl
      change day.monthKey = (day.later range.first).monthKey
      rw [own]
  | weeks | months =>
      simp only [over?, Option.bind_eq_bind, Option.bind_eq_some_iff] at found
      obtain ⟨start, _, units, _, found⟩ := found
      cases found
      intro column member
      obtain ⟨unit, _, rfl⟩ := List.mem_map.1 member
      rfl

end Column

namespace MonthGroup

/-- Keys of months one of which comes before the other. -/
def KeyBefore (left right : String) : Prop :=
  ∃ day other : Day, left = day.monthKey ∧ right = other.monthKey ∧
    day.monthNumber < other.monthNumber

theorem KeyBefore.iff {day other : Day} :
    KeyBefore day.monthKey other.monthKey ↔ day.monthNumber < other.monthNumber := by
  constructor
  · rintro ⟨left, right, leftKey, rightKey, lt⟩
    rwa [Day.monthKey_eq_iff.1 leftKey, Day.monthKey_eq_iff.1 rightKey]
  · exact fun lt => ⟨day, other, rfl, rfl, lt⟩

theorem KeyBefore.trans {first second third : String} (before : KeyBefore first second)
    (further : KeyBefore second third) : KeyBefore first third := by
  obtain ⟨day, middle, rfl, rfl, lt⟩ := before
  obtain ⟨_, other, same, rfl, further⟩ := further
  have months := Day.monthKey_eq_iff.1 same
  exact ⟨day, other, rfl, rfl, by omega⟩

theorem KeyBefore.ne {left right : String} (before : KeyBefore left right) : left ≠ right := by
  obtain ⟨day, other, rfl, rfl, lt⟩ := before
  intro same
  have months := Day.monthKey_eq_iff.1 same
  omega

theorem namesMonths_ofColumns {range : DayRange} {scale : Scale} {columns : List Column}
    (found : Column.over? range scale = some columns) :
    NamesMonths columns range (ofColumns columns) := by
  have heads := ofColumns_heads columns
  have keys := Column.over?_monthKey found
  have named : ∀ group ∈ ofColumns columns, ∃ day, group.firstDay? columns range = some day ∧
      group.key = day.monthKey ∧ group.label = day.monthLabel := by
    intro group member
    have positive := heads.span_pos group member
    obtain ⟨column, atFirst, key⟩ :=
      (heads.keys group member).2 group.firstColumn (Nat.le_refl _) (by omega)
    have own := keys column (List.mem_of_getElem? atFirst)
    refine ⟨column.firstWithin range, ?_, key.symm.trans own, ?_⟩
    · exact congrArg (Option.map _) atFirst
    · rw [heads.label group member, ← key, own, Day.labelOfMonthKey_monthKey]
  have ordered : columns.Pairwise fun left right =>
      left.monthKey = right.monthKey ∨ KeyBefore left.monthKey right.monthKey := by
    have contiguous := Column.over?_contiguous found
    refine contiguous.ascending.behind.imp_of_mem fun {left right} member rightMember behind => ?_
    have leftOrdered := contiguous.ordered left member
    have le : left.first ≤ right.first := by
      rw [Day.le_def] at *
      rw [Day.lt_def] at behind
      omega
    rw [keys left member, keys right rightMember, KeyBefore.iff, Day.monthKey_eq_iff]
    have months := Day.monthNumber_le (Column.firstWithin_le range le)
    omega
  have ascending := heads.ascending KeyBefore .trans ordered
  refine ⟨named, ?_, List.pairwise_map.2 (ascending.imp KeyBefore.ne)⟩
  refine ascending.imp_of_mem fun {left right} member rightMember before => ?_
  obtain ⟨day, isDay, key, _⟩ := named left member
  obtain ⟨other, isOther, otherKey, _⟩ := named right rightMember
  rw [isDay, isOther]
  rintro _ ⟨⟩ _ ⟨⟩
  rwa [key, otherKey, KeyBefore.iff] at before

/-- The headers over any columns partition them into runs of one month, and those over the columns
of a range name the months of the range one after the other. -/
theorem ofColumns_partition_by_month (columns : List Column) :
    Partitions columns (ofColumns columns) ∧
      ∀ range scale, Column.over? range scale = some columns →
        NamesMonths columns range (ofColumns columns) :=
  ⟨(ofColumns_heads columns).partitions, fun _ _ found => namesMonths_ofColumns found⟩

def turnOfYear : DayRange :=
  ⟨⟨daysBeforeYear 10000 - 9, by decide, by decide⟩,
    ⟨daysBeforeYear 10000 + 9, by decide, by decide⟩, by decide⟩

/-- The weeks over the turn of a year, behind which years carry a sign. -/
def turnOfYearWeeks : List Column := (Column.over? turnOfYear .weeks).getD []

theorem ofColumns_partition_by_month_turn_of_year :
    (turnOfYear.first.civil = ⟨9999, 12, 23⟩ ∧ turnOfYear.last.civil = ⟨10000, 1, 10⟩) ∧
      Column.over? turnOfYear .weeks = some turnOfYearWeeks ∧
      NamesMonths turnOfYearWeeks turnOfYear (ofColumns turnOfYearWeeks) ∧
      (ofColumns turnOfYearWeeks).map (fun group => (group.firstColumn, group.span)) =
        [(0, 2), (2, 2)] ∧
      (ofColumns turnOfYearWeeks).map (·.label) = ["Dec 9999", "Jan +10000"] := by
  have inCalendar : (Column.over? turnOfYear .weeks).isSome := by decide +kernel
  have found : Column.over? turnOfYear .weeks = some turnOfYearWeeks :=
    (Option.some_get inCalendar).symm.trans (congrArg some (Option.get_eq_getD _))
  refine ⟨⟨by decide, by decide⟩, found, ?_, by decide +kernel, by decide +kernel⟩
  exact (ofColumns_partition_by_month turnOfYearWeeks).2 turnOfYear .weeks found

end MonthGroup

end LoadChart
