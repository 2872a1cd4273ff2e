import LoadChart.Proofs.Timeline.Tiling
import Mathlib.Data.List.Chain

/-!
# The order of columns

The columns over a range follow one another without a gap, so a day between the first and the last
of them lies in exactly one.  A search by halving finds this one, and it needs no more than that
the columns lie one behind the other.
-/

namespace LoadChart

namespace Column

/-- Columns that lie one behind the other, perhaps with gaps. -/
structure Ascending (columns : List Column) : Prop where
  ordered : ∀ column ∈ columns, column.first ≤ column.last
  behind : columns.Pairwise fun left right => left.last < right.first

/-- Columns each of which begins on the day after the one before it ends. -/
structure Contiguous (columns : List Column) : Prop where
  ordered : ∀ column ∈ columns, column.first ≤ column.last
  adjacent : columns.IsChain fun left right => left.last.ordinal + 1 = right.first.ordinal

theorem covers_iff {column : Column} {day : Day} :
    column.covers day = true ↔ column.first ≤ day ∧ day ≤ column.last := by
  simp [covers]

variable {columns : List Column} {day : Day}

theorem Ascending.tail {column : Column} (ascending : Ascending (column :: columns)) :
    Ascending columns where
  ordered := fun other member => ascending.ordered other (List.mem_cons_of_mem _ member)
  behind := (List.pairwise_cons.1 ascending.behind).2

theorem Contiguous.tail {column : Column} (contiguous : Contiguous (column :: columns)) :
    Contiguous columns where
  ordered := fun other member => contiguous.ordered other (List.mem_cons_of_mem _ member)
  adjacent := contiguous.adjacent.tail

theorem Ascending.of_isChain (ordered : ∀ column ∈ columns, column.first ≤ column.last)
    (behind : columns.IsChain fun left right => left.last < right.first) :
    Ascending columns := by
  refine ⟨ordered, ?_⟩
  induction columns with
  | nil => exact List.Pairwise.nil
  | cons column rest induction =>
      obtain ⟨next, restBehind⟩ := List.isChain_cons.1 behind
      have restOrdered : ∀ other ∈ rest, other.first ≤ other.last := fun other member =>
        ordered other (List.mem_cons_of_mem _ member)
      have restPairwise := induction restOrdered restBehind
      refine List.pairwise_cons.2 ⟨?_, restPairwise⟩
      cases rest with
      | nil => simp
      | cons second rest =>
          have below : column.last < second.first := next second (by simp)
          have secondOrdered := restOrdered second List.mem_cons_self
          obtain ⟨above, _⟩ := List.pairwise_cons.1 restPairwise
          intro other member
          rcases List.mem_cons.1 member with rfl | member
          · exact below
          · have further := above other member
            rw [Day.lt_def] at below further ⊢
            rw [Day.le_def] at secondOrdered
            omega

theorem Contiguous.ascending (contiguous : Contiguous columns) : Ascending columns := by
  refine .of_isChain contiguous.ordered (contiguous.adjacent.imp ?_)
  intro left right adjacent
  rw [Day.lt_def]
  omega

theorem Ascending.behind_of_lt (ascending : Ascending columns) {index later : Nat}
    {column laterColumn : Column} (found : columns[index]? = some column)
    (laterFound : columns[later]? = some laterColumn) (lt : index < later) :
    column.last < laterColumn.first := by
  obtain ⟨inside, rfl⟩ := List.getElem?_eq_some_iff.1 found
  obtain ⟨laterInside, rfl⟩ := List.getElem?_eq_some_iff.1 laterFound
  exact List.pairwise_iff_getElem.1 ascending.behind index later inside laterInside lt

theorem Ascending.le_of_le (ascending : Ascending columns) {index later : Nat}
    {column laterColumn : Column} (found : columns[index]? = some column)
    (laterFound : columns[later]? = some laterColumn) (le : index ≤ later) :
    column.first ≤ laterColumn.first ∧ column.last ≤ laterColumn.last := by
  rcases Nat.lt_or_eq_of_le le with before | same
  · have behind := ascending.behind_of_lt found laterFound before
    have ordered := ascending.ordered column (List.mem_of_getElem? found)
    have laterOrdered := ascending.ordered laterColumn (List.mem_of_getElem? laterFound)
    simp only [Day.le_def, Day.lt_def] at *
    omega
  · subst same
    cases Option.some.inj (found.symm.trans laterFound)
    exact ⟨Int.le_refl _, Int.le_refl _⟩

/-- A day lies in at most one of the columns. -/
theorem Ascending.index_unique (ascending : Ascending columns) {index other : Nat}
    {column otherColumn : Column} (found : columns[index]? = some column)
    (otherFound : columns[other]? = some otherColumn) (covers : column.covers day = true)
    (otherCovers : otherColumn.covers day = true) : index = other := by
  obtain ⟨low, high⟩ := covers_iff.1 covers
  obtain ⟨otherLow, otherHigh⟩ := covers_iff.1 otherCovers
  simp only [Day.le_def] at *
  rcases Nat.lt_trichotomy index other with before | same | after
  · have behind := ascending.behind_of_lt found otherFound before
    rw [Day.lt_def] at behind
    omega
  · exact same
  · have behind := ascending.behind_of_lt otherFound found after
    rw [Day.lt_def] at behind
    omega

theorem Contiguous.exists_covers (contiguous : Contiguous columns) {first last : Column}
    (head : columns.head? = some first) (getLast : columns.getLast? = some last)
    (low : first.first ≤ day) (high : day ≤ last.last) :
    ∃ (index : Nat) (column : Column),
      columns[index]? = some column ∧ column.covers day = true := by
  induction columns generalizing first with
  | nil => cases head
  | cons column rest induction =>
      obtain rfl : column = first := Option.some.inj head
      by_cases inside : day ≤ column.last
      · exact ⟨0, column, rfl, covers_iff.2 ⟨low, inside⟩⟩
      · cases rest with
        | nil =>
            obtain rfl : column = last := Option.some.inj getLast
            exact absurd high inside
        | cons second rest =>
            have adjacent := (List.isChain_cons_cons.1 contiguous.adjacent).1
            have secondLow : second.first ≤ day := by
              rw [Day.le_def] at inside ⊢
              omega
            rw [List.getLast?_cons_cons] at getLast
            obtain ⟨index, found⟩ := induction contiguous.tail rfl getLast secondLow
            exact ⟨index + 1, found⟩

theorem endsBefore_iff {columns : Array Column} {index : Nat} :
    endsBefore columns day index = true ↔
      ∃ column, columns[index]? = some column ∧ column.last < day := by
  unfold endsBefore
  cases columns[index]? <;> simp

theorem Ascending.endsBefore_mono (ascending : Ascending columns) {index later : Nat}
    (le : index ≤ later) (ends : endsBefore columns.toArray day later = true) :
    endsBefore columns.toArray day index = true := by
  obtain ⟨column, found, below⟩ := endsBefore_iff.1 ends
  rw [List.getElem?_toArray] at found
  obtain ⟨laterInside, _⟩ := List.getElem?_eq_some_iff.1 found
  have inside : index < columns.length := Nat.lt_of_le_of_lt le laterInside
  have earlier := (ascending.le_of_le (List.getElem?_eq_getElem inside) found le).2
  apply endsBefore_iff.2
  refine ⟨columns[index], by simp [inside], ?_⟩
  simp only [Day.le_def, Day.lt_def] at *
  omega

/-- The search ends between the columns that end before the day and those that do not. -/
theorem Ascending.countBefore_spec (ascending : Ascending columns) (base size : Nat)
    (before : ∀ index < base, endsBefore columns.toArray day index = true)
    (behind : ∀ index ≥ base + size, endsBefore columns.toArray day index = false) :
    let count := countBefore columns.toArray day base size
    (∀ index < count, endsBefore columns.toArray day index = true) ∧
      ∀ index ≥ count, endsBefore columns.toArray day index = false := by
  rw [countBefore]
  by_cases small : size ≤ 1
  · rw [if_pos small]
    by_cases ends : endsBefore columns.toArray day base
    · rw [if_pos ends]
      refine ⟨?_, fun index beyond => behind index (by omega)⟩
      intro index below
      rcases Nat.lt_or_eq_of_le (Nat.le_of_lt_succ below) with earlier | same
      · exact before index earlier
      · exact same ▸ ends
    · rw [if_neg ends]
      refine ⟨before, ?_⟩
      intro index beyond
      rcases Nat.lt_or_eq_of_le beyond with later | same
      · exact behind index (by omega)
      · exact same ▸ Bool.eq_false_iff.2 ends
  · rw [if_neg small]
    dsimp only
    by_cases ends : endsBefore columns.toArray day (base + size / 2)
    · rw [if_pos ends]
      refine ascending.countBefore_spec _ _ ?_ fun index beyond => behind index (by omega)
      intro index below
      exact ascending.endsBefore_mono (Nat.le_of_lt below) ends
    · rw [if_neg ends]
      refine ascending.countBefore_spec _ _ before ?_
      intro index beyond
      refine Bool.eq_false_iff.2 fun later => ends ?_
      exact ascending.endsBefore_mono (by omega) later
termination_by size
decreasing_by all_goals omega

/-- The search finds the column that holds a day, and nothing where none does. -/
theorem Ascending.indexOf?_eq_some_iff (ascending : Ascending columns) {index : Nat} :
    indexOf? columns day = some index ↔
      ∃ column, columns[index]? = some column ∧ column.covers day = true := by
  have beyond : ∀ index ≥ 0 + columns.toArray.size,
      endsBefore columns.toArray day index = false := by
    intro index outside
    refine Bool.eq_false_iff.2 fun ends => ?_
    obtain ⟨column, found, _⟩ := endsBefore_iff.1 ends
    simp at found outside
    obtain ⟨inside, _⟩ := List.getElem?_eq_some_iff.1 found
    omega
  obtain ⟨before, behind⟩ := ascending.countBefore_spec 0 columns.toArray.size (by simp) beyond
  unfold indexOf?
  dsimp only at before behind ⊢
  generalize countBefore columns.toArray day 0 columns.toArray.size = count at before behind
  rw [List.getElem?_toArray]
  constructor
  · intro answer
    split at answer
    · cases answer
    next column found =>
      split at answer
      next covers =>
        cases answer
        exact ⟨column, found, covers⟩
      · cases answer
  · rintro ⟨column, found, covers⟩
    obtain ⟨low, high⟩ := covers_iff.1 covers
    have notAfter : count ≤ index := by
      refine Nat.le_of_not_lt fun below => ?_
      obtain ⟨own, ownFound, ends⟩ := endsBefore_iff.1 (before index below)
      rw [List.getElem?_toArray, found] at ownFound
      cases ownFound
      rw [Day.le_def] at high
      rw [Day.lt_def] at ends
      omega
    have notBefore : index ≤ count := by
      refine Nat.le_of_not_lt fun below => ?_
      obtain ⟨inside, _⟩ := List.getElem?_eq_some_iff.1 found
      have earlierInside : count < columns.length := Nat.lt_trans below inside
      have earlier := ascending.behind_of_lt (List.getElem?_eq_getElem earlierInside) found below
      have ends : endsBefore columns.toArray day count = true := by
        apply endsBefore_iff.2
        refine ⟨columns[count], by simp [earlierInside], ?_⟩
        simp only [Day.le_def, Day.lt_def] at *
        omega
      rw [behind count (Nat.le_refl count)] at ends
      cases ends
    obtain rfl : count = index := Nat.le_antisymm notAfter notBefore
    simp [found, covers]

/-- The search fails exactly for the days in gaps and beyond both ends. -/
theorem Ascending.indexOf?_eq_none_iff (ascending : Ascending columns) :
    indexOf? columns day = none ↔ ∀ column ∈ columns, column.covers day = false := by
  constructor
  · intro nothing column member
    refine Bool.eq_false_iff.2 fun covers => ?_
    obtain ⟨index, found⟩ := List.getElem?_of_mem member
    have answer := ascending.indexOf?_eq_some_iff.2 ⟨column, found, covers⟩
    rw [nothing] at answer
    cases answer
  · intro free
    cases answer : indexOf? columns day with
    | none => rfl
    | some index =>
        obtain ⟨column, found, covers⟩ := ascending.indexOf?_eq_some_iff.1 answer
        rw [free column (List.mem_of_getElem? found)] at covers
        cases covers

/-- Over columns that lie one behind the other, the search by halving gives the place of the one
column that holds a day, as a scan from the front does, and nothing exactly if no column holds it.
-/
theorem indexOf?_holds_day (ordered : ∀ column ∈ columns, column.first ≤ column.last)
    (behind : columns.IsChain fun left right => left.last < right.first) (day : Day) :
    (∀ index, indexOf? columns day = some index ↔
      ∃ column, columns[index]? = some column ∧ column.covers day = true) ∧
    (∀ index, indexOf? columns day = some index → ∀ other column,
      columns[other]? = some column → column.covers day = true → other = index) ∧
    (indexOf? columns day = none ↔ ∀ column ∈ columns, column.covers day = false) ∧
    indexOf? columns day = columns.findIdx? (·.covers day) := by
  have ascending := Ascending.of_isChain ordered behind
  have unique : ∀ index, indexOf? columns day = some index → ∀ other column,
      columns[other]? = some column → column.covers day = true → other = index := by
    intro index found other otherColumn otherFound otherCovers
    obtain ⟨column, columnFound, covers⟩ := ascending.indexOf?_eq_some_iff.1 found
    exact ascending.index_unique otherFound columnFound otherCovers covers
  refine ⟨fun index => ascending.indexOf?_eq_some_iff, unique, ascending.indexOf?_eq_none_iff, ?_⟩
  cases scanned : columns.findIdx? (·.covers day) with
  | none => exact ascending.indexOf?_eq_none_iff.2 (List.findIdx?_eq_none_iff.1 scanned)
  | some index =>
      obtain ⟨inside, covers, _⟩ := List.findIdx?_eq_some_iff_getElem.1 scanned
      exact ascending.indexOf?_eq_some_iff.2
        ⟨columns[index], List.getElem?_eq_getElem inside, covers⟩

/-- Monday, 13 April 2026, the four days after it, and the next Monday, with no weekend between. -/
def sampleGapped : List Column :=
  [ofDay ⟨740084, by decide, by decide⟩,
    { ofDay ⟨740085, by decide, by decide⟩ with last := ⟨740088, by decide, by decide⟩ },
    ofDay ⟨740091, by decide, by decide⟩]

/-- The Friday lies in the second column of the sample, and the Saturday after it in none. -/
theorem indexOf?_holds_day_beside_gap :
    indexOf? sampleGapped ⟨740088, by decide, by decide⟩ = some 1 ∧
      indexOf? sampleGapped ⟨740089, by decide, by decide⟩ = none := by
  have ordered : ∀ column ∈ sampleGapped, column.first ≤ column.last := by decide
  have behind : sampleGapped.IsChain fun left right => left.last < right.first := by
    simp only [sampleGapped, List.isChain_cons_cons, List.isChain_singleton]
    decide
  obtain ⟨friday, _⟩ := indexOf?_holds_day ordered behind ⟨740088, by decide, by decide⟩
  obtain ⟨_, _, saturday, _⟩ := indexOf?_holds_day ordered behind ⟨740089, by decide, by decide⟩
  exact ⟨(friday 1).2 ⟨_, rfl, by decide⟩, saturday.2 (by decide)⟩

end Column

namespace Day

/-- The days from one day to another follow one another, beginning with the first. -/
theorem upTo_isChain (first last : Day) :
    (∀ day ∈ (upTo first last).head?, day = first) ∧
      (upTo first last).IsChain fun left right => left.ordinal + 1 = right.ordinal := by
  by_cases below : last < first
  · simp [upTo_of_lt below]
  by_cases same : first = last
  · subst same
    simp [upTo_self]
  have within : first.ordinal ≤ last.ordinal := Int.not_lt.1 below
  have different : first.ordinal ≠ last.ordinal := fun equal => same (Day.ext equal)
  have le_last := last.le_last
  have first_le := first.first_le
  let next : Day := ⟨first.ordinal + 1, by omega, by omega⟩
  have adjacent : first.ordinal + 1 = next.ordinal := rfl
  have before : first ≤ next := by
    rw [Day.le_def]
    omega
  obtain ⟨head, chain⟩ := upTo_isChain next last
  rw [upTo_append before adjacent within, upTo_self, List.singleton_append]
  refine ⟨by simp, List.isChain_cons.2 ⟨?_, chain⟩⟩
  intro second isHead
  rw [head second isHead]
termination_by (last.ordinal - first.ordinal).toNat
decreasing_by
  omega

end Day

/-- The days of a range follow one another, also where the calendar ends. -/
theorem DayRange.days_isChain (range : DayRange) :
    range.days.IsChain fun left right => left.ordinal + 1 = right.ordinal := by
  have first_le := range.first.first_le
  by_cases room : range.first.ordinal ≤ Day.lastOrdinal - 1
  · have ordered : range.first.ordinal ≤ range.last.ordinal := range.first_le_last
    let last : Day :=
      ⟨min range.last.ordinal (Day.lastOrdinal - 1), by omega, by omega⟩
    have days : range.days = range.first.upTo last := rfl
    rw [days]
    exact (Day.upTo_isChain range.first last).2
  · have nothing :
        (min range.last.ordinal (Day.lastOrdinal - 1) - range.first.ordinal + 1).toNat = 0 := by
      omega
    rw [DayRange.days]
    simp [nothing]

/-- Whatever units are found follow one another, from the given day on. -/
theorem Scale.units?_consecutive {scale : Scale} {last first : Day} {units : List (Day × Day)}
    (found : scale.units? last first = some units) :
    (∀ unit ∈ units.head?, unit.1 = first) ∧ (∀ unit ∈ units, unit.1 ≤ unit.2) ∧
      units.IsChain fun left right => left.2.ordinal + 1 = right.1.ordinal := by
  rw [units?] at found
  split at found
  · cases found
    simp
  · split at found
    · cases found
    next next _ =>
      split at found
      next lt =>
        obtain ⟨finish, finishFound, found⟩ := Option.bind_eq_some_iff.1 found
        obtain ⟨rest, restFound, found⟩ := Option.bind_eq_some_iff.1 found
        cases found
        obtain ⟨head, ordered, chain⟩ := units?_consecutive restFound
        have finishOrdinal := Day.plus?_eq_some.1 finishFound
        rw [Day.lt_def] at lt
        refine ⟨by simp, ?_, List.isChain_cons.2 ⟨?_, chain⟩⟩
        · intro unit member
          rcases List.mem_cons.1 member with rfl | member
          · rw [Day.le_def]
            dsimp only
            omega
          · exact ordered unit member
        · intro second isHead
          rw [head second isHead]
          dsimp only
          omega
      · cases found
termination_by (last.ordinal - first.ordinal + 1).toNat
decreasing_by
  simp only [Day.lt_def] at *
  omega

namespace Column

theorem contiguous_ofUnit {scale : Scale} {start first last : Day} {units : List (Day × Day)}
    (found : scale.units? last first = some units) :
    Contiguous (units.map fun unit => ofUnit scale start unit.1 unit.2) := by
  obtain ⟨_, ordered, chain⟩ := Scale.units?_consecutive found
  refine ⟨?_, (List.isChain_map _).2 chain⟩
  intro column member
  obtain ⟨unit, unitMember, rfl⟩ := List.mem_map.1 member
  exact ordered unit unitMember

theorem over?_contiguous {range : DayRange} {scale : Scale} {columns : List Column}
    (found : over? range scale = some columns) : Contiguous columns := by
  cases scale with
  | days =>
      cases found
      refine ⟨?_, (List.isChain_map _).2 range.days_isChain⟩
      intro column member
      obtain ⟨day, _, rfl⟩ := List.mem_map.1 member
      exact Int.le_refl _
  | weeks | months =>
      simp only [over?, Option.bind_eq_bind, Option.bind_eq_some_iff] at found
      obtain ⟨start, _, units, unitsFound, found⟩ := found
      cases found
      exact contiguous_ofUnit unitsFound

end Column

end LoadChart
