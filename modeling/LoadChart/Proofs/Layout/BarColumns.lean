import LoadChart.Layout
import LoadChart.Proofs.Timeline.ColumnOrder

/-!
# The columns under a bar

Over columns without gaps a bar is drawn exactly over the columns that share a day with it.  It is
placed whenever there is such a column, and cut off on the sides where its days go on.
-/

namespace LoadChart

theorem Assignment.start_le_spanEnd (assignment : Assignment) :
    assignment.start ≤ assignment.spanEnd := by
  unfold spanEnd Day.later
  split
  · exact Int.le_refl _
  next later => exact Int.le_of_lt (Int.not_le.1 later)

theorem Assignment.spanEnd_eq {assignment : Assignment}
    (ordered : assignment.start ≤ assignment.finish) : assignment.spanEnd = assignment.finish := by
  unfold spanEnd Day.later
  split
  next atMost => exact Day.ext (Int.le_antisymm ordered atMost)
  · rfl

namespace Assignment

/-- The bar of an assignment lies over its first day and over the days that it covers. -/
def Spans (assignment : Assignment) (day : Day) : Prop :=
  day = assignment.start ∨ assignment.covers day = true

instance (assignment : Assignment) (day : Day) : Decidable (assignment.Spans day) :=
  inferInstanceAs (Decidable (_ ∨ _))

theorem spans_start (assignment : Assignment) : assignment.Spans assignment.start := Or.inl rfl

theorem spans_iff {assignment : Assignment} {day : Day} :
    assignment.Spans day ↔ assignment.start ≤ day ∧ day ≤ assignment.spanEnd := by
  unfold Spans spanEnd Day.later covers
  split
  all_goals
    simp only [Bool.and_eq_true, decide_eq_true_eq, Day.ext_iff, Day.le_def] at *
    omega

end Assignment

namespace Column

variable {columns : List Column} {day : Day} {first last : Column}

/-- The left edge of a bar: the columns before it end before the bar starts. -/
theorem Contiguous.leftEdge (contiguous : Contiguous columns) (head : columns.head? = some first)
    (getLast : columns.getLast? = some last) (reached : day ≤ last.last) :
    ∃ left, (if day < first.first then some 0 else indexOf? columns day) = some left ∧
      ∀ index column, columns[index]? = some column → (left ≤ index ↔ day ≤ column.last) := by
  have ascending := contiguous.ascending
  by_cases clipped : day < first.first
  · have atHead : columns[0]? = some first := List.head?_eq_getElem? ▸ head
    have ordered := contiguous.ordered first (List.mem_of_head? head)
    refine ⟨0, if_pos clipped, ?_⟩
    intro index column found
    have behind := (ascending.le_of_le atHead found (Nat.zero_le index)).2
    simp only [Day.le_def, Day.lt_def] at *
    omega
  · obtain ⟨left, own, ownFound, covers⟩ :=
      contiguous.exists_covers head getLast (Int.not_lt.1 clipped) reached
    have isIndex : indexOf? columns day = some left :=
      ascending.indexOf?_eq_some_iff.2 ⟨own, ownFound, covers⟩
    obtain ⟨low, high⟩ := covers_iff.1 covers
    refine ⟨left, (if_neg clipped).trans isIndex, ?_⟩
    intro index column found
    constructor
    · intro le
      exact Int.le_trans high (ascending.le_of_le ownFound found le).2
    · intro atMost
      apply Nat.le_of_not_lt
      intro before
      have behind := ascending.behind_of_lt found ownFound before
      simp only [Day.le_def, Day.lt_def] at *
      omega

/-- The right edge of a bar: the columns behind it begin after the bar has finished. -/
theorem Contiguous.rightEdge (contiguous : Contiguous columns) (head : columns.head? = some first)
    (getLast : columns.getLast? = some last) (reached : first.first ≤ day) :
    ∃ right, (if last.last < day then some (columns.length - 1) else indexOf? columns day) =
        some right ∧ right < columns.length ∧
      ∀ index column, columns[index]? = some column → (index ≤ right ↔ column.first ≤ day) := by
  have ascending := contiguous.ascending
  have nonempty : 0 < columns.length := List.length_pos_of_mem (List.mem_of_head? head)
  by_cases clipped : last.last < day
  · have atLast : columns[columns.length - 1]? = some last := List.getLast?_eq_getElem? ▸ getLast
    have ordered := contiguous.ordered last (List.mem_of_getLast? getLast)
    refine ⟨columns.length - 1, if_pos clipped, by omega, ?_⟩
    intro index column found
    obtain ⟨inside, _⟩ := List.getElem?_eq_some_iff.1 found
    have before := (ascending.le_of_le found atLast (by omega)).1
    simp only [Day.le_def, Day.lt_def] at *
    omega
  · obtain ⟨right, own, ownFound, covers⟩ :=
      contiguous.exists_covers head getLast reached (Int.not_lt.1 clipped)
    have isIndex : indexOf? columns day = some right :=
      ascending.indexOf?_eq_some_iff.2 ⟨own, ownFound, covers⟩
    obtain ⟨low, high⟩ := covers_iff.1 covers
    obtain ⟨inside, _⟩ := List.getElem?_eq_some_iff.1 ownFound
    refine ⟨right, (if_neg clipped).trans isIndex, inside, ?_⟩
    intro index column found
    constructor
    · intro le
      exact Int.le_trans (ascending.le_of_le found ownFound le).1 low
    · intro atMost
      apply Nat.le_of_not_lt
      intro after
      have behind := ascending.behind_of_lt ownFound found after
      simp only [Day.le_def, Day.lt_def] at *
      omega

variable {assignment : Assignment}

/-- A column shares a day with the bar of an assignment. -/
def Touches (column : Column) (assignment : Assignment) : Prop :=
  ∃ day, column.covers day = true ∧ assignment.Spans day

theorem touches_iff {column : Column} (ordered : column.first ≤ column.last) :
    column.Touches assignment ↔
      column.first ≤ assignment.spanEnd ∧ assignment.start ≤ column.last := by
  have startLe := assignment.start_le_spanEnd
  simp only [Touches, covers_iff, Assignment.spans_iff]
  constructor
  · rintro ⟨day, ⟨low, high⟩, behindStart, beforeEnd⟩
    exact ⟨Int.le_trans low beforeEnd, Int.le_trans behindStart high⟩
  · rintro ⟨low, high⟩
    by_cases startsWithin : column.first ≤ assignment.start
    · exact ⟨assignment.start, ⟨startsWithin, high⟩, Int.le_refl _, startLe⟩
    · refine ⟨column.first, ⟨Int.le_refl _, ordered⟩, ?_, low⟩
      exact Int.le_of_lt (Int.not_le.1 startsWithin)

/-- Some column shares a day with a bar that neither ends before all of them nor starts behind. -/
theorem Contiguous.exists_touches (contiguous : Contiguous columns)
    (head : columns.head? = some first) (getLast : columns.getLast? = some last)
    (low : first.first ≤ assignment.spanEnd) (high : assignment.start ≤ last.last) :
    ∃ (index : Nat) (column : Column),
      columns[index]? = some column ∧ column.Touches assignment := by
  by_cases clipped : assignment.start < first.first
  · have ordered := contiguous.ordered first (List.mem_of_head? head)
    have touches : first.Touches assignment :=
      (touches_iff ordered).2 ⟨low, Int.le_trans (Int.le_of_lt clipped) ordered⟩
    exact ⟨0, first, List.head?_eq_getElem?.symm.trans head, touches⟩
  · obtain ⟨index, column, found, covers⟩ :=
      contiguous.exists_covers head getLast (Int.not_lt.1 clipped) high
    exact ⟨index, column, found, assignment.start, covers, assignment.spans_start⟩

end Column

namespace BarGeometry

/-- A bar is drawn over the column at a place. -/
def DrawnOver (columns : List Column) (assignment : Assignment) (index : Nat) : Prop :=
  ∃ left right, span? columns assignment = some (left, right) ∧ left ≤ index ∧ index ≤ right

theorem of?_eq_some_of_span? {columns : List Column} {assignment : Assignment} {left right : Nat}
    (isSpan : span? columns assignment = some (left, right)) (width : Float32) :
    ∃ geometry, of? columns assignment width = some geometry ∧
      geometry.left = Float32.ofNat left * width ∧
      geometry.width = Float32.ofNat (right - left + 1) * width := by
  obtain ⟨first, head, touching⟩ := Option.bind_eq_some_iff.1 isSpan
  obtain ⟨last, getLast, _⟩ := Option.bind_eq_some_iff.1 touching
  simp [of?, head, getLast, isSpan]

/-- A bar that touches the columns lies between two edges, inside of which they share a day with
it. -/
theorem span?_of_touches {columns : List Column} (contiguous : Column.Contiguous columns)
    {assignment : Assignment} {first last : Column} (head : columns.head? = some first)
    (getLast : columns.getLast? = some last) (low : first.first ≤ assignment.spanEnd)
    (high : assignment.start ≤ last.last) :
    ∃ left right, span? columns assignment = some (left, right) ∧ right < columns.length ∧
      ∀ index column, columns[index]? = some column →
        (left ≤ index ↔ assignment.start ≤ column.last) ∧
          (index ≤ right ↔ column.first ≤ assignment.spanEnd) := by
  obtain ⟨left, isLeft, leftIff⟩ := contiguous.leftEdge head getLast high
  obtain ⟨right, isRight, inside, rightIff⟩ := contiguous.rightEdge head getLast low
  refine ⟨left, right, ?_, inside, fun index column found =>
    ⟨leftIff index column found, rightIff index column found⟩⟩
  have touches : ¬ (assignment.spanEnd < first.first ∨ last.last < assignment.start) := by
    rintro (before | behind)
    · exact Int.not_lt.2 low before
    · exact Int.not_lt.2 high behind
  simp only [span?, head, getLast, Option.bind_eq_bind, Option.bind_some, if_neg touches]
  split at isLeft <;> split at isRight <;> simp_all

/-- A bar is drawn exactly over the columns that share a day with it. -/
theorem drawnOver_iff {columns : List Column} (contiguous : Column.Contiguous columns)
    {assignment : Assignment} {index : Nat} :
    DrawnOver columns assignment index ↔
      ∃ column, columns[index]? = some column ∧ column.first ≤ assignment.spanEnd ∧
        assignment.start ≤ column.last := by
  constructor
  · rintro ⟨left, right, isSpan, leftLe, leRight⟩
    obtain ⟨first, head, isSpan'⟩ := Option.bind_eq_some_iff.1 isSpan
    obtain ⟨last, getLast, isSpan''⟩ := Option.bind_eq_some_iff.1 isSpan'
    split at isSpan''
    · cases isSpan''
    next touches =>
      simp only [not_or, Day.lt_def, Int.not_lt] at touches
      obtain ⟨ownLeft, ownRight, ownSpan, inside, edges⟩ :=
        span?_of_touches contiguous head getLast touches.1 touches.2
      cases ownSpan.symm.trans isSpan
      have found : columns[index]? = some columns[index] := List.getElem?_eq_getElem _
      obtain ⟨leftIff, rightIff⟩ := edges index _ found
      exact ⟨_, found, rightIff.1 leRight, leftIff.1 leftLe⟩
  · rintro ⟨column, found, low, high⟩
    have ascending := contiguous.ascending
    obtain ⟨inside, _⟩ := List.getElem?_eq_some_iff.1 found
    have atHead : columns[0]? = some columns[0] := List.getElem?_eq_getElem _
    have atLast : columns[columns.length - 1]? = some columns[columns.length - 1] :=
      List.getElem?_eq_getElem _
    have head := List.head?_eq_getElem?.trans atHead
    have getLast := List.getLast?_eq_getElem?.trans atLast
    have firstLe := (ascending.le_of_le atHead found (Nat.zero_le index)).1
    have leLast := (ascending.le_of_le found atLast (Nat.le_sub_one_of_lt inside)).2
    obtain ⟨left, right, isSpan, _, edges⟩ := span?_of_touches contiguous head getLast
      (Int.le_trans firstLe low) (Int.le_trans high leLast)
    obtain ⟨leftIff, rightIff⟩ := edges index column found
    exact ⟨left, right, isSpan, leftIff.2 high, rightIff.2 low⟩

variable {columns : List Column} {assignment : Assignment}

theorem drawnOver_iff_touches (contiguous : Column.Contiguous columns) {index : Nat} :
    DrawnOver columns assignment index ↔
      ∃ column, columns[index]? = some column ∧ column.Touches assignment := by
  rw [drawnOver_iff contiguous]
  apply exists_congr
  intro column
  apply and_congr_right
  intro found
  exact (Column.touches_iff (contiguous.ordered column (List.mem_of_getElem? found))).symm

/-- A bar has edges just if it touches a column, and inside of them lie those that it touches. -/
theorem span?_cases (contiguous : Column.Contiguous columns) (assignment : Assignment) :
    (span? columns assignment = none ∧ ∀ column ∈ columns, ¬ column.Touches assignment) ∨
      ∃ left right, span? columns assignment = some (left, right) ∧
        left ≤ right ∧ right < columns.length ∧
        ∀ index column, columns[index]? = some column →
          (column.Touches assignment ↔ left ≤ index ∧ index ≤ right) := by
  cases isSpan : span? columns assignment with
  | none =>
      refine Or.inl ⟨rfl, fun column member touches => ?_⟩
      obtain ⟨index, found⟩ := List.getElem?_of_mem member
      obtain ⟨_, _, isSpan', _⟩ := (drawnOver_iff_touches contiguous).2 ⟨column, found, touches⟩
      cases isSpan.symm.trans isSpan'
  | some span =>
      obtain ⟨left, right⟩ := span
      obtain ⟨first, head, touching⟩ := Option.bind_eq_some_iff.1 isSpan
      obtain ⟨last, getLast, edges⟩ := Option.bind_eq_some_iff.1 touching
      split at edges
      · cases edges
      next within =>
        obtain ⟨low, high⟩ := not_or.1 within
        rw [Day.lt_def, Int.not_lt] at low high
        obtain ⟨_, _, same, inside, edgesIff⟩ :=
          span?_of_touches contiguous head getLast low high
        cases same.symm.trans isSpan
        have touchesIff : ∀ index column, columns[index]? = some column →
            (column.Touches assignment ↔ left ≤ index ∧ index ≤ right) := by
          intro index column found
          obtain ⟨leftIff, rightIff⟩ := edgesIff index column found
          rw [Column.touches_iff (contiguous.ordered column (List.mem_of_getElem? found)), leftIff,
            rightIff, and_comm]
        obtain ⟨index, column, found, touches⟩ := contiguous.exists_touches head getLast low high
        obtain ⟨leftLe, leRight⟩ := (touchesIff index column found).1 touches
        exact Or.inr ⟨left, right, rfl, Nat.le_trans leftLe leRight, inside, touchesIff⟩

/-- A bar over the columns from `left` to `right`, which are those that share a day with it. -/
structure SpansTouched (columns : List Column) (assignment : Assignment) (width : Float32)
    (geometry : BarGeometry) (left right : Nat) : Prop where
  isSpan : span? columns assignment = some (left, right)
  left_le_right : left ≤ right
  right_lt_length : right < columns.length
  touches_iff : ∀ index column, columns[index]? = some column →
    (column.Touches assignment ↔ left ≤ index ∧ index ≤ right)
  left_eq : geometry.left = Float32.ofNat left * width
  width_eq : geometry.width = Float32.ofNat (right - left + 1) * width
  clippedStart_iff : geometry.clippedStart = true ↔
    ∃ first day, columns.head? = some first ∧ assignment.Spans day ∧ day < first.first
  clippedEnd_iff : geometry.clippedEnd = true ↔
    ∃ last day, columns.getLast? = some last ∧ assignment.Spans day ∧ last.last < day

/-- A bar that is placed lies over its span, and is cut off where it has days outside the columns.
-/
theorem of?_eq_some {width : Float32} {geometry : BarGeometry}
    (placed : of? columns assignment width = some geometry) :
    ∃ left right, span? columns assignment = some (left, right) ∧
      geometry.left = Float32.ofNat left * width ∧
      geometry.width = Float32.ofNat (right - left + 1) * width ∧
      (geometry.clippedStart = true ↔
        ∃ first day, columns.head? = some first ∧ assignment.Spans day ∧ day < first.first) ∧
      (geometry.clippedEnd = true ↔
        ∃ last day, columns.getLast? = some last ∧ assignment.Spans day ∧ last.last < day) := by
  obtain ⟨first, head, placed⟩ := Option.bind_eq_some_iff.1 placed
  obtain ⟨last, getLast, placed⟩ := Option.bind_eq_some_iff.1 placed
  obtain ⟨⟨left, right⟩, isSpan, placed⟩ := Option.bind_eq_some_iff.1 placed
  cases placed
  refine ⟨left, right, isSpan, rfl, rfl, ?_, ?_⟩
  · simp only [decide_eq_true_eq, head, Option.some.injEq, exists_and_left, exists_eq_left',
      Assignment.spans_iff]
    constructor
    · intro before
      exact ⟨assignment.start, ⟨Int.le_refl _, assignment.start_le_spanEnd⟩, before⟩
    · rintro ⟨day, ⟨behindStart, _⟩, before⟩
      exact Int.lt_of_le_of_lt behindStart before
  · simp only [decide_eq_true_eq, getLast, Option.some.injEq, exists_and_left, exists_eq_left',
      Assignment.spans_iff]
    constructor
    · intro behind
      exact ⟨assignment.spanEnd, ⟨assignment.start_le_spanEnd, Int.le_refl _⟩, behind⟩
    · rintro ⟨day, ⟨_, beforeEnd⟩, behind⟩
      exact Int.lt_of_lt_of_le behind beforeEnd

/-- Over the columns of any range a bar is placed just if it shares a day with one of them.  It then
begins with the first and ends with the last that does, and is cut off where its days go on. -/
theorem of?_spans_touched {range : DayRange} {scale : Scale} {columns : List Column}
    (isTimeline : Column.over? range scale = some columns) (assignment : Assignment)
    (width : Float32) :
    (of? columns assignment width = none ↔ ∀ column ∈ columns, ¬ column.Touches assignment) ∧
      ∀ geometry, of? columns assignment width = some geometry →
        ∃ left right, SpansTouched columns assignment width geometry left right := by
  have contiguous := Column.over?_contiguous isTimeline
  rcases span?_cases contiguous assignment with
    ⟨noSpan, untouched⟩ | ⟨left, right, isSpan, leftLeRight, inside, touchesIff⟩
  · have absent : of? columns assignment width = none := by simp [of?, noSpan]
    refine ⟨⟨fun _ => untouched, fun _ => absent⟩, ?_⟩
    intro geometry placed
    cases absent.symm.trans placed
  · obtain ⟨geometry, placed, _⟩ := of?_eq_some_of_span? isSpan width
    constructor
    · constructor
      · intro absent
        cases absent.symm.trans placed
      · intro untouched
        have atLeft : columns[left]? = some columns[left] := List.getElem?_eq_getElem _
        have touches := (touchesIff left _ atLeft).2 ⟨Nat.le_refl left, leftLeRight⟩
        exact absurd touches (untouched _ (List.mem_of_getElem? atLeft))
    · intro other otherPlaced
      obtain ⟨ownLeft, ownRight, ownSpan, leftEq, widthEq, clippedStart, clippedEnd⟩ :=
        of?_eq_some otherPlaced
      cases ownSpan.symm.trans isSpan
      exact ⟨left, right, isSpan, leftLeRight, inside, touchesIff, leftEq, widthEq, clippedStart,
        clippedEnd⟩

/-- The days from Monday, 16 March 2026, to Wednesday. -/
def sampleDays : DayRange :=
  ⟨⟨740056, by decide, by decide⟩, ⟨740058, by decide, by decide⟩, by decide⟩

/-- An assignment that starts on the Tuesday and is said to finish on the Sunday before. -/
def sampleReversed : Assignment :=
  { (Assignment.ofCode ⟨1⟩ ⟨11⟩ "A" ⟨740057, by decide, by decide⟩ sampleDays.first 1) with
    finish := ⟨740055, by decide, by decide⟩ }

theorem of?_spans_touched_reversed :
    ∃ columns geometry, Column.over? sampleDays .days = some columns ∧
      of? columns sampleReversed 32 = some geometry ∧
      geometry.left = Float32.ofNat 1 * 32 ∧ geometry.width = Float32.ofNat 1 * 32 ∧
      geometry.clippedStart = false ∧ geometry.clippedEnd = false := by
  let columns := [sampleDays.first, sampleReversed.start, sampleDays.last].map Column.ofDay
  have isTimeline : Column.over? sampleDays .days = some columns := by
    have days : sampleDays.days = [sampleDays.first, sampleReversed.start, sampleDays.last] := by
      decide
    rw [Column.over?, days]
  have touchesIff : ∀ day : Day, (Column.ofDay day).Touches sampleReversed ↔
      day ≤ sampleReversed.spanEnd ∧ sampleReversed.start ≤ day := fun day =>
    Column.touches_iff (Int.le_refl _)
  have mondayFree : ¬ (Column.ofDay sampleDays.first).Touches sampleReversed := fun touches =>
    absurd ((touchesIff _).1 touches) (by decide)
  have tuesdayTouched : (Column.ofDay sampleReversed.start).Touches sampleReversed :=
    (touchesIff _).2 (by decide)
  have wednesdayFree : ¬ (Column.ofDay sampleDays.last).Touches sampleReversed := fun touches =>
    absurd ((touchesIff _).1 touches) (by decide)
  obtain ⟨absentIff, spansTouched⟩ := of?_spans_touched isTimeline sampleReversed 32
  cases placed : of? columns sampleReversed 32 with
  | none => exact absurd tuesdayTouched (absentIff.1 placed _ (by simp [columns]))
  | some geometry =>
      obtain ⟨left, right, spans⟩ := spansTouched geometry placed
      have monday := (spans.touches_iff 0 _ rfl).not.1 mondayFree
      have tuesday := (spans.touches_iff 1 _ rfl).1 tuesdayTouched
      have wednesday := (spans.touches_iff 2 _ rfl).not.1 wednesdayFree
      obtain ⟨rfl, rfl⟩ : left = 1 ∧ right = 1 := by omega
      refine ⟨columns, geometry, isTimeline, placed, spans.left_eq, spans.width_eq, ?_, ?_⟩
      · rw [Bool.eq_false_iff, ne_eq, spans.clippedStart_iff]
        rintro ⟨first, day, head, spansDay, before⟩
        cases head
        have behindStart := (Assignment.spans_iff.1 spansDay).1
        exact absurd (Int.lt_of_le_of_lt behindStart before) (by decide)
      · rw [Bool.eq_false_iff, ne_eq, spans.clippedEnd_iff]
        rintro ⟨last, day, getLast, spansDay, behind⟩
        cases getLast
        have beforeEnd := (Assignment.spans_iff.1 spansDay).2
        exact absurd (Int.lt_of_lt_of_le behind beforeEnd) (by decide)

end BarGeometry

end LoadChart
