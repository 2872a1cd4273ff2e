import LoadChart.Layout
import LoadChart.Proofs.Layout.BarColumns
import Mathlib.Data.Finset.Card
import Mathlib.Data.List.Nodup
import Mathlib.Order.Bounds.Defs

/-!
# Stacking with the fewest sub-rows

Assignments are placed one after the other by their start, each in the first sub-row whose last bar
has finished.  Bars of one sub-row share no day; and since a bar goes below others only where all
of them lie over its start, no way of giving out sub-rows without overlaps needs fewer of them.
-/

namespace LoadChart

namespace Stack

/-- An assignment starts earlier than another, or on the same day with an identifier that is not
greater. -/
def Earlier (left right : Assignment) : Prop :=
  left.start < right.start ∨ left.start = right.start ∧ left.identifier ≤ right.identifier

theorem placedBefore_iff {left right : Assignment} :
    placedBefore left right = true ↔ Earlier left right := by
  simp [placedBefore, Earlier]

theorem Earlier.trans {first second third : Assignment} (left : Earlier first second)
    (right : Earlier second third) : Earlier first third := by
  simp only [Earlier, Day.lt_def, Day.ext_iff] at *
  have ordered : first.identifier ≤ second.identifier → second.identifier ≤ third.identifier →
      first.identifier ≤ third.identifier := BitVec.le_trans
  grind

theorem Earlier.total (left right : Assignment) : Earlier left right ∨ Earlier right left := by
  have total : left.identifier ≤ right.identifier ∨ right.identifier ≤ left.identifier :=
    BitVec.le_total _ _
  simp only [Earlier, Day.lt_def, Day.ext_iff]
  grind

theorem Earlier.start_le {left right : Assignment} (earlier : Earlier left right) :
    left.start ≤ right.start := by
  simp only [Earlier, Day.le_def, Day.lt_def, Day.ext_iff] at *
  omega

theorem Earlier.key_eq {left right : Assignment} (before : Earlier left right)
    (behind : Earlier right left) :
    (left.start, left.identifier) = (right.start, right.identifier) := by
  have antisymm : left.identifier ≤ right.identifier → right.identifier ≤ left.identifier →
      left.identifier = right.identifier := fun le ge =>
    congrArg Identifier.mk (BitVec.le_antisymm le ge)
  simp only [Earlier, Day.lt_def, Day.ext_iff] at before behind
  have sameStart : left.start = right.start := Day.ext (by omega)
  have sameIdentifier : left.identifier = right.identifier := antisymm (by grind) (by grind)
  rw [sameStart, sameIdentifier]

theorem mergeSort_earlier (assignments : List Assignment) :
    (assignments.mergeSort placedBefore).Pairwise Earlier := by
  have sorted : (assignments.mergeSort placedBefore).Pairwise fun left right =>
      placedBefore left right = true := by
    apply List.pairwise_mergeSort
    · intro first second third
      simp only [placedBefore_iff]
      exact Earlier.trans
    · intro left right
      simpa [placedBefore_iff] using Earlier.total left right
  exact sorted.imp placedBefore_iff.1

/-- Assignments that are told apart by start and identifier are sorted in one way only. -/
theorem mergeSort_eq_of_perm {assignments permuted : List Assignment}
    (distinct : (assignments.map fun assignment => (assignment.start, assignment.identifier)).Nodup)
    (permutation : assignments.Perm permuted) :
    permuted.mergeSort placedBefore = assignments.mergeSort placedBefore := by
  have sortedPerm := ((List.mergeSort_perm permuted placedBefore).trans permutation.symm).trans
    (List.mergeSort_perm assignments placedBefore).symm
  apply sortedPerm.eq_of_pairwise _ (mergeSort_earlier permuted) (mergeSort_earlier assignments)
  intro left right leftMember rightMember before behind
  have leftMember := permutation.mem_iff.2 (List.mem_mergeSort.1 leftMember)
  have rightMember := List.mem_mergeSort.1 rightMember
  exact List.inj_on_of_nodup_map distinct leftMember rightMember (before.key_eq behind)

/-- The row that is found ended before the bar starts, and only its end changes. -/
theorem place_spec (start finish : Day) (rowEnds : List Day) :
    (place start finish rowEnds).2[(place start finish rowEnds).1]? = some finish ∧
      (∀ rowEnd, rowEnds[(place start finish rowEnds).1]? = some rowEnd → rowEnd < start) ∧
      ∀ other ≠ (place start finish rowEnds).1,
        (place start finish rowEnds).2[other]? = rowEnds[other]? := by
  induction rowEnds with
  | nil =>
      refine ⟨rfl, by simp, ?_⟩
      intro other different
      obtain ⟨before, rfl⟩ := Nat.exists_eq_succ_of_ne_zero different
      rfl
  | cons rowEnd rest induction =>
      by_cases ended : rowEnd < start
      · simp only [place, if_pos ended]
        refine ⟨rfl, by simpa using ended, ?_⟩
        intro other different
        obtain ⟨before, rfl⟩ := Nat.exists_eq_succ_of_ne_zero different
        rfl
      · simp only [place, if_neg ended]
        obtain ⟨atRow, earlier, others⟩ := induction
        refine ⟨atRow, earlier, ?_⟩
        intro other different
        cases other with
        | zero => rfl
        | succ other => exact others other fun same => different (congrArg Nat.succ same)

/-- The assignments with the rows they are given, one after the other. -/
def placed : List Day → List Assignment → List (Assignment × Nat)
  | _, [] => []
  | rowEnds, assignment :: rest =>
      let (row, rowEnds) := place assignment.start assignment.spanEnd rowEnds
      (assignment, row) :: placed rowEnds rest

theorem placeAll_eq_map (rowEnds : List Day) (assignments : List Assignment) :
    placeAll rowEnds assignments =
      (placed rowEnds assignments).map fun pair => ⟨pair.1.identifier, pair.2⟩ := by
  induction assignments generalizing rowEnds with
  | nil => rfl
  | cons assignment rest induction => exact congrArg _ (induction _)

theorem mem_of_mem_placed {rowEnds : List Day} {assignments : List Assignment}
    {pair : Assignment × Nat} (member : pair ∈ placed rowEnds assignments) :
    pair.1 ∈ assignments := by
  induction assignments generalizing rowEnds with
  | nil => cases member
  | cons assignment rest induction =>
      rcases List.mem_cons.1 member with rfl | member
      · exact List.mem_cons_self
      · exact List.mem_cons_of_mem _ (induction member)

/-- A bar starts after the end that its row had before, and after the bars placed in it. -/
theorem placed_behind (rowEnds : List Day) (assignments : List Assignment) :
    (∀ pair ∈ placed rowEnds assignments, ∀ rowEnd, rowEnds[pair.2]? = some rowEnd →
        rowEnd < pair.1.start) ∧
      (placed rowEnds assignments).Pairwise fun earlier later =>
        earlier.2 = later.2 → earlier.1.spanEnd < later.1.start := by
  induction assignments generalizing rowEnds with
  | nil => exact ⟨by simp [placed], .nil⟩
  | cons assignment rest induction =>
      obtain ⟨atRow, ended, others⟩ := place_spec assignment.start assignment.spanEnd rowEnds
      obtain ⟨behindEnds, pairwise⟩ :=
        induction (place assignment.start assignment.spanEnd rowEnds).2
      have behindOwn : ∀ pair ∈ placed (place assignment.start assignment.spanEnd rowEnds).2 rest,
          (place assignment.start assignment.spanEnd rowEnds).1 = pair.2 →
            assignment.spanEnd < pair.1.start := by
        intro pair member same
        exact behindEnds pair member _ (same ▸ atRow)
      refine ⟨?_, List.pairwise_cons.2 ⟨behindOwn, pairwise⟩⟩
      intro pair member rowEnd found
      rcases List.mem_cons.1 member with rfl | member
      · exact ended rowEnd found
      -- the end that the row had before is that of the bar placed now, or has not changed
      · by_cases same : (place assignment.start assignment.spanEnd rowEnds).1 = pair.2
        · have own := ended rowEnd (same ▸ found)
          have ordered := assignment.start_le_spanEnd
          have behind := behindOwn pair member same
          simp only [Day.le_def, Day.lt_def] at *
          omega
        · exact behindEnds pair member rowEnd ((others pair.2 (Ne.symm same)).trans found)

/-- Two placed bars are in different rows, or one lies behind the other. -/
def Apart (left right : Assignment × Nat) : Prop :=
  left.2 = right.2 → left.1.spanEnd < right.1.start ∨ right.1.spanEnd < left.1.start

instance : Std.Symm Apart := ⟨fun _ _ apart same => (apart same.symm).symm⟩

theorem placed_apart {rowEnds : List Day} {assignments : List Assignment}
    {left right : Assignment × Nat} (leftPlaced : left ∈ placed rowEnds assignments)
    (rightPlaced : right ∈ placed rowEnds assignments) (different : left ≠ right) :
    Apart left right := by
  have pairwise : (placed rowEnds assignments).Pairwise Apart :=
    (placed_behind rowEnds assignments).2.imp fun behind same => Or.inl (behind same)
  exact pairwise.forall leftPlaced rightPlaced different

theorem exists_placed {assignments : List Assignment} {identifier : Identifier} {row : Nat}
    (stacked : ⟨identifier, row⟩ ∈ rows assignments) :
    ∃ assignment ∈ assignments, assignment.identifier = identifier ∧
      (assignment, row) ∈ placed [] (assignments.mergeSort placedBefore) := by
  rw [rows, placeAll_eq_map] at stacked
  obtain ⟨⟨assignment, ownRow⟩, member, same⟩ := List.mem_map.1 stacked
  cases same
  exact ⟨assignment, List.mem_mergeSort.1 (mem_of_mem_placed member), rfl, member⟩

def load (assignments : List Assignment) (day : Day) : Nat :=
  assignments.countP fun assignment => assignment.Spans day

/-- Two bars are in different rows, or share no day. -/
def NoOverlap (left right : Assignment × Nat) : Prop :=
  left.2 = right.2 → ∀ day, ¬ (left.1.Spans day ∧ right.1.Spans day)

theorem load_map_fst (given : List (Assignment × Nat)) (day : Day) :
    load (given.map Prod.fst) day = (given.filter fun pair => pair.1.Spans day).length := by
  rw [load, List.countP_map, List.countP_eq_length_filter]
  rfl

/-- Rows for some assignments, in which no two bars of one row share a day. -/
structure IsStacking (assignments : List Assignment) (given : List (Assignment × Nat)) : Prop where
  perm : (given.map Prod.fst).Perm assignments
  noOverlap : given.Pairwise NoOverlap

def rowsUsed (given : List (Assignment × Nat)) : Nat := (given.map Prod.snd).toFinset.card

theorem IsStacking.load_le_rowsUsed {assignments : List Assignment}
    {given : List (Assignment × Nat)} (stacking : IsStacking assignments given) (day : Day) :
    load assignments day ≤ rowsUsed given := by
  let above := given.filter fun pair => pair.1.Spans day
  have apart : (above.map Prod.snd).Nodup := by
    rw [List.nodup_iff_pairwise_ne, List.pairwise_map]
    refine (stacking.noOverlap.filter _).imp_of_mem ?_
    intro left right leftMember rightMember noOverlap same
    have leftSpans := of_decide_eq_true (List.mem_filter.1 leftMember).2
    have rightSpans := of_decide_eq_true (List.mem_filter.1 rightMember).2
    exact noOverlap same day ⟨leftSpans, rightSpans⟩
  calc
    load assignments day = load (given.map Prod.fst) day := (stacking.perm.countP_eq _).symm
    _ = (above.map Prod.snd).length := by rw [load_map_fst, List.length_map]
    _ = (above.map Prod.snd).toFinset.card := (List.toFinset_card_of_nodup apart).symm
    _ ≤ rowsUsed given := by
      apply Finset.card_le_card
      intro row member
      obtain ⟨pair, pairMember, rfl⟩ := List.mem_map.1 (List.mem_toFinset.1 member)
      exact List.mem_toFinset.2 (List.mem_map_of_mem (List.mem_of_mem_filter pairMember))

theorem map_fst_placed (rowEnds : List Day) (assignments : List Assignment) :
    (placed rowEnds assignments).map Prod.fst = assignments := by
  induction assignments generalizing rowEnds with
  | nil => rfl
  | cons assignment rest induction => exact congrArg _ (induction _)

theorem placed_noOverlap (rowEnds : List Day) (assignments : List Assignment) :
    (placed rowEnds assignments).Pairwise NoOverlap := by
  refine (placed_behind rowEnds assignments).2.imp ?_
  rintro earlier later behind same day ⟨earlierSpans, laterSpans⟩
  have before := behind same
  have low := (Assignment.spans_iff.1 laterSpans).1
  have high := (Assignment.spans_iff.1 earlierSpans).2
  simp only [Day.le_def, Day.lt_def] at *
  omega

theorem place_passes (start finish : Day) (rowEnds : List Day) :
    ∀ row < (place start finish rowEnds).1, ∃ rowEnd, rowEnds[row]? = some rowEnd ∧
      start ≤ rowEnd := by
  induction rowEnds with
  | nil => simp [place]
  | cons rowEnd rest induction =>
      intro row lower
      by_cases ended : rowEnd < start
      · simp [place, ended] at lower
      · cases row with
        | zero => exact ⟨rowEnd, rfl, Int.not_lt.1 ended⟩
        | succ row =>
            simp only [place, if_neg ended] at lower
            exact induction row (Nat.lt_of_succ_lt_succ lower)

/-- Below a bar each row has one that lies over the day on which it starts, or has not ended
since before. -/
theorem placed_crowded {rowEnds : List Day} {assignments : List Assignment}
    (sorted : assignments.Pairwise fun left right => left.start ≤ right.start)
    {pair : Assignment × Nat} (member : pair ∈ placed rowEnds assignments) {row : Nat}
    (lower : row < pair.2) :
    (∃ rowEnd, rowEnds[row]? = some rowEnd ∧ pair.1.start ≤ rowEnd) ∨
      ∃ other ∈ placed rowEnds assignments, other.2 = row ∧ other.1.Spans pair.1.start := by
  induction assignments generalizing rowEnds with
  | nil => cases member
  | cons assignment rest induction =>
      obtain ⟨startsFirst, restSorted⟩ := List.pairwise_cons.1 sorted
      obtain ⟨atRow, _, others⟩ := place_spec assignment.start assignment.spanEnd rowEnds
      rcases List.mem_cons.1 member with rfl | restMember
      · exact Or.inl (place_passes _ _ _ row lower)
      · have behind := startsFirst pair.1 (mem_of_mem_placed restMember)
        rcases induction restSorted restMember with ⟨rowEnd, found, reaches⟩ | ⟨other, further⟩
        · by_cases same : row = (place assignment.start assignment.spanEnd rowEnds).1
          · obtain rfl : rowEnd = assignment.spanEnd :=
              Option.some.inj (found.symm.trans (same ▸ atRow))
            exact Or.inr ⟨(assignment, row), by simp [placed, same],
              rfl, Assignment.spans_iff.2 ⟨behind, reaches⟩⟩
          · exact Or.inl ⟨rowEnd, (others row same).symm.trans found, reaches⟩
        · exact Or.inr ⟨other, List.mem_cons_of_mem _ further.1, further.2⟩

theorem le_load_of_placed {assignments : List Assignment}
    (sorted : assignments.Pairwise fun left right => left.start ≤ right.start)
    {pair : Assignment × Nat} (member : pair ∈ placed [] assignments) :
    pair.2 + 1 ≤ load assignments pair.1.start := by
  let above := (placed [] assignments).filter fun other => other.1.Spans pair.1.start
  have filled : Finset.range (pair.2 + 1) ⊆ (above.map Prod.snd).toFinset := by
    intro row inside
    rw [List.mem_toFinset, List.mem_map]
    rcases Nat.lt_or_eq_of_le (Nat.le_of_lt_succ (Finset.mem_range.1 inside)) with lower | own
    · rcases placed_crowded sorted member lower with ⟨_, found, _⟩ | ⟨other, placed, same, spans⟩
      · cases found
      · exact ⟨other, List.mem_filter.2 ⟨placed, decide_eq_true spans⟩, same⟩
    · have spans := pair.1.spans_start
      exact ⟨pair, List.mem_filter.2 ⟨member, decide_eq_true spans⟩, own.symm⟩
  calc
    pair.2 + 1 = (Finset.range (pair.2 + 1)).card := (Finset.card_range _).symm
    _ ≤ (above.map Prod.snd).toFinset.card := Finset.card_le_card filled
    _ ≤ (above.map Prod.snd).length := List.toFinset_card_le _
    _ = load assignments pair.1.start := by rw [List.length_map, ← load_map_fst, map_fst_placed]

/-- Of a list that is not empty the number of rows is one more than its lowest row. -/
theorem rowCount_spec {stacked : List StackedAssignment} (nonempty : stacked ≠ []) :
    (∃ lowest ∈ stacked, lowest.subRow + 1 = rowCount stacked) ∧
      ∀ other ∈ stacked, other.subRow + 1 ≤ rowCount stacked := by
  have mapped : stacked.map (fun stacked => stacked.subRow + 1) ≠ [] := by simpa using nonempty
  obtain ⟨greatest, isGreatest⟩ := Option.isSome_iff_exists.1 (List.isSome_max?_of_ne_nil mapped)
  obtain ⟨member, bound⟩ := List.max?_eq_some_iff.1 isGreatest
  obtain ⟨lowest, lowestMember, rfl⟩ := List.mem_map.1 member
  have count : rowCount stacked = lowest.subRow + 1 := by
    rw [rowCount, List.foldl_max, isGreatest, Option.getD_some]
    omega
  rw [count]
  exact ⟨⟨lowest, lowestMember, rfl⟩, fun other otherMember =>
    bound _ (List.mem_map_of_mem otherMember)⟩

/-- The assignments in the order of placement, with the rows they are given. -/
def inOrder (assignments : List Assignment) : List (Assignment × Nat) :=
  placed [] (assignments.mergeSort placedBefore)

theorem rows_eq_map (assignments : List Assignment) :
    rows assignments = (inOrder assignments).map fun pair => ⟨pair.1.identifier, pair.2⟩ :=
  placeAll_eq_map [] _

theorem inOrder_isStacking (assignments : List Assignment) :
    IsStacking assignments (inOrder assignments) where
  perm := by
    rw [inOrder, map_fst_placed]
    exact List.mergeSort_perm assignments placedBefore
  noOverlap := placed_noOverlap [] _

/-- Some day is as crowded as there are rows, and none is more so. -/
theorem rowCount_isGreatest {assignments : List Assignment} (nonempty : assignments ≠ []) :
    IsGreatest (Set.range (load assignments)) (rowCount (rows assignments)) := by
  have stacking := inOrder_isStacking assignments
  have rowsNonempty : rows assignments ≠ [] := by
    intro empty
    rw [rows_eq_map, List.map_eq_nil_iff] at empty
    have unplaced := stacking.perm
    rw [empty] at unplaced
    exact nonempty unplaced.nil_eq.symm
  obtain ⟨⟨lowest, member, count⟩, bound⟩ := rowCount_spec rowsNonempty
  have used : rowsUsed (inOrder assignments) ≤ rowCount (rows assignments) := by
    have within : ((inOrder assignments).map Prod.snd).toFinset ⊆
        Finset.range (rowCount (rows assignments)) := by
      intro row rowMember
      obtain ⟨pair, placed, rfl⟩ := List.mem_map.1 (List.mem_toFinset.1 rowMember)
      apply Finset.mem_range.2
      apply bound ⟨pair.1.identifier, pair.2⟩
      rw [rows_eq_map]
      exact List.mem_map_of_mem placed
    exact (Finset.card_le_card within).trans_eq (Finset.card_range _)
  have loadLe : ∀ day, load assignments day ≤ rowCount (rows assignments) := fun day =>
    (stacking.load_le_rowsUsed day).trans used
  constructor
  · rw [rows_eq_map] at member
    obtain ⟨pair, placed, rfl⟩ := List.mem_map.1 member
    have sorted := (mergeSort_earlier assignments).imp Earlier.start_le
    have crowded := le_load_of_placed sorted placed
    have same := (List.mergeSort_perm assignments placedBefore).countP_eq
      fun assignment => decide (assignment.Spans pair.1.start)
    refine ⟨pair.1.start, Nat.le_antisymm (loadLe _) ?_⟩
    rw [← count, load, ← same]
    exact crowded
  · rintro _ ⟨day, rfl⟩
    exact loadLe day

/-- Each assignment is given one row, in the order of start and identifier.  Bars of one row share
no day, there are just as many rows as bars lie over the most crowded day, which no other rows
without overlaps can undercut, and the order of the assignments does not matter. -/
theorem rows_stack_minimally (assignments : List Assignment) :
    ∃ given : List (Assignment × Nat),
      rows assignments = given.map (fun pair => ⟨pair.1.identifier, pair.2⟩) ∧
      IsStacking assignments given ∧
      (given.map Prod.fst).Pairwise Earlier ∧
      (assignments = [] → rowCount (rows assignments) = 1) ∧
      (assignments ≠ [] →
        IsGreatest (Set.range (load assignments)) (rowCount (rows assignments)) ∧
        ∀ other, IsStacking assignments other → rowCount (rows assignments) ≤ rowsUsed other) ∧
      ∀ permuted, assignments.Perm permuted →
        (assignments.map fun assignment => (assignment.start, assignment.identifier)).Nodup →
          rows permuted = rows assignments := by
  refine ⟨inOrder assignments, rows_eq_map assignments, inOrder_isStacking assignments, ?_, ?_, ?_,
    ?_⟩
  · rw [inOrder, map_fst_placed]
    exact mergeSort_earlier assignments
  · rintro rfl
    rw [rows, List.mergeSort_nil]
    rfl
  · intro nonempty
    have greatest := rowCount_isGreatest nonempty
    refine ⟨greatest, fun other stacking => ?_⟩
    obtain ⟨day, crowded⟩ := greatest.1
    rw [← crowded]
    exact stacking.load_le_rowsUsed day
  · intro permuted permutation distinct
    rw [rows, rows, mergeSort_eq_of_perm distinct permutation]

def sampleMonday : Day := ⟨740070, by decide, by decide⟩

def sampleTuesday : Day := ⟨740071, by decide, by decide⟩

def sampleLong : Assignment := .ofCode ⟨2⟩ ⟨12⟩ "B" sampleMonday sampleTuesday 1

def sampleShort : Assignment := .ofCode ⟨1⟩ ⟨11⟩ "A" sampleMonday sampleMonday 1

def sampleReversed : Assignment :=
  { (Assignment.ofCode ⟨3⟩ ⟨13⟩ "C" sampleTuesday sampleTuesday 1) with finish := sampleMonday }

theorem rows_stack_minimally_three :
    let sample := [sampleShort, sampleLong, sampleReversed]
    sample ≠ [] ∧
      (sample.map fun assignment => (assignment.start, assignment.identifier)).Nodup ∧
      rows sample = [⟨⟨1⟩, 0⟩, ⟨⟨2⟩, 1⟩, ⟨⟨3⟩, 0⟩] ∧
      rows [sampleReversed, sampleLong, sampleShort] = rows sample ∧
      load sample sampleTuesday = 2 ∧
      (∀ day, load sample day ≤ 2) ∧
      ∀ other, IsStacking sample other → 2 ≤ rowsUsed other := by
  intro sample
  have nonempty : sample ≠ [] := by simp [sample]
  have distinct :
      (sample.map fun assignment => (assignment.start, assignment.identifier)).Nodup := by decide
  have placed : rows sample = [⟨⟨1⟩, 0⟩, ⟨⟨2⟩, 1⟩, ⟨⟨3⟩, 0⟩] := by
    rw [rows, List.mergeSort_of_pairwise (by decide)]
    decide
  have count : rowCount (rows sample) = 2 := by
    rw [placed]
    rfl
  obtain ⟨_, _, _, _, _, fewest, anyOrder⟩ := rows_stack_minimally sample
  obtain ⟨greatest, minimal⟩ := fewest nonempty
  rw [count] at greatest minimal
  refine ⟨nonempty, distinct, placed, ?_, by decide, fun day => greatest.2 ⟨day, rfl⟩, minimal⟩
  exact anyOrder _ (List.reverse_perm sample).symm distinct

end Stack

end LoadChart
