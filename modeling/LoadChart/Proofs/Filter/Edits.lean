import LoadChart.Filter
import LoadChart.Proofs.Collection
import LoadChart.Proofs.Filter.Counts
import Mathlib.Data.List.DropRight
import Mathlib.Data.List.Induction

/-!
# What a run of edits makes of a filter

A part that is set keeps the last value that it was given since the filter was cleared, and a part
that is toggled keeps the items that were toggled an odd number of times.  No edit disturbs another
part, so edits of different parts may change places.
-/

namespace LoadChart

namespace FilterEdit

/-- The parts of a filter. -/
inductive Part where
  | search
  | categories
  | onlyOverallocated
  | onlyAssigned
  | pools
deriving DecidableEq

/-- The part that is edited, unless all are. -/
def part? : FilterEdit → Option Part
  | .search _ => some .search
  | .toggleCategory _ | .setCategories _ => some .categories
  | .togglePool _ => some .pools
  | .setOnlyOverallocated _ => some .onlyOverallocated
  | .setOnlyAssigned _ => some .onlyAssigned
  | .clear => none

/-- Edits of different parts, or toggles of different items. -/
inductive Independent : FilterEdit → FilterEdit → Prop where
  | parts {left right : FilterEdit} {part other : Part} :
      left.part? = some part → right.part? = some other → part ≠ other → Independent left right
  | categories {category other : Category} :
      category ≠ other → Independent (.toggleCategory category) (.toggleCategory other)
  | pools {pool other : Identifier} :
      pool ≠ other → Independent (.togglePool pool) (.togglePool other)

def isClear : FilterEdit → Bool
  | .clear => true
  | _ => false

def searchTerm? : FilterEdit → Option String
  | .search term => some term
  | _ => none

def onlyOverallocated? : FilterEdit → Option Bool
  | .setOnlyOverallocated on => some on
  | _ => none

def onlyAssigned? : FilterEdit → Option Bool
  | .setOnlyAssigned on => some on
  | _ => none

def categories? : FilterEdit → Option (OrderedSet Category)
  | .setCategories categories => some categories
  | _ => none

def category? : FilterEdit → Option Category
  | .toggleCategory category => some category
  | _ => none

def pool? : FilterEdit → Option Identifier
  | .togglePool pool => some pool
  | _ => none

def sinceClear (edits : List FilterEdit) : List FilterEdit := edits.rtakeWhile (!·.isClear)

def last? {β : Type} (read? : FilterEdit → Option β) (edits : List FilterEdit) : Option β :=
  ((sinceClear edits).filterMap read?).getLast?

/-- The items that were toggled since the filter was cleared and since a whole set was given. -/
def toggles {α β : Type} (given? : FilterEdit → Option β) (toggled? : FilterEdit → Option α)
    (edits : List FilterEdit) : List α :=
  ((sinceClear edits).rtakeWhile fun edit => (given? edit).isNone).filterMap toggled?

/-- The categories that a run of edits chooses: those of the last set and those toggled an odd
number of times after it, without those that are both. -/
def choosesCategory (edits : List FilterEdit) (category : Category) : Prop :=
  Xor (category ∈ (last? categories? edits).getD (OrderedSet.ofList Category.all))
    (Odd ((toggles categories? category? edits).count category))

/-- The pools that a run of edits chooses: those toggled an odd number of times. -/
def choosesPool (edits : List FilterEdit) (pool : Identifier) : Prop :=
  Odd (((sinceClear edits).filterMap pool?).count pool)

variable {edit : FilterEdit} {edits : List FilterEdit}

theorem sinceClear_concat_clear (cleared : edit.isClear = true) :
    sinceClear (edits ++ [edit]) = [] := by
  rw [sinceClear, List.rtakeWhile_concat_neg]
  simp [cleared]

theorem sinceClear_concat (kept : edit.isClear = false) :
    sinceClear (edits ++ [edit]) = sinceClear edits ++ [edit] := by
  rw [sinceClear, List.rtakeWhile_concat_pos]
  · rfl
  · simp [kept]

theorem eq_clear (cleared : edit.isClear = true) : edit = .clear := by
  cases edit <;> first | rfl | cases cleared

theorem last?_concat {β : Type} (read? : FilterEdit → Option β) (kept : edit.isClear = false) :
    last? read? (edits ++ [edit]) = (read? edit).or (last? read? edits) := by
  rw [last?, sinceClear_concat kept, List.filterMap_append, List.getLast?_append]
  cases found : read? edit <;> simp [found, last?]

theorem toggles_concat {α β : Type} (given? : FilterEdit → Option β)
    (toggled? : FilterEdit → Option α) (kept : edit.isClear = false) :
    toggles given? toggled? (edits ++ [edit]) =
      if (given? edit).isNone then toggles given? toggled? edits ++ (toggled? edit).toList else [] := by
  rw [toggles, sinceClear_concat kept, List.rtakeWhile_concat]
  split
  · cases found : toggled? edit <;> simp [found, toggles]
  · rfl

theorem last?_none {β : Type} (edits : List FilterEdit) :
    last? (fun _ => (none : Option β)) edits = none := by
  simp [last?]

theorem toggles_of_none_given {α β : Type} (toggled? : FilterEdit → Option α)
    (edits : List FilterEdit) :
    toggles (fun _ => (none : Option β)) toggled? edits =
      (sinceClear edits).filterMap toggled? := by
  rw [toggles, List.rtakeWhile_eq_self_iff.2 (by simp)]

end FilterEdit

namespace Filter

open FilterEdit

def afterEdits (edits : List FilterEdit) : Filter := edits.foldl edit standard

theorem afterEdits_concat (edits : List FilterEdit) (last : FilterEdit) :
    afterEdits (edits ++ [last]) = (afterEdits edits).edit last :=
  List.foldl_append

/-- A part that no edit but its own changes has the last value that it was given. -/
theorem part_eq_last {β : Type} (part : Filter → β) (read? : FilterEdit → Option β)
    (one : ∀ (filter : Filter) (edit : FilterEdit), edit.isClear = false →
      part (filter.edit edit) = (read? edit).getD (part filter))
    (edits : List FilterEdit) :
    part (afterEdits edits) = (last? read? edits).getD (part standard) := by
  induction edits using List.reverseRecOn with
  | nil => rfl
  | append_singleton edits edit induction =>
      rw [afterEdits_concat]
      cases cleared : edit.isClear with
      | true =>
          rw [last?, sinceClear_concat_clear cleared, eq_clear cleared]
          rfl
      | false =>
          rw [one _ _ cleared, last?_concat read? cleared, induction]
          cases read? edit <;> rfl

/-- A set that no edits but its own change is the last set that it was given, with toggles of the
items after it. -/
theorem part_eq_toggled {α : Type} [Ranked α] (part : Filter → OrderedSet α)
    (given? : FilterEdit → Option (OrderedSet α)) (toggled? : FilterEdit → Option α)
    (one : ∀ (filter : Filter) (edit : FilterEdit), edit.isClear = false →
      part (filter.edit edit) =
        (given? edit).getD ((toggled? edit).toList.foldl OrderedSet.toggle (part filter)))
    (edits : List FilterEdit) :
    part (afterEdits edits) =
      (toggles given? toggled? edits).foldl OrderedSet.toggle
        ((last? given? edits).getD (part standard)) := by
  induction edits using List.reverseRecOn with
  | nil => rfl
  | append_singleton edits edit induction =>
      rw [afterEdits_concat]
      cases cleared : edit.isClear with
      | true =>
          rw [last?, toggles, sinceClear_concat_clear cleared, eq_clear cleared]
          rfl
      | false =>
          rw [one _ _ cleared, last?_concat given? cleared, toggles_concat _ _ cleared, induction]
          cases given? edit with
          | none => simp [List.foldl_append]
          | some set => rfl

/-- The parts of a filter are those that a run of edits tells. -/
structure Told (filter : Filter) (edits : List FilterEdit) : Prop where
  search : filter.search = (last? searchTerm? edits).getD ""
  onlyOverallocated : filter.onlyOverallocated = (last? onlyOverallocated? edits).getD false
  onlyAssigned : filter.onlyAssigned = (last? onlyAssigned? edits).getD false
  categories : ∀ category, category ∈ filter.categories ↔ choosesCategory edits category
  pools : ∀ pool, pool ∈ filter.pools ↔ choosesPool edits pool

theorem afterEdits_told (edits : List FilterEdit) : (afterEdits edits).Told edits where
  search := by
    refine part_eq_last Filter.search searchTerm? ?_ edits
    intro filter edit kept
    cases edit <;> first | rfl | cases kept
  onlyOverallocated := by
    refine part_eq_last Filter.onlyOverallocated onlyOverallocated? ?_ edits
    intro filter edit kept
    cases edit <;> first | rfl | cases kept
  onlyAssigned := by
    refine part_eq_last Filter.onlyAssigned onlyAssigned? ?_ edits
    intro filter edit kept
    cases edit <;> first | rfl | cases kept
  categories := by
    intro category
    rw [part_eq_toggled Filter.categories categories? category? ?_ edits,
      OrderedSet.mem_foldl_toggle]
    · rfl
    · intro filter edit kept
      cases edit <;> first | rfl | cases kept
  pools := by
    intro pool
    rw [part_eq_toggled Filter.pools (fun _ => none) pool? ?_ edits, OrderedSet.mem_foldl_toggle,
      toggles_of_none_given, last?_none]
    · simp [xor_def, choosesPool, standard]
    · intro filter edit kept
      cases edit <;> first | rfl | cases kept

@[ext]
theorem ext_parts {left right : Filter} (search : left.search = right.search)
    (categories : ∀ category, category ∈ left.categories ↔ category ∈ right.categories)
    (onlyOverallocated : left.onlyOverallocated = right.onlyOverallocated)
    (onlyAssigned : left.onlyAssigned = right.onlyAssigned)
    (pools : ∀ pool, pool ∈ left.pools ↔ pool ∈ right.pools) : left = right := by
  cases left
  cases right
  cases search
  cases onlyOverallocated
  cases onlyAssigned
  cases OrderedSet.ext_mem categories
  cases OrderedSet.ext_mem pools
  rfl

theorem isActive_eq_false_iff {filter : Filter} : filter.isActive = false ↔ filter = standard := by
  simp [isActive]

/-- A filter is inactive exactly if the run of edits tells the standard value of each part. -/
theorem Told.isActive_eq_false_iff {filter : Filter} {edits : List FilterEdit}
    (told : filter.Told edits) :
    filter.isActive = false ↔
      (last? searchTerm? edits).getD "" = "" ∧ (∀ category, choosesCategory edits category) ∧
        (last? onlyOverallocated? edits).getD false = false ∧
        (last? onlyAssigned? edits).getD false = false ∧ ∀ pool, ¬ choosesPool edits pool := by
  rw [Filter.isActive_eq_false_iff, ← told.search, ← told.onlyOverallocated, ← told.onlyAssigned]
  simp only [← told.categories, ← told.pools]
  constructor
  · rintro rfl
    exact ⟨rfl, mem_standard_categories, rfl, rfl, fun _ => OrderedSet.not_mem_empty⟩
  · rintro ⟨search, categories, overallocated, assigned, pools⟩
    apply ext_parts
    case search => exact search
    case categories => simp [categories]
    case onlyOverallocated => exact overallocated
    case onlyAssigned => exact assigned
    case pools => simp [pools, standard]

theorem apply_of_isActive_eq_false {filter : Filter} (inactive : filter.isActive = false)
    (lanes : List Lane) : filter.apply lanes = lanes := by
  rw [isActive_eq_false_iff.1 inactive]
  exact List.filter_eq_self.2 fun lane _ => standard_accepts lane

theorem edit_comm {left right : FilterEdit} (independent : Independent left right)
    (filter : Filter) : (filter.edit left).edit right = (filter.edit right).edit left := by
  cases independent with
  | parts isPart isOther different =>
      cases left <;> cases isPart <;> cases right <;> cases isOther <;>
        first | rfl | exact absurd rfl different
  | categories =>
      simp only [edit, withCategoryToggled]
      rw [OrderedSet.toggle_comm]
  | pools =>
      simp only [edit, withPoolToggled]
      rw [OrderedSet.toggle_comm]

/-- After a run of edits the search and the flags have the values given last since the filter was
cleared, and the categories and the pools go by the parity of their toggles.  Edits of different
parts and toggles of different items may change places.  The filter is inactive exactly if the run
tells the standard value of each part; then it leaves all lanes. -/
theorem edits_go_by_parity (edits : List FilterEdit) :
    (afterEdits edits).Told edits ∧
      (∀ left right, Independent left right → ∀ filter : Filter,
        (filter.edit left).edit right = (filter.edit right).edit left) ∧
      ((afterEdits edits).isActive = false ↔
        (last? searchTerm? edits).getD "" = "" ∧ (∀ category, choosesCategory edits category) ∧
          (last? onlyOverallocated? edits).getD false = false ∧
          (last? onlyAssigned? edits).getD false = false ∧ ∀ pool, ¬ choosesPool edits pool) ∧
      ((afterEdits edits).isActive = false → ∀ lanes, (afterEdits edits).apply lanes = lanes) :=
  ⟨afterEdits_told edits, fun _ _ => edit_comm, (afterEdits_told edits).isActive_eq_false_iff,
    apply_of_isActive_eq_false⟩

/-- Edits of every kind that leave the standard filter: two before it is cleared, a set of
categories with the missing one toggled into it, and a pool and a flag there and back. -/
def sampleEdits : List FilterEdit :=
  [.search "crane", .setOnlyOverallocated true, .clear,
    .setCategories (OrderedSet.ofList [.labor, .material]), .togglePool ⟨7⟩, .setOnlyAssigned true,
    .toggleCategory .equipment, .togglePool ⟨7⟩, .setOnlyAssigned false]

theorem edits_go_by_parity_undone :
    (afterEdits sampleEdits).Told sampleEdits ∧ (∀ lanes, (afterEdits sampleEdits).apply lanes = lanes) ∧
      (standard.edit (.togglePool ⟨7⟩)).edit (.togglePool ⟨8⟩) =
        (standard.edit (.togglePool ⟨8⟩)).edit (.togglePool ⟨7⟩) := by
  obtain ⟨told, comm, _, leaves⟩ := edits_go_by_parity sampleEdits
  have inactive : (afterEdits sampleEdits).isActive = false := by decide
  exact ⟨told, leaves inactive, comm _ _ (.pools (by decide)) standard⟩

end Filter

end LoadChart
