import LoadChart.Proofs.Filter.Search

/-!
# The numbers beside the toggles

The numbers of lanes are counted without any filter, and each is the number of lanes that the
standard filter leaves with the one change that the number stands beside.  A pool is known exactly
if its toggle leaves a lane.  What a filter leaves keeps its order, and of two filters either may
come first.
-/

namespace LoadChart

theorem OrderedSet.meets_eq_true {α : Type} [Ranked α] {left right : OrderedSet α} :
    left.meets right = true ↔ ∃ item ∈ left, item ∈ right := by
  simp [meets, mem_def]

namespace Filter

variable {filter : Filter} {lane : Lane}

theorem accepts_iff :
    filter.accepts lane = true ↔
      filter.matchesSearch lane = true ∧ lane.category ∈ filter.categories ∧
        (filter.onlyOverallocated = true → lane.isOverallocated = true) ∧
        (filter.onlyAssigned = true → lane.hasAssignments = true) ∧
        (filter.pools.isEmpty = true ∨ ∃ pool ∈ filter.pools, pool ∈ lane.pools) := by
  simp only [accepts, Bool.and_eq_true, Bool.or_eq_true, Bool.not_eq_true', and_assoc,
    OrderedSet.contains_eq_true, OrderedSet.meets_eq_true, ← Bool.not_eq_true,
    Decidable.imp_iff_not_or]

theorem matchesSearch_of_search (empty : filter.search = "") (lane : Lane) :
    filter.matchesSearch lane = true := by
  rw [matchesSearch, empty]
  rfl

@[simp]
theorem standard_search : standard.search = "" := rfl

@[simp]
theorem mem_standard_categories (category : Category) : category ∈ standard.categories := by
  rw [← OrderedSet.contains_eq_true]
  cases category <;> rfl

@[simp]
theorem standard_onlyOverallocated : standard.onlyOverallocated = false := rfl

@[simp]
theorem standard_onlyAssigned : standard.onlyAssigned = false := rfl

@[simp]
theorem standard_pools_isEmpty : standard.pools.isEmpty = true := rfl

theorem accepts_withCategories {categories : OrderedSet Category} :
    (standard.withCategories categories).accepts lane = true ↔ lane.category ∈ categories := by
  simp [accepts_iff, withCategories, matchesSearch_of_search]

theorem accepts_withOnlyOverallocated :
    (standard.withOnlyOverallocated true).accepts lane = true ↔ lane.isOverallocated = true := by
  simp [accepts_iff, withOnlyOverallocated, matchesSearch_of_search]

theorem accepts_withOnlyAssigned :
    (standard.withOnlyAssigned true).accepts lane = true ↔ lane.hasAssignments = true := by
  simp [accepts_iff, withOnlyAssigned, matchesSearch_of_search]

theorem accepts_withPoolToggled {pool : Identifier} :
    (standard.withPoolToggled pool).accepts lane = true ↔ pool ∈ lane.pools := by
  have toggled : standard.pools.toggle pool = OrderedSet.ofList [pool] := rfl
  have restricts : (OrderedSet.ofList [pool]).isEmpty = false := rfl
  simp [accepts_iff, withPoolToggled, matchesSearch_of_search, toggled, restricts]

theorem length_apply_of_accepts {test : Lane → Bool}
    (same : ∀ lane, filter.accepts lane = true ↔ test lane = true) (lanes : List Lane) :
    (filter.apply lanes).length = lanes.countP test := by
  rw [apply, ← List.countP_eq_length_filter]
  exact List.countP_congr fun lane _ => same lane

end Filter

namespace FilterStats

variable {stats : FilterStats} {lanes : List Lane}

theorem foldl_count (stats : FilterStats) (lanes : List Lane) :
    lanes.foldl count stats =
      { total := stats.total + lanes.length
        labor := stats.labor + lanes.countP (·.category = .labor)
        equipment := stats.equipment + lanes.countP (·.category = .equipment)
        material := stats.material + lanes.countP (·.category = .material)
        overallocated := stats.overallocated + lanes.countP Lane.isOverallocated
        assigned := stats.assigned + lanes.countP Lane.hasAssignments } := by
  induction lanes generalizing stats with
  | nil => rfl
  | cons lane rest induction =>
      rw [List.foldl_cons, induction]
      simp only [count, List.length_cons, List.countP_cons, decide_eq_true_eq, mk.injEq]
      omega

theorem countOf_ofLanes (category : Category) (lanes : List Lane) :
    (ofLanes lanes).countOf category = lanes.countP (·.category = category) := by
  rw [ofLanes, foldl_count]
  cases category <;> exact Nat.zero_add _

/-- The numbers of the categories add up to the number of all lanes. -/
def IsBalanced (stats : FilterStats) : Prop :=
  stats.labor + stats.equipment + stats.material = stats.total

/-- Each lane is counted for exactly one category. -/
theorem IsBalanced.count (balanced : stats.IsBalanced) (lane : Lane) :
    (stats.count lane).IsBalanced := by
  unfold IsBalanced at balanced ⊢
  cases category : lane.category <;> simp [FilterStats.count, category] <;> omega

theorem ofLanes_isBalanced (lanes : List Lane) : (ofLanes lanes).IsBalanced := by
  have balanced : zero.IsBalanced := rfl
  unfold ofLanes
  -- The numbers before the first lane are zero, but not those before the others.
  generalize zero = stats at balanced ⊢
  induction lanes generalizing stats with
  | nil => exact balanced
  | cons lane rest induction => exact induction (stats.count lane) (balanced.count lane)

/-- The numbers are those of the lanes that are left by the standard filter with one change. -/
structure Delivered (stats : FilterStats) (lanes : List Lane) : Prop where
  total : stats.total = (Filter.standard.apply lanes).length
  countOf : ∀ category, stats.countOf category =
    ((Filter.standard.withCategories (OrderedSet.ofList [category])).apply lanes).length
  balanced : stats.countOf .labor + stats.countOf .equipment + stats.countOf .material = stats.total
  overallocated : stats.overallocated =
    ((Filter.standard.withOnlyOverallocated true).apply lanes).length
  assigned : stats.assigned = ((Filter.standard.withOnlyAssigned true).apply lanes).length

theorem ofLanes_delivered (lanes : List Lane) : (ofLanes lanes).Delivered lanes where
  total := by
    have all : ∀ lane, Filter.standard.accepts lane = true ↔ (fun _ : Lane => true) lane = true :=
      fun lane => by simp [Filter.standard_accepts]
    rw [Filter.length_apply_of_accepts all, List.countP_true, ofLanes, foldl_count]
    exact Nat.zero_add _
  countOf category := by
    have one : ∀ lane, (Filter.standard.withCategories (OrderedSet.ofList [category])).accepts lane =
        true ↔ decide (lane.category = category) = true := fun lane => by
      simp [Filter.accepts_withCategories]
    rw [countOf_ofLanes, Filter.length_apply_of_accepts one]
  balanced := ofLanes_isBalanced lanes
  overallocated := by
    rw [Filter.length_apply_of_accepts fun _ => Filter.accepts_withOnlyOverallocated, ofLanes,
      foldl_count]
    exact Nat.zero_add _
  assigned := by
    rw [Filter.length_apply_of_accepts fun _ => Filter.accepts_withOnlyAssigned, ofLanes,
      foldl_count]
    exact Nat.zero_add _

end FilterStats

theorem mem_knownPools {lanes : List Lane} {pool : Identifier} :
    pool ∈ knownPools lanes ↔ ∃ lane ∈ lanes, pool ∈ lane.pools := by
  rw [knownPools, OrderedSet.mem_ofList, List.mem_flatMap]
  rfl

namespace Filter

theorem mem_knownPools_iff_apply {lanes : List Lane} {pool : Identifier} :
    pool ∈ knownPools lanes ↔ (standard.withPoolToggled pool).apply lanes ≠ [] := by
  rw [mem_knownPools]
  constructor
  · rintro ⟨lane, member, holds⟩
    exact List.ne_nil_of_mem (List.mem_filter.2 ⟨member, accepts_withPoolToggled.2 holds⟩)
  · intro left
    obtain ⟨lane, member⟩ := List.exists_mem_of_ne_nil _ left
    obtain ⟨member, accepted⟩ := List.mem_filter.1 member
    exact ⟨lane, member, accepts_withPoolToggled.1 accepted⟩

theorem apply_comm (filter other : Filter) (lanes : List Lane) :
    other.apply (filter.apply lanes) = filter.apply (other.apply lanes) := by
  rw [apply, apply, apply, apply, List.filter_filter, List.filter_filter]
  exact List.filter_congr fun lane _ => Bool.and_comm _ _

/-- The numbers beside the toggles are those of the lanes that the toggles leave, and the known
pools are those whose toggles leave any.  Every filter leaves lanes in their order, and of two
filters either may come first. -/
theorem counts_are_delivered (lanes : List Lane) :
    (FilterStats.ofLanes lanes).Delivered lanes ∧
      (∀ pool, pool ∈ knownPools lanes ↔ (standard.withPoolToggled pool).apply lanes ≠ []) ∧
      ∀ filter : Filter, (filter.apply lanes).Sublist lanes ∧
        ∀ other : Filter, other.apply (filter.apply lanes) = filter.apply (other.apply lanes) :=
  ⟨FilterStats.ofLanes_delivered lanes, fun _ => mem_knownPools_iff_apply, fun filter =>
    ⟨List.filter_sublist, fun other => apply_comm filter other lanes⟩⟩

end Filter

end LoadChart
