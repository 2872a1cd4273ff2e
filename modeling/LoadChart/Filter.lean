import LoadChart.Resource.Lane
import LoadChart.Text.Letters

/-!
# Filters over lanes

A filter keeps the lanes that pass each of its parts, and a user changes one part at a time.  The
set of categories and the set of pools treat emptiness differently: no category shows nothing, while
no pool restricts nothing.
-/

namespace LoadChart

/-- What the user wants to see. -/
structure Filter where
  search : String
  categories : OrderedSet Category
  onlyOverallocated : Bool
  onlyAssigned : Bool
  pools : OrderedSet Identifier
deriving DecidableEq

namespace Filter

def standard : Filter :=
  ⟨"", OrderedSet.ofList Category.all, false, false, OrderedSet.empty⟩

def isActive (filter : Filter) : Bool := filter ≠ standard

def withSearch (filter : Filter) (term : String) : Filter := { filter with search := term }

def withCategories (filter : Filter) (categories : OrderedSet Category) : Filter :=
  { filter with categories }

def withCategoryToggled (filter : Filter) (category : Category) : Filter :=
  { filter with categories := filter.categories.toggle category }

def withPoolToggled (filter : Filter) (pool : Identifier) : Filter :=
  { filter with pools := filter.pools.toggle pool }

def withOnlyOverallocated (filter : Filter) (on : Bool) : Filter :=
  { filter with onlyOverallocated := on }

def withOnlyAssigned (filter : Filter) (on : Bool) : Filter :=
  { filter with onlyAssigned := on }

/-- Whether a text holds a term, letter case aside. -/
def textHolds (term text : String) : Bool :=
  occursIn (LetterCase.lower term.toList) (LetterCase.lower text.toList)

def matchesSearch (filter : Filter) (lane : Lane) : Bool :=
  (LetterCase.lower filter.search.toList).isEmpty || textHolds filter.search lane.code
    || textHolds filter.search lane.name

def accepts (filter : Filter) (lane : Lane) : Bool :=
  filter.matchesSearch lane && filter.categories.contains lane.category
    && (!filter.onlyOverallocated || lane.isOverallocated)
    && (!filter.onlyAssigned || lane.hasAssignments)
    && (filter.pools.isEmpty || filter.pools.meets lane.pools)

/-- The lanes that pass, in order. -/
def apply (filter : Filter) (lanes : List Lane) : List Lane := lanes.filter filter.accepts

end Filter

/-- Numbers of lanes, whatever the filter. -/
structure FilterStats where
  total : Nat
  labor : Nat
  equipment : Nat
  material : Nat
  overallocated : Nat
  assigned : Nat
deriving DecidableEq

namespace FilterStats

def zero : FilterStats := ⟨0, 0, 0, 0, 0, 0⟩

def countOf (stats : FilterStats) : Category → Nat
  | .labor => stats.labor
  | .equipment => stats.equipment
  | .material => stats.material

def count (stats : FilterStats) (lane : Lane) : FilterStats :=
  { total := stats.total + 1
    labor := stats.labor + if lane.category = .labor then 1 else 0
    equipment := stats.equipment + if lane.category = .equipment then 1 else 0
    material := stats.material + if lane.category = .material then 1 else 0
    overallocated := stats.overallocated + if lane.isOverallocated then 1 else 0
    assigned := stats.assigned + if lane.hasAssignments then 1 else 0 }

def ofLanes (lanes : List Lane) : FilterStats := lanes.foldl count zero

end FilterStats

def knownPools (lanes : List Lane) : OrderedSet Identifier :=
  OrderedSet.ofList (lanes.flatMap (·.pools.toList))

/-- One change to a filter. -/
inductive FilterEdit where
  | search (term : String)
  | toggleCategory (category : Category)
  | setCategories (categories : OrderedSet Category)
  | togglePool (pool : Identifier)
  | setOnlyOverallocated (on : Bool)
  | setOnlyAssigned (on : Bool)
  | clear

namespace Filter

def edit (filter : Filter) : FilterEdit → Filter
  | .search term => filter.withSearch term
  | .toggleCategory category => filter.withCategoryToggled category
  | .setCategories categories => filter.withCategories categories
  | .togglePool pool => filter.withPoolToggled pool
  | .setOnlyOverallocated on => filter.withOnlyOverallocated on
  | .setOnlyAssigned on => filter.withOnlyAssigned on
  | .clear => standard

end Filter

end LoadChart
