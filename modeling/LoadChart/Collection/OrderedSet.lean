/-!
# Finite sets in ascending order

A finite set over a type with an injective rank is its members in ascending order of rank.  Two
sets with the same members are therefore equal.
-/

namespace LoadChart

/-- A type whose values are told apart, and sorted, by an integer. -/
class Ranked (α : Type) where
  rank : α → Int
  rank_injective : ∀ {left right : α}, rank left = rank right → left = right

open Ranked (rank rank_injective)

instance : Ranked Nat where
  rank number := number
  rank_injective := Int.ofNat.inj

/-- The members of a finite set, ascending. -/
structure OrderedSet (α : Type) [Ranked α] where
  toList : List α
  ascending : toList.Pairwise fun left right => rank left < rank right

namespace OrderedSet

variable {α : Type} [Ranked α]

@[ext]
theorem ext_toList {left right : OrderedSet α} (same : left.toList = right.toList) :
    left = right := by
  cases left
  cases right
  cases same
  rfl

instance [DecidableEq α] : DecidableEq (OrderedSet α) := fun left right =>
  if same : left.toList = right.toList then isTrue (ext_toList same)
  else isFalse fun equal => same (equal ▸ rfl)

instance : Membership α (OrderedSet α) := ⟨fun set item => item ∈ set.toList⟩

theorem mem_def {item : α} {set : OrderedSet α} : item ∈ set ↔ item ∈ set.toList := Iff.rfl

def empty : OrderedSet α := ⟨[], List.Pairwise.nil⟩

def isEmpty (set : OrderedSet α) : Bool := set.toList.isEmpty

def size (set : OrderedSet α) : Nat := set.toList.length

def contains (set : OrderedSet α) (item : α) : Bool :=
  set.toList.any fun member => rank member == rank item

/-- Puts an item into an ascending list, unless it is there. -/
def insertInto (item : α) : List α → List α
  | [] => [item]
  | head :: tail =>
      if rank item < rank head then item :: head :: tail
      else if rank item = rank head then head :: tail
      else head :: insertInto item tail

theorem mem_insertInto {item other : α} {items : List α} :
    other ∈ insertInto item items ↔ other = item ∨ other ∈ items := by
  induction items with
  | nil => simp [insertInto]
  | cons head tail hypothesis =>
      unfold insertInto
      split
      · simp
      · split
        next equal =>
          have same : item = head := rank_injective equal
          subst same
          simp
        next => simp [hypothesis, or_left_comm]

theorem ascending_insertInto {item : α} {items : List α}
    (ascending : items.Pairwise fun left right => rank left < rank right) :
    (insertInto item items).Pairwise fun left right => rank left < rank right := by
  induction items with
  | nil => simp [insertInto]
  | cons head tail hypothesis =>
      have ⟨above, rest⟩ := List.pairwise_cons.1 ascending
      unfold insertInto
      split
      next below =>
        refine List.pairwise_cons.2 ⟨fun other member => ?_, ascending⟩
        rcases List.mem_cons.1 member with rfl | member
        · exact below
        · exact Int.lt_trans below (above other member)
      next notBelow =>
        split
        · exact ascending
        next different =>
          refine List.pairwise_cons.2 ⟨fun other member => ?_, hypothesis rest⟩
          rcases mem_insertInto.1 member with rfl | member
          · omega
          · exact above other member

def insert (set : OrderedSet α) (item : α) : OrderedSet α :=
  ⟨insertInto item set.toList, ascending_insertInto set.ascending⟩

def erase (set : OrderedSet α) (item : α) : OrderedSet α :=
  ⟨set.toList.filter fun member => rank member != rank item, set.ascending.filter _⟩

def toggle (set : OrderedSet α) (item : α) : OrderedSet α :=
  if set.contains item then set.erase item else set.insert item

def ofList (items : List α) : OrderedSet α := items.foldl insert empty

def meets (left right : OrderedSet α) : Bool := left.toList.any right.contains

@[simp]
theorem not_mem_empty {item : α} : item ∉ (empty : OrderedSet α) := by simp [mem_def, empty]

@[simp]
theorem contains_eq_true {set : OrderedSet α} {item : α} :
    set.contains item = true ↔ item ∈ set := by
  simp only [contains, List.any_eq_true, beq_iff_eq, mem_def]
  constructor
  · rintro ⟨member, isMember, equal⟩
    exact rank_injective equal ▸ isMember
  · exact fun isMember => ⟨item, isMember, rfl⟩

@[simp]
theorem mem_insert {set : OrderedSet α} {item other : α} :
    other ∈ set.insert item ↔ other = item ∨ other ∈ set :=
  mem_insertInto

@[simp]
theorem mem_erase {set : OrderedSet α} {item other : α} :
    other ∈ set.erase item ↔ other ∈ set ∧ other ≠ item := by
  simp only [mem_def, erase, List.mem_filter, bne_iff_ne, ne_eq]
  constructor
  · rintro ⟨member, different⟩
    exact ⟨member, fun same => different (same ▸ rfl)⟩
  · rintro ⟨member, different⟩
    exact ⟨member, fun same => different (rank_injective same)⟩

theorem mem_toggle {set : OrderedSet α} {item other : α} :
    other ∈ set.toggle item ↔ (other ≠ item ∧ other ∈ set) ∨ (other = item ∧ item ∉ set) := by
  unfold toggle
  split
  next isMember =>
    rw [contains_eq_true] at isMember
    simp [isMember, and_comm]
  next noMember =>
    rw [contains_eq_true] at noMember
    rw [mem_insert]
    constructor
    · rintro (rfl | member)
      · exact Or.inr ⟨rfl, noMember⟩
      · exact Or.inl ⟨fun same => noMember (same ▸ member), member⟩
    · rintro (⟨_, member⟩ | ⟨same, _⟩)
      · exact Or.inr member
      · exact Or.inl same

theorem mem_foldl_insert {items : List α} {set : OrderedSet α} {item : α} :
    item ∈ items.foldl insert set ↔ item ∈ items ∨ item ∈ set := by
  induction items generalizing set with
  | nil => simp
  | cons head tail hypothesis =>
      simp only [List.foldl_cons, hypothesis, mem_insert, List.mem_cons]
      constructor
      · rintro (member | same | member)
        · exact Or.inl (Or.inr member)
        · exact Or.inl (Or.inl same)
        · exact Or.inr member
      · rintro ((same | member) | member)
        · exact Or.inr (Or.inl same)
        · exact Or.inl member
        · exact Or.inr (Or.inr member)

@[simp]
theorem mem_ofList {items : List α} {item : α} : item ∈ ofList items ↔ item ∈ items := by
  simp [ofList, mem_foldl_insert]

end OrderedSet

end LoadChart
