import LoadChart.Collection.OrderedSet

/-!
# Finite maps in ascending order of keys

A finite map over keys with an injective rank is its entries in ascending order of their keys.
-/

namespace LoadChart

open Ranked (rank rank_injective)

/-- The entries of a finite map, ascending by key. -/
structure OrderedMap (κ : Type) [Ranked κ] (β : Type) where
  entries : List (κ × β)
  ascending : entries.Pairwise fun left right => rank left.1 < rank right.1

namespace OrderedMap

variable {κ : Type} [Ranked κ] {β γ : Type}

@[ext]
theorem ext_entries {left right : OrderedMap κ β} (same : left.entries = right.entries) :
    left = right := by
  cases left
  cases right
  cases same
  rfl

def empty : OrderedMap κ β := ⟨[], List.Pairwise.nil⟩

def find? (map : OrderedMap κ β) (key : κ) : Option β :=
  (map.entries.find? fun entry => rank entry.1 == rank key).map Prod.snd

def values (map : OrderedMap κ β) : List β := map.entries.map Prod.snd

def keys (map : OrderedMap κ β) : List κ := map.entries.map Prod.fst

/-- Puts an entry into an ascending list, in place of one with the same key. -/
def insertInto (key : κ) (value : β) : List (κ × β) → List (κ × β)
  | [] => [(key, value)]
  | head :: tail =>
      if rank key < rank head.1 then (key, value) :: head :: tail
      else if rank key = rank head.1 then (key, value) :: tail
      else head :: insertInto key value tail

theorem key_of_mem_insertInto {key : κ} {value : β} {entry : κ × β} {entries : List (κ × β)}
    (member : entry ∈ insertInto key value entries) : entry.1 = key ∨ entry ∈ entries := by
  induction entries with
  | nil =>
      simp only [insertInto, List.mem_singleton] at member
      exact Or.inl (member ▸ rfl)
  | cons head tail hypothesis =>
      unfold insertInto at member
      split at member
      · rcases List.mem_cons.1 member with rfl | member
        · exact Or.inl rfl
        · exact Or.inr member
      · split at member
        · rcases List.mem_cons.1 member with rfl | member
          · exact Or.inl rfl
          · exact Or.inr (List.mem_cons_of_mem _ member)
        · rcases List.mem_cons.1 member with rfl | member
          · exact Or.inr List.mem_cons_self
          · rcases hypothesis member with same | member
            · exact Or.inl same
            · exact Or.inr (List.mem_cons_of_mem _ member)

theorem ascending_insertInto {key : κ} {value : β} {entries : List (κ × β)}
    (ascending : entries.Pairwise fun left right => rank left.1 < rank right.1) :
    (insertInto key value entries).Pairwise fun left right => rank left.1 < rank right.1 := by
  induction entries with
  | nil => simp [insertInto]
  | cons head tail hypothesis =>
      have ⟨above, rest⟩ := List.pairwise_cons.1 ascending
      unfold insertInto
      split
      next below =>
        refine List.pairwise_cons.2 ⟨fun other member => ?_, ascending⟩
        rcases List.mem_cons.1 member with rfl | member
        · exact below
        · exact Int.lt_trans below (above other member)
      next notBelow =>
        split
        next equal =>
          refine List.pairwise_cons.2 ⟨fun other member => ?_, rest⟩
          exact equal ▸ above other member
        next different =>
          refine List.pairwise_cons.2 ⟨fun other member => ?_, hypothesis rest⟩
          rcases key_of_mem_insertInto member with same | member
          · rw [same]
            omega
          · exact above other member

def insert (map : OrderedMap κ β) (key : κ) (value : β) : OrderedMap κ β :=
  ⟨insertInto key value map.entries, ascending_insertInto map.ascending⟩

def filterKeys (map : OrderedMap κ β) (keep : κ → Bool) : OrderedMap κ β :=
  ⟨map.entries.filter fun entry => keep entry.1, map.ascending.filter _⟩

def erase (map : OrderedMap κ β) (key : κ) : OrderedMap κ β :=
  map.filterKeys fun other => rank other != rank key

def mapValues (map : OrderedMap κ β) (change : κ → β → γ) : OrderedMap κ γ :=
  ⟨map.entries.map fun entry => (entry.1, change entry.1 entry.2),
    List.pairwise_map.2 (map.ascending.imp fun below => below)⟩

end OrderedMap

end LoadChart
