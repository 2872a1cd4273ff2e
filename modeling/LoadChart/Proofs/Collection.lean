import LoadChart.Collection.OrderedMap
import LoadChart.Collection.OrderedSet
import Mathlib.Algebra.Ring.Parity
import Mathlib.Data.List.Nodup

/-!
# Ordered sets and maps by what they hold

A set is its members, so toggles of different items may change places.  A list of toggles puts in or
takes out just the items that occur in it an odd number of times.  An ordered map is known by its
lookups: each operation is described by what is found under every key afterwards, and two maps in
which every key finds the same are equal.
-/

namespace LoadChart

namespace OrderedSet

variable {α : Type} [Ranked α] {left right set : OrderedSet α} {item first second : α}

theorem nodup_toList (set : OrderedSet α) : set.toList.Nodup :=
  set.ascending.imp fun below same => absurd (same ▸ below) (Int.lt_irrefl _)

theorem ext_mem (same : ∀ item, item ∈ left ↔ item ∈ right) : left = right := by
  apply ext_toList
  have permutation : left.toList.Perm right.toList :=
    (List.perm_ext_iff_of_nodup left.nodup_toList right.nodup_toList).2 same
  refine permutation.eq_of_pairwise ?_ left.ascending right.ascending
  intro one other _ _ below above
  exact absurd below (Int.lt_asymm above)

theorem mem_toggle_iff_xor : second ∈ set.toggle first ↔ Xor (second ∈ set) (second = first) := by
  rw [mem_toggle, xor_def]
  constructor
  · rintro (⟨different, member⟩ | ⟨rfl, noMember⟩)
    · exact Or.inl ⟨member, different⟩
    · exact Or.inr ⟨rfl, noMember⟩
  · rintro (⟨member, different⟩ | ⟨rfl, noMember⟩)
    · exact Or.inl ⟨different, member⟩
    · exact Or.inr ⟨rfl, noMember⟩

theorem toggle_comm (set : OrderedSet α) (first second : α) :
    (set.toggle first).toggle second = (set.toggle second).toggle first := by
  apply ext_mem
  intro item
  simp only [mem_toggle_iff_xor, xor_def]
  tauto

theorem mem_foldl_toggle [DecidableEq α] (toggles : List α) (set : OrderedSet α) (item : α) :
    item ∈ toggles.foldl toggle set ↔ Xor (item ∈ set) (Odd (toggles.count item)) := by
  induction toggles generalizing set with
  | nil => simp [xor_def]
  | cons head tail induction =>
      rw [List.foldl_cons, induction, mem_toggle_iff_xor]
      by_cases same : item = head
      · subst same
        rw [List.count_cons_self, Nat.odd_add_one]
        simp only [xor_def]
        tauto
      · rw [List.count_cons_of_ne (Ne.symm same)]
        simp [same, xor_def]

end OrderedSet

open Ranked (rank rank_injective)

namespace OrderedMap

variable {κ : Type} [Ranked κ] {β γ : Type}

/-- The search for a key stops at its entry, since no earlier entry has that key. -/
theorem find?_of_mem_entries {entries : List (κ × β)} {key : κ} {value : β}
    (ascending : entries.Pairwise fun left right => rank left.1 < rank right.1)
    (member : (key, value) ∈ entries) :
    (entries.find? fun entry => rank entry.1 == rank key) = some (key, value) := by
  induction entries with
  | nil => cases member
  | cons head tail induction =>
      obtain ⟨above, rest⟩ := List.pairwise_cons.1 ascending
      rcases List.mem_cons.1 member with same | member
      · subst same
        simp
      · have below := above (key, value) member
        have different : (rank head.1 == rank key) = false := by
          simpa using Int.ne_of_lt below
        rw [List.find?_cons_of_neg (by simp [different])]
        exact induction rest member

theorem mem_entries {map : OrderedMap κ β} {key : κ} {value : β} :
    (key, value) ∈ map.entries ↔ map.find? key = some value := by
  constructor
  · intro member
    simp [find?, find?_of_mem_entries map.ascending member]
  · intro found
    obtain ⟨⟨other, value⟩, foundEq, rfl⟩ := Option.map_eq_some_iff.1 found
    have sameKey : other = key := rank_injective (by simpa using List.find?_some foundEq)
    subst sameKey
    exact List.mem_of_find?_eq_some foundEq

theorem ext_find? {left right : OrderedMap κ β}
    (same : ∀ key, left.find? key = right.find? key) : left = right := by
  have sameMembers : ∀ entry, entry ∈ left.entries ↔ entry ∈ right.entries := by
    rintro ⟨key, value⟩
    rw [mem_entries, mem_entries, same]
  have nodup : ∀ map : OrderedMap κ β, map.entries.Nodup := by
    intro map
    exact map.ascending.imp fun below equal => absurd (equal ▸ below) (Int.lt_irrefl _)
  have permutation : left.entries.Perm right.entries :=
    (List.perm_ext_iff_of_nodup (nodup left) (nodup right)).2 sameMembers
  refine ext_entries (permutation.eq_of_pairwise ?_ left.ascending right.ascending)
  intro first second _ _ below above
  exact absurd (Int.lt_trans below above) (Int.lt_irrefl _)

@[simp] theorem find?_empty (key : κ) : (empty : OrderedMap κ β).find? key = none := rfl

theorem mem_insertInto {key : κ} {value : β} {entries : List (κ × β)}
    (ascending : entries.Pairwise fun left right => rank left.1 < rank right.1)
    {entry : κ × β} :
    entry ∈ insertInto key value entries ↔
      entry = (key, value) ∨ (entry ∈ entries ∧ entry.1 ≠ key) := by
  induction entries with
  | nil => simp [insertInto]
  | cons head tail induction =>
      obtain ⟨above, rest⟩ := List.pairwise_cons.1 ascending
      have aboveOf : ∀ {other : κ × β}, rank key ≤ rank head.1 → other ∈ tail →
          other.1 ≠ key := by
        intro other atMost member same
        have below := above other member
        rw [same] at below
        exact absurd (Int.lt_of_le_of_lt atMost below) (Int.lt_irrefl _)
      unfold insertInto
      split
      next below =>
        have headOther : head.1 ≠ key := by
          intro same
          exact absurd (same ▸ below) (Int.lt_irrefl _)
        simp only [List.mem_cons]
        constructor
        · rintro (same | same | member)
          · exact Or.inl same
          · exact Or.inr ⟨Or.inl same, same ▸ headOther⟩
          · exact Or.inr ⟨Or.inr member, aboveOf (Int.le_of_lt below) member⟩
        · rintro (same | ⟨same | member, _⟩)
          · exact Or.inl same
          · exact Or.inr (Or.inl same)
          · exact Or.inr (Or.inr member)
      next notBelow =>
        split
        next equal =>
          have sameKey : key = head.1 := rank_injective equal
          simp only [List.mem_cons]
          constructor
          · rintro (same | member)
            · exact Or.inl same
            · exact Or.inr ⟨Or.inr member, aboveOf (Int.le_of_eq equal) member⟩
          · rintro (same | ⟨same | member, different⟩)
            · exact Or.inl same
            · exact absurd (same ▸ sameKey.symm) different
            · exact Or.inr member
        next different =>
          have headOther : head.1 ≠ key := by
            intro same
            exact different (by rw [same])
          simp only [List.mem_cons, induction rest]
          constructor
          · rintro (same | same | ⟨member, other⟩)
            · exact Or.inr ⟨Or.inl same, same ▸ headOther⟩
            · exact Or.inl same
            · exact Or.inr ⟨Or.inr member, other⟩
          · rintro (same | ⟨same | member, other⟩)
            · exact Or.inr (Or.inl same)
            · exact Or.inl same
            · exact Or.inr (Or.inr ⟨member, other⟩)

@[simp] theorem find?_insert_self (map : OrderedMap κ β) (key : κ) (value : β) :
    (map.insert key value).find? key = some value :=
  mem_entries.1 ((mem_insertInto map.ascending).2 (Or.inl rfl))

theorem find?_insert_of_ne (map : OrderedMap κ β) {key other : κ} (different : other ≠ key)
    (value : β) : (map.insert key value).find? other = map.find? other := by
  ext found
  rw [← mem_entries, ← mem_entries]
  constructor
  · intro member
    rcases (mem_insertInto map.ascending).1 member with same | ⟨member, _⟩
    · exact absurd (Prod.mk.inj same).1 different
    · exact member
  · intro member
    exact (mem_insertInto map.ascending).2 (Or.inr ⟨member, different⟩)

theorem eq_or_find?_of_find?_insert {map : OrderedMap κ β} {key other : κ} {value found : β}
    (isFound : (map.insert key value).find? other = some found) :
    (other = key ∧ found = value) ∨ map.find? other = some found := by
  rcases (mem_insertInto map.ascending).1 (mem_entries.2 isFound) with same | ⟨member, _⟩
  · exact Or.inl (Prod.mk.inj same)
  · exact Or.inr (mem_entries.1 member)

theorem find?_filterKeys (map : OrderedMap κ β) (keep : κ → Bool) (key : κ) :
    (map.filterKeys keep).find? key = if keep key then map.find? key else none := by
  ext found
  rw [← mem_entries]
  by_cases kept : keep key
  · rw [if_pos kept, ← mem_entries]
    simp [filterKeys, kept]
  · simp [filterKeys, kept]

theorem find?_erase (map : OrderedMap κ β) (key other : κ) :
    (map.erase key).find? other = if rank other = rank key then none else map.find? other := by
  rw [erase, find?_filterKeys]
  by_cases same : rank other = rank key <;> simp [same]

@[simp] theorem find?_erase_self (map : OrderedMap κ β) (key : κ) :
    (map.erase key).find? key = none := by
  rw [find?_erase, if_pos rfl]

theorem find?_erase_of_ne (map : OrderedMap κ β) {key other : κ} (different : other ≠ key) :
    (map.erase key).find? other = map.find? other := by
  rw [find?_erase, if_neg fun same => different (rank_injective same)]

theorem find?_of_find?_erase {map : OrderedMap κ β} {key other : κ} {value : β}
    (found : (map.erase key).find? other = some value) : map.find? other = some value := by
  rw [find?_erase] at found
  split at found
  · cases found
  · exact found

@[simp] theorem find?_mapValues (map : OrderedMap κ β) (change : κ → β → γ) (key : κ) :
    (map.mapValues change).find? key = (map.find? key).map (change key) := by
  ext found
  rw [← mem_entries, Option.map_eq_some_iff]
  constructor
  · intro member
    obtain ⟨⟨other, value⟩, source, same⟩ := List.mem_map.1 member
    obtain ⟨rfl, rfl⟩ := Prod.mk.inj same
    exact ⟨value, mem_entries.1 source, rfl⟩
  · rintro ⟨value, member, rfl⟩
    exact List.mem_map.2 ⟨(key, value), mem_entries.2 member, rfl⟩

end OrderedMap

end LoadChart
