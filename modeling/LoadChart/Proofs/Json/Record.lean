import LoadChart.Json.Record

/-!
# Records with some of their fields

An object with some members of another one, whose names are all different, is read as a record that
has exactly the fields of those members.
-/

namespace LoadChart

namespace Json

def kept (keep : String → Bool) (members : List (String × Json)) : List (String × Json) :=
  members.filter fun member => keep member.1

variable {keep : String → Bool} {members : List (String × Json)} {name : String} {value : Json}

theorem kept_cons (keep : String → Bool) (member : String × Json) (others : List (String × Json)) :
    kept keep (member :: others) =
      if keep member.1 then member :: kept keep others else kept keep others :=
  List.filter_cons

theorem membersFor_spare (members : List (String × Json)) (name : String) :
    membersFor members (.spare name) = members.filter fun member => name == member.1 := by
  simp [membersFor, Field.isNamed, Field.spare]

/-- Of members with different names at most one is kept for a name. -/
theorem membersFor_kept (distinct : (members.map Prod.fst).Nodup)
    (member : (name, value) ∈ members) :
    membersFor (kept keep members) (.spare name) = if keep name then [(name, value)] else [] := by
  rw [membersFor_spare]
  induction members with
  | nil => cases member
  | cons first others induction =>
      rw [List.map_cons, List.nodup_cons] at distinct
      rcases List.mem_cons.1 member with rfl | behind
      · have different : name ∉ others.map Prod.fst := distinct.1
        have none : (kept keep others).filter (fun member => name == member.1) = [] := by
          refine List.filter_eq_nil_iff.2 fun other isKept same => different ?_
          rw [beq_iff_eq.1 same]
          exact List.mem_map_of_mem (List.mem_filter.1 isKept).1
        rw [kept_cons]
        dsimp only
        split
        · rw [List.filter_cons_of_pos (by simp), none]
        · exact none
      · have other : first.1 ≠ name := by
          intro same
          exact distinct.1 (same ▸ List.mem_map_of_mem behind)
        rw [← induction distinct.2 behind, kept_cons]
        split
        · rw [List.filter_cons_of_neg (by simpa using other.symm)]
        · rfl

/-- The first member for each of some names, if there is one. -/
def entries (members : List (String × Json)) (names : List String) : List (String × Json) :=
  names.filterMap fun name =>
    (membersFor members (.spare name)).head?.map fun member => (name, member.2)

theorem find?_entries (members : List (String × Json)) (names : List String) (name : String) :
    ((entries members names).find? fun entry => entry.1 == name).map Prod.snd =
      if name ∈ names then (membersFor members (.spare name)).head?.map Prod.snd else none := by
  induction names with
  | nil => rfl
  | cons first others induction =>
      have cons : entries members (first :: others) =
          ((membersFor members (.spare first)).head?.map
            fun member => (first, member.2)).toList ++ entries members others := by
        rw [entries, List.filterMap_cons]
        cases (membersFor members (.spare first)).head? <;> rfl
      rw [cons]
      by_cases same : first = name
      · subst same
        rw [if_pos List.mem_cons_self]
        cases found : (membersFor members (.spare first)).head? with
        | none =>
            rw [found, Option.map_none, ite_self] at induction
            exact induction
        | some member =>
            rw [Option.map_some, Option.toList_some, List.singleton_append,
              List.find?_cons_of_pos (by simp)]
            rfl
      · rw [List.find?_append, List.find?_eq_none.2, Option.none_or, induction]
        · simp [Ne.symm same]
        · intro entry isFirst
          obtain ⟨member, _, rfl⟩ := Option.map_eq_some_iff.1 (Option.mem_toList.1 isFirst)
          simpa using same

/-- An object with some members, whose names are fields, is a record with those fields. -/
theorem record?_kept (keep : String → Bool) (distinct : (members.map Prod.fst).Nodup) :
    ∃ record,
      (Json.object (kept keep members)).record? ((members.map Prod.fst).map Field.spare) =
          some record ∧
        ∀ name value, (name, value) ∈ members →
          record.find? name = if keep name then some value else none := by
  have once : ((members.map Prod.fst).map Field.spare).all
      (fun field => (membersFor (kept keep members) field).length ≤ 1) = true := by
    rw [List.all_map, List.all_map, List.all_eq_true]
    rintro ⟨name, value⟩ member
    rw [Function.comp_apply, Function.comp_apply, membersFor_kept distinct member]
    by_cases keeps : keep name = true <;> simp [keeps]
  have values : ((members.map Prod.fst).map Field.spare).filterMap (fun field =>
      (membersFor (kept keep members) field).head?.map fun member => (field.name, member.2)) =
      entries (kept keep members) (members.map Prod.fst) := List.filterMap_map
  refine ⟨⟨entries (kept keep members) (members.map Prod.fst)⟩,
    by rw [record?, if_pos once, values], fun name value member => ?_⟩
  have isField : name ∈ members.map Prod.fst := List.mem_map_of_mem member
  rw [Record.find?, find?_entries, if_pos isField, membersFor_kept distinct member]
  by_cases keeps : keep name = true <;> simp [keeps]

variable {α : Type} {record : Record} {own : α}

theorem Record.defaulted?_of_find?
    (found : record.find? name = if keep name then some value else none)
    {read : Json → Option α} (reads : read value = some own) (standard : α) :
    record.defaulted? name standard read = some (if keep name then own else standard) := by
  rw [defaulted?, found]
  by_cases keeps : keep name = true <;> simp [keeps, reads]

/-- A field that is null where there is nothing is read as what there is. -/
theorem Record.optional?_of_find? {own : Option α} {write : α → Json}
    (found : record.find? name = if keep name then some ((own.map write).getD .null) else none)
    {read : Json → Option α} (reads : ∀ item, read (write item) = some item)
    (notNull : ∀ item, write item ≠ .null) :
    record.optional? name read = some (if keep name then own else none) := by
  rw [optional?, found]
  by_cases keeps : keep name = true
  · cases own with
    | none => simp [keeps]
    | some item =>
        simp only [keeps, if_true, Option.map_some, Option.getD_some]
        split
        next missing => cases missing
        next null => exact absurd (Option.some.inj null) (notNull item)
        next same =>
          cases same
          rw [reads]
          rfl
  · simp [keeps]

end Json

end LoadChart
