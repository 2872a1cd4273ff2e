import LoadChart.Json.Form
import LoadChart.Proofs.Json.Record
import Mathlib.Data.List.Basic

/-!
# Values of forms

A value fits a form if it is of the kind that the form wants, with what is in it.
-/

namespace LoadChart

namespace Form

/-- The items of an array fit the fields of a record, of which the last ones may be left out. -/
inductive ElementsFit (fits : Form → Json → Prop) :
    List (Json.Field × Form) → List Json → Prop where
  | ended {parts : List (Json.Field × Form)}
      (missing : ∀ part ∈ parts, part.1.mayBeMissing = true) : ElementsFit fits parts []
  | cons {field : Json.Field} {form : Form} {item : Json} {parts : List (Json.Field × Form)}
      {items : List Json} (own : fits form item) (others : ElementsFit fits parts items) :
      ElementsFit fits ((field, form) :: parts) (item :: items)

/-- The members of an object fit the fields of a record that have not been seen yet. -/
inductive MembersFit (fits : Form → Json → Prop) :
    List String → List Json.Field → List Form → List (String × Json) → Prop where
  | ended {fields : List Json.Field} {forms : List Form} {seen : List String}
      (lacking : lackingField? fields forms seen = none) : MembersFit fits seen fields forms []
  | known {fields : List Json.Field} {forms : List Form} {seen : List String} {name : String}
      {value : Json} {members : List (String × Json)} {field : Json.Field} {form : Form}
      (found : fieldFor? fields forms name = some (field, form)) (fresh : field.name ∉ seen)
      (own : fits form value) (others : MembersFit fits (field.name :: seen) fields forms members) :
      MembersFit fits seen fields forms ((name, value) :: members)
  | unknown {fields : List Json.Field} {forms : List Form} {seen : List String} {name : String}
      {value : Json} {members : List (String × Json)} (found : fieldFor? fields forms name = none)
      (others : MembersFit fits seen fields forms members) :
      MembersFit fits seen fields forms ((name, value) :: members)

/-- A value is one that a form wants. -/
inductive Fits : Form → Json → Prop where
  | flag (value : Bool) : Fits .flag (.bool value)
  | integer (value : Int) : Fits .float (.integer value)
  | float (value : Float) : Fits .float (.float value)
  | whole {low high : Int} {name : String} {value : Int} (above : low ≤ value)
      (below : value ≤ high) : Fits (.whole low high name) (.integer value)
  | string {wanted : String} {flaw? : String → Option Flaw} {text : String}
      (flawless : flaw? text = none) : Fits (.string wanted flaw?) (.string text)
  | word {words : List String} {word : String} (known : word ∈ words) :
      Fits (.word words) (.string word)
  | named {words : List String} {word : String} (known : word ∈ words) :
      Fits (.word words) (.object [(word, .null)])
  | list {item : Form} {items : List Json} (all : ∀ own ∈ items, Fits item own) :
      Fits (.list item) (.array items)
  | null (inner : Form) : Fits (.optional inner) .null
  | given {inner : Form} {value : Json} (fits : Fits inner value) : Fits (.optional inner) value
  | array {name : String} {fields : List Json.Field} {forms : List Form} {items : List Json}
      (fits : ElementsFit Fits (fields.zip forms) items) :
      Fits (.record name fields forms) (.array items)
  | object {name : String} {fields : List Json.Field} {forms : List Form}
      {members : List (String × Json)} (fits : MembersFit Fits [] fields forms members) :
      Fits (.record name fields forms) (.object members)

variable {name : String} {fields : List Json.Field} {forms : List Form} {field : Json.Field}
  {form : Form} {seen : List String}

/-- Fields that have one name each, all different, and a form each. -/
structure ArePlain (fields : List Json.Field) (forms : List Form) : Prop where
  noAliases : ∀ field ∈ fields, field.aliases = []
  distinct : (fields.map Json.Field.name).Nodup
  formed : fields.length = forms.length

theorem isNamed_of_noAliases (noAliases : field.aliases = []) (name : String) :
    field.isNamed name = (field.name == name) := by
  simp [Json.Field.isNamed, noAliases]

theorem membersFor_spare_of_noAliases (noAliases : field.aliases = [])
    (members : List (String × Json)) :
    Json.membersFor members field = Json.membersFor members (.spare field.name) := by
  rw [Json.membersFor_spare, Json.membersFor]
  exact congrArg (members.filter ·) (funext fun member => isNamed_of_noAliases noAliases member.1)

theorem mem_of_fieldFor? (found : fieldFor? fields forms name = some (field, form)) :
    field ∈ fields :=
  (List.of_mem_zip (List.mem_of_find?_eq_some found)).1

theorem name_of_fieldFor? (plain : ArePlain fields forms)
    (found : fieldFor? fields forms name = some (field, form)) : field.name = name := by
  have isNamed := List.find?_some found
  rw [isNamed_of_noAliases (plain.noAliases field (mem_of_fieldFor? found))] at isNamed
  exact beq_iff_eq.1 isNamed

theorem exists_fieldFor? (plain : ArePlain fields forms) (member : field ∈ fields) :
    ∃ form, fieldFor? fields forms field.name = some (field, form) := by
  induction fields generalizing forms with
  | nil => cases member
  | cons first others induction =>
      obtain ⟨noAliases, distinct, formed⟩ := plain
      obtain ⟨ownNoAliases, othersNoAliases⟩ := List.forall_mem_cons.1 noAliases
      obtain ⟨fresh, distinct⟩ := List.nodup_cons.1 distinct
      have isNamed := isNamed_of_noAliases ownNoAliases field.name
      cases forms with
      | nil => cases formed
      | cons form forms =>
          rcases List.mem_cons.1 member with rfl | behind
          · exact ⟨form, List.find?_cons_of_pos (by simp [isNamed])⟩
          · have different : first.name ≠ field.name := fun same =>
              fresh (same ▸ List.mem_map_of_mem behind)
            obtain ⟨own, found⟩ :=
              induction ⟨othersNoAliases, distinct, Nat.succ.inj formed⟩ behind
            exact ⟨own, (List.find?_cons_of_neg (by simp [isNamed, different])).trans found⟩

/-- The fields of a record that fit their forms.  Only one that need not be there is missing. -/
def Fit (fields : List Json.Field) (forms : List Form) (find? : String → Option Json) : Prop :=
  ∀ field form, fieldFor? fields forms field.name = some (field, form) →
    (∃ value, find? field.name = some value ∧ form.Fits value) ∨
      find? field.name = none ∧ (field.mayBeMissing = true ∨ form.isOptional = true)

theorem needless_of_lackingField? (lacking : lackingField? fields forms seen = none)
    (found : fieldFor? fields forms name = some (field, form)) (unseen : field.name ∉ seen) :
    field.mayBeMissing = true ∨ form.isOptional = true := by
  have none := List.find?_eq_none.1 (Option.map_eq_none_iff.1 lacking) _
    (List.mem_of_find?_eq_some found)
  cases missing : field.mayBeMissing with
  | true => exact Or.inl rfl
  | false => exact Or.inr (by simpa [unseen, missing] using none)

theorem membersFor_cons (field : Json.Field) (own : String) (value : Json)
    (members : List (String × Json)) :
    Json.membersFor ((own, value) :: members) field =
      if field.isNamed own then (own, value) :: Json.membersFor members field
      else Json.membersFor members field := List.filter_cons

/-- A field has its value once among the members that fit, if it has not been seen before them. -/
theorem membersFor_of_fit {members : List (String × Json)} (plain : ArePlain fields forms)
    (fits : MembersFit Fits seen fields forms members)
    (found : fieldFor? fields forms field.name = some (field, form)) :
    (field.name ∈ seen → Json.membersFor members field = []) ∧
      (field.name ∉ seen →
        (∃ value, Json.membersFor members field = [(field.name, value)] ∧ form.Fits value) ∨
          Json.membersFor members field = [] ∧
            (field.mayBeMissing = true ∨ form.isOptional = true)) := by
  have isNamed := isNamed_of_noAliases (plain.noAliases field (mem_of_fieldFor? found))
  induction fits with
  | ended lacking =>
      exact ⟨fun _ => rfl, fun unseen =>
        Or.inr ⟨rfl, needless_of_lackingField? lacking found unseen⟩⟩
  | @known _ _ seen own value members ownField ownForm foundOwn fresh fitsOwn _ induction =>
      obtain ⟨once, others⟩ := induction plain found
      have sameName := name_of_fieldFor? plain foundOwn
      rw [membersFor_cons, isNamed]
      by_cases same : field.name = own
      · subst same
        rw [found] at foundOwn
        cases foundOwn
        rw [if_pos (by simp), once List.mem_cons_self]
        exact ⟨fun isSeen => absurd isSeen fresh, fun _ => Or.inl ⟨value, rfl, fitsOwn⟩⟩
      · rw [if_neg (by simpa using same)]
        have different : field.name ≠ ownField.name := fun equal => same (equal.trans sameName)
        exact ⟨fun isSeen => once (List.mem_cons_of_mem _ isSeen),
          fun unseen => others (by simp [different, unseen])⟩
  | @unknown _ _ seen own value members none _ induction =>
      have different : field.name ≠ own := by
        rintro rfl
        rw [found] at none
        cases none
      rw [membersFor_cons, isNamed, if_neg (by simpa using different)]
      exact induction plain found

theorem elements_of_fit {parts : List (Json.Field × Form)} {items : List Json}
    (noAliases : ∀ part ∈ parts, part.1.aliases = []) (fits : ElementsFit Fits parts items)
    (found : (parts.find? fun part => part.1.isNamed field.name) = some (field, form)) :
    (∃ value, (((parts.map fun part => part.1.name).zip items).find?
        fun entry => entry.1 == field.name).map Prod.snd = some value ∧ form.Fits value) ∨
      (((parts.map fun part => part.1.name).zip items).find?
        fun entry => entry.1 == field.name).map Prod.snd = none ∧ field.mayBeMissing = true := by
  induction fits with
  | ended missing =>
      exact Or.inr ⟨by simp, missing _ (List.mem_of_find?_eq_some found)⟩
  | @cons own ownForm item parts items fitsOwn others induction =>
      obtain ⟨ownNoAliases, othersNoAliases⟩ := List.forall_mem_cons.1 noAliases
      have isNamed := isNamed_of_noAliases ownNoAliases field.name
      dsimp only at isNamed
      by_cases same : own.name = field.name
      · rw [List.find?_cons_of_pos (by simp [isNamed, same])] at found
        cases found
        refine Or.inl ⟨item, ?_, fitsOwn⟩
        simp
      · rw [List.find?_cons_of_neg (by simp [isNamed, same])] at found
        rw [List.map_cons, List.zip_cons_cons, List.find?_cons_of_neg (by simpa using same)]
        exact induction othersNoAliases found

theorem length_of_fit {parts : List (Json.Field × Form)} {items : List Json}
    (fits : ElementsFit Fits parts items) :
    items.length ≤ parts.length ∧
      ∀ part ∈ parts.drop items.length, part.1.mayBeMissing = true := by
  induction fits with
  | ended missing => exact ⟨Nat.zero_le _, missing⟩
  | cons own others induction => exact ⟨Nat.succ_le_succ induction.1, induction.2⟩

/-- A value that fits the form of a record is one, whose fields fit their forms. -/
theorem exists_record?_of_fits {value : Json} (plain : ArePlain fields forms)
    (fits : (Form.record name fields forms).Fits value) :
    ∃ record, value.record? fields = some record ∧ Fit fields forms record.find? := by
  cases fits with
  | @array _ _ _ items fits =>
      have firsts : (fields.zip forms).map Prod.fst = fields :=
        List.map_fst_zip (Nat.le_of_eq plain.formed)
      have names : ((fields.zip forms).map fun part => part.1.name) = fields.map (·.name) :=
        calc
          _ = ((fields.zip forms).map Prod.fst).map (·.name) := List.map_map.symm
          _ = fields.map (·.name) := by rw [firsts]
      obtain ⟨short, missing⟩ := length_of_fit fits
      have isRecord : (items.length ≤ fields.length &&
          (fields.drop items.length).all (·.mayBeMissing)) = true := by
        rw [← firsts, List.length_map, ← List.map_drop, List.all_map]
        simp only [Bool.and_eq_true, decide_eq_true_eq, List.all_eq_true]
        exact ⟨short, missing⟩
      refine ⟨_, if_pos isRecord, fun field form found => ?_⟩
      have noAliases : ∀ part ∈ fields.zip forms, part.1.aliases = [] :=
        fun part member => plain.noAliases _ (List.of_mem_zip member).1
      have own := elements_of_fit noAliases fits found
      rw [names] at own
      exact own.imp_right fun ⟨missing, spare⟩ => ⟨missing, Or.inl spare⟩
  | @object _ _ _ members fits =>
      have isRecord :
          (fields.all fun field => (Json.membersFor members field).length ≤ 1) = true := by
        rw [List.all_eq_true]
        intro field member
        obtain ⟨form, found⟩ := exists_fieldFor? plain member
        obtain ⟨value, once, _⟩ | ⟨none, _⟩ :=
          (membersFor_of_fit plain fits found).2 List.not_mem_nil
        · simp [once]
        · simp [none]
      refine ⟨_, if_pos isRecord, fun field form found => ?_⟩
      have values : fields.filterMap (fun field =>
          (Json.membersFor members field).head?.map fun member => (field.name, member.2)) =
          Json.entries members (fields.map (·.name)) := by
        rw [Json.entries, List.filterMap_map]
        refine List.filterMap_congr fun field member => ?_
        rw [membersFor_spare_of_noAliases (plain.noAliases field member)]
        rfl
      have member := mem_of_fieldFor? found
      rw [Json.Record.find?, values, Json.find?_entries, if_pos (List.mem_map_of_mem member),
        ← membersFor_spare_of_noAliases (plain.noAliases field member)]
      obtain ⟨value, once, fitsOwn⟩ | ⟨none, needless⟩ :=
        (membersFor_of_fit plain fits found).2 List.not_mem_nil
      · exact Or.inl ⟨value, by rw [once]; rfl, fitsOwn⟩
      · exact Or.inr ⟨by rw [none]; rfl, needless⟩

section Readers

variable {α β : Type}

/-- A reader gives something for every value of a form. -/
def Reads (form : Form) (read : Json → Option α) : Prop :=
  ∀ value, form.Fits value → (read value).isSome = true

theorem isSome_bind {first : Option α} {next : α → Option β} (found : first.isSome = true)
    (behind : ∀ value, (next value).isSome = true) : (first.bind next).isSome = true := by
  obtain ⟨value, rfl⟩ := Option.isSome_iff_exists.1 found
  exact behind value

theorem reads_flag : Reads .flag Json.bool? := by
  rintro _ ⟨⟩
  rfl

theorem reads_float : Reads .float Json.float? := by
  intro value fits
  cases fits <;> rfl

theorem reads_string {wanted : String} {flaw? : String → Option Flaw} :
    Reads (.string wanted flaw?) Json.string? := by
  rintro _ ⟨⟩
  rfl

theorem reads_whole {low high : Int} {name : String} :
    Reads (.whole low high name) (Json.integer? low high) := by
  intro value fits
  cases fits with
  | whole above below => exact (congrArg Option.isSome (if_pos ⟨above, below⟩)).trans rfl

theorem reads_natural32 : Reads natural32 Json.natural32? := fun value fits =>
  Option.isSome_map.trans (reads_whole value fits)

theorem reads_integer64 : Reads integer64 Json.integer64? := reads_whole

theorem word?_of_fits {words : List String} {value : Json} (fits : (Form.word words).Fits value) :
    ∃ word ∈ words, value.word? = some word := by
  cases fits with
  | word known => exact ⟨_, known, rfl⟩
  | named known => exact ⟨_, known, rfl⟩

theorem reads_list {item : Form} {read : Json → Option α} (reads : Reads item read) :
    Reads (.list item) (Json.list? read) := by
  intro value fits
  cases fits with
  | @list _ items all =>
      change (items.mapM read).isSome = true
      induction items with
      | nil => rfl
      | cons own others induction =>
          obtain ⟨ownFits, othersFit⟩ := List.forall_mem_cons.1 all
          rw [List.mapM_cons]
          exact isSome_bind (reads own ownFits) fun _ =>
            isSome_bind (induction othersFit) fun _ => rfl

theorem reads_set [Ranked α] {item : Form} {read : Json → Option α} (reads : Reads item read) :
    Reads (.list item) (Json.set? read) := fun value fits =>
  Option.isSome_map.trans (reads_list reads value fits)

section Fields

variable {record : Json.Record} {read : Json → Option α}

theorem Fit.value_or_missing {aliases : List String} {mayBeMissing : Bool}
    (fit : Fit fields forms record.find?)
    (found : fieldFor? fields forms name = some (⟨name, aliases, mayBeMissing⟩, form)) :
    (∃ value, record.find? name = some value ∧ form.Fits value) ∨
      record.find? name = none ∧ (mayBeMissing = true ∨ form.isOptional = true) :=
  fit ⟨name, aliases, mayBeMissing⟩ form found

theorem Fit.required? (fit : Fit fields forms record.find?)
    (found : fieldFor? fields forms name = some (.needed name, form))
    (needed : form.isOptional = false) (reads : Reads form read) :
    (record.required? name read).isSome = true := by
  unfold Json.Record.required?
  obtain ⟨value, present, fits⟩ | ⟨_, missing | optional⟩ := fit.value_or_missing found
  · rw [present]
    exact reads value fits
  · cases missing
  · rw [needed] at optional
    cases optional

theorem Fit.defaulted? (fit : Fit fields forms record.find?)
    (found : fieldFor? fields forms name = some (.spare name, form)) (standard : α)
    (reads : Reads form read) : (record.defaulted? name standard read).isSome = true := by
  unfold Json.Record.defaulted?
  obtain ⟨value, present, fits⟩ | ⟨missing, _⟩ := fit.value_or_missing found
  · rw [present]
    exact reads value fits
  · rw [missing]
    rfl

theorem Fit.optional? (fit : Fit fields forms record.find?)
    (found : fieldFor? fields forms name = some (.spare name, .optional form))
    (reads : Reads form read) : (record.optional? name read).isSome = true := by
  unfold Json.Record.optional?
  obtain ⟨value, present, fits⟩ | ⟨missing, _⟩ := fit.value_or_missing found
  · rw [present]
    cases fits with
    | null => rfl
    | given fits =>
        split
        · rfl
        · rfl
        next same =>
          cases same
          exact Option.isSome_map.trans (reads value fits)
  · rw [missing]
    rfl

end Fields

theorem reads_record {next : Json.Record → Option α} (plain : ArePlain fields forms)
    (behind : ∀ record : Json.Record, Fit fields forms record.find? →
      (next record).isSome = true) :
    Reads (.record name fields forms) fun value => (value.record? fields).bind next := by
  intro value fits
  obtain ⟨record, found, fit⟩ := exists_record?_of_fits plain fits
  dsimp only
  rw [found]
  exact behind record fit

end Readers

end Form

end LoadChart
