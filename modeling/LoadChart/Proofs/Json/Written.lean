import LoadChart.Proofs.Json.Leaf

/-!
# Reading what was written

The indented text of a value is read as the value, whatever strings it holds, as long as it holds no
floats and its whole numbers fit into a word.
-/

namespace LoadChart

namespace Json

/-- A value whose text determines it. -/
inductive IsPlain : Json → Prop where
  | null : IsPlain .null
  | bool (value : Bool) : IsPlain (.bool value)
  | integer {value : Int} (low : -(powerOfTwo 63 : Int) ≤ value) (high : value ≤ maxWord) :
      IsPlain (.integer value)
  | string (text : String) : IsPlain (.string text)
  | array {items : List Json} (plain : ∀ item ∈ items, IsPlain item) : IsPlain (.array items)
  | object {members : List (String × Json)} (plain : ∀ member ∈ members, IsPlain member.2) :
      IsPlain (.object members)

namespace IsPlain

@[simp]
theorem of_string (text : String) : (Json.string text).IsPlain := .string text

@[simp]
theorem of_bool (value : Bool) : (Json.bool value).IsPlain := .bool value

@[simp]
theorem integer_iff {value : Int} :
    (Json.integer value).IsPlain ↔ -(powerOfTwo 63 : Int) ≤ value ∧ value ≤ maxWord :=
  ⟨fun (.integer low high) => ⟨low, high⟩, fun ⟨low, high⟩ => .integer low high⟩

@[simp]
theorem array_iff {items : List Json} :
    (Json.array items).IsPlain ↔ ∀ item ∈ items, item.IsPlain :=
  ⟨fun (.array plain) => plain, .array⟩

@[simp]
theorem object_iff {members : List (String × Json)} :
    (Json.object members).IsPlain ↔ ∀ member ∈ members, member.2.IsPlain :=
  ⟨fun (.object plain) => plain, .object⟩

end IsPlain

variable {rest : List Char}

theorem skipSpace_of_visible {letter : Char} (visible : isSpace letter = false) (rest : List Char) :
    skipSpace (letter :: rest) = letter :: rest :=
  List.dropWhile_cons_of_neg (by simp [visible])

theorem skipSpace_newLine (level : Nat) (rest : List Char) :
    skipSpace (newLine level ++ rest) = skipSpace rest := by
  refine List.dropWhile_append_of_pos ?_
  intro letter member
  rcases List.mem_cons.1 member with rfl | indentation
  · rfl
  · rw [List.eq_of_mem_replicate indentation]
    rfl

theorem readValue?_skipSpace {letters others : List Char}
    (same : skipSpace letters = skipSpace others) (fuel : Nat) :
    readValue? fuel letters = readValue? fuel others := by
  cases fuel with
  | zero => rfl
  | succ fuel => rw [readValue?, readValue?, same]

/-- The text of a value is read as the value, blanks in front or not. -/
def IsRead (value : Json) : Prop :=
  ∀ level fuel rest, (writeIndented level value).length < fuel → EndsNumber rest →
    readValue? fuel (writeIndented level value ++ rest) = some (value, rest)

theorem IsRead.of_begun {value : Json}
    (begun : ∀ level fuel rest, (writeIndented level value).length ≤ fuel → EndsNumber rest →
      ∃ letter others, writeIndented level value ++ rest = letter :: others ∧
        isSpace letter = false ∧ readBegun? fuel letter others = some (value, rest)) :
    value.IsRead := by
  intro level fuel rest enough ends
  obtain ⟨fuel, rfl⟩ : ∃ less, fuel = less + 1 := ⟨fuel - 1, by omega⟩
  obtain ⟨letter, others, text, visible, read⟩ := begun level fuel rest (by omega) ends
  rw [text, readValue?_of_begun (skipSpace_of_visible visible others), read]

theorem readBegun?_number {letter : Char} (numeric : letter = '-' ∨ isDigit letter = true)
    (fuel : Nat) (rest : List Char) :
    readBegun? fuel letter rest = readNumber? (letter :: rest) := by
  unfold readBegun?
  split
  · exact absurd numeric (by decide)
  · exact absurd numeric (by decide)
  · exact absurd numeric (by decide)
  · exact absurd numeric (by decide)
  · exact absurd numeric (by decide)
  · exact absurd numeric (by decide)
  · rfl

theorem isSpace_of_isDigit {letter : Char} (digit : isDigit letter = true) :
    isSpace letter = false := by
  by_contra blank
  simp only [isSpace, Bool.not_eq_false, Bool.or_eq_true, beq_iff_eq] at blank
  rcases blank with ((rfl | rfl) | rfl) | rfl <;> cases digit

theorem IsRead.integer {value : Int} (low : -(powerOfTwo 63 : Int) ≤ value)
    (high : value ≤ maxWord) : (Json.integer value).IsRead := by
  refine .of_begun fun level fuel rest _ ends => ?_
  have read := readNumber?_integerText low high ends
  obtain ⟨digit, others, begins, _⟩ := digitsOfNumber_begins value.natAbs
  have isDigit : isDigit digit = true :=
    isDigit_of_mem_digitsOfNumber digit (begins ▸ List.mem_cons_self)
  have text : writeIndented level (.integer value) = (integerText value).toList := rfl
  rw [text]
  unfold integerText at read ⊢
  split at read
  next negative =>
    rw [if_pos negative, String.toList_ofList] at *
    exact ⟨'-', _, rfl, rfl, (readBegun?_number (Or.inl rfl) ..).trans read⟩
  next notNegative =>
    rw [if_neg notNegative, numberText, String.toList_ofList, begins] at *
    exact ⟨digit, _, rfl, isSpace_of_isDigit isDigit,
      (readBegun?_number (Or.inr isDigit) ..).trans read⟩

theorem IsRead.string (text : String) : (Json.string text).IsRead := by
  refine .of_begun fun level fuel rest _ _ => ⟨'"', escape text.toList ++ '"' :: rest, ?_, rfl, ?_⟩
  · change writeString text ++ rest = _
    simp [writeString]
  · rw [readBegun?, readString?_escape]
    rfl

theorem readWord?_self (word rest : List Char) : readWord? word (word ++ rest) = some rest := by
  have begins : word.isPrefixOf (word ++ rest) = true :=
    List.isPrefixOf_iff_prefix.2 ⟨rest, rfl⟩
  rw [readWord?, if_pos begins, List.drop_left]

theorem IsRead.bool (value : Bool) : (Json.bool value).IsRead := by
  refine .of_begun fun level fuel rest _ _ => ?_
  cases value with
  | true => exact ⟨'t', ['r', 'u', 'e'] ++ rest, rfl, rfl, by rw [readBegun?, readWord?_self]; rfl⟩
  | false =>
      exact ⟨'f', ['a', 'l', 's', 'e'] ++ rest, rfl, rfl, by rw [readBegun?, readWord?_self]; rfl⟩

theorem IsRead.null : Json.null.IsRead :=
  .of_begun fun _ _ rest _ _ =>
    ⟨'n', ['u', 'l', 'l'] ++ rest, rfl, rfl, by rw [readBegun?, readWord?_self]; rfl⟩

theorem readArray?_of_items {fuel : Nat} {letters : List Char} {items : List Json}
    (read : readItems? fuel letters = some (items, rest)) :
    readArray? fuel letters = some (.array items, rest) := by
  unfold readArray?
  split
  next begun =>
    have none : readItems? fuel letters = none := by
      cases fuel with
      | zero => rfl
      | succ fuel =>
          rw [readItems?_succ]
          cases fuel with
          | zero => rfl
          | succ fuel =>
              rw [readValue?_of_begun begun]
              rfl
    rw [none] at read
    cases read
  · rw [read]
    rfl

theorem readBehindItem?_comma (fuel : Nat) (item : Json) (rest : List Char) :
    readBehindItem? fuel item (',' :: rest) =
      (readItems? fuel rest).map fun (items, rest) => (item :: items, rest) := rfl

theorem readBehindItem?_newLine (fuel : Nat) (item : Json) (level : Nat) (rest : List Char) :
    readBehindItem? fuel item (newLine level ++ ']' :: rest) = some ([item], rest) := by
  rw [readBehindItem?, skipSpace_newLine]
  rfl

theorem readItems?_writeIndentedItems (level outer : Nat) (item : Json) (others : List Json)
    (read : ∀ own ∈ item :: others, own.IsRead) (fuel : Nat) (rest : List Char)
    (enough : (writeIndentedItems level (item :: others)).length < fuel) :
    readItems? fuel
        (writeIndentedItems level (item :: others) ++ (newLine outer ++ ']' :: rest)) =
      some (item :: others, rest) := by
  -- each item takes one unit of fuel and at least one letter of the text that bounds it
  induction others generalizing item fuel with
  | nil =>
      rw [writeIndentedItems, List.length_append] at enough
      obtain ⟨fuel, rfl⟩ : ∃ less, fuel = less + 1 := ⟨fuel - 1, by omega⟩
      have own := read item List.mem_cons_self level fuel (newLine outer ++ ']' :: rest)
        (by simp [newLine] at enough; omega) (.newLine outer _)
      rw [writeIndentedItems, readItems?_succ, List.append_assoc,
        readValue?_skipSpace (skipSpace_newLine level _), own, Option.bind_some]
      exact readBehindItem?_newLine fuel item outer rest
  | cons next others induction =>
      rw [writeIndentedItems, List.length_append, List.length_append, List.length_cons] at enough
      obtain ⟨fuel, rfl⟩ : ∃ less, fuel = less + 1 := ⟨fuel - 1, by omega⟩
      have own := read item List.mem_cons_self level fuel
        (',' :: (writeIndentedItems level (next :: others) ++ (newLine outer ++ ']' :: rest)))
        (by simp [newLine] at enough; omega) (.comma _)
      have behind := induction next (fun own member => read own (List.mem_cons_of_mem _ member))
        fuel (by omega)
      rw [writeIndentedItems, readItems?_succ, List.append_assoc, List.append_assoc,
        readValue?_skipSpace (skipSpace_newLine level _), List.cons_append, own, Option.bind_some]
      dsimp only
      rw [readBehindItem?_comma, behind, Option.map_some]

theorem IsRead.array {items : List Json} (read : ∀ item ∈ items, item.IsRead) :
    (Json.array items).IsRead := by
  refine .of_begun fun level fuel rest enough _ => ?_
  cases items with
  | nil => exact ⟨'[', ']' :: rest, rfl, rfl, rfl⟩
  | cons item others =>
      rw [writeIndented] at enough ⊢
      refine ⟨'[', writeIndentedItems (level + 1) (item :: others) ++ (newLine level ++ ']' :: rest),
        by simp, rfl, ?_⟩
      refine readArray?_of_items (readItems?_writeIndentedItems _ _ _ _ read _ _ ?_)
      simp at enough
      omega

theorem ofMembers_map (members : List (String × Json)) :
    ofMembers (members.map fun member => (some member.1, member.2)) = .object members := by
  have same : members.mapM (fun member => some member) = some members :=
    List.mapM_pure.trans (congrArg some (List.map_id' members))
  simp only [ofMembers, List.mapM_map, Function.comp_def, Option.map_some, same]

theorem readObject?_of_members {fuel : Nat} {letters : List Char}
    {members : List (Option String × Json)}
    (read : readMembers? fuel letters = some (members, rest)) :
    readObject? fuel letters = some (ofMembers members, rest) := by
  unfold readObject?
  split
  next begun =>
    have none : readMembers? fuel letters = none := by
      cases fuel with
      | zero => rfl
      | succ fuel => exact readMembers?_of_ne begun (by decide) fuel
    rw [none] at read
    cases read
  · rw [read]
    rfl

theorem readBehindName?_colon (fuel : Nat) (name? : Option String) (rest : List Char) :
    readBehindName? fuel name? (':' :: rest) =
      (readValue? fuel rest).bind fun (value, rest) =>
        readBehindMember? fuel (name?, value) rest := rfl

theorem readBehindMember?_comma (fuel : Nat) (member : Option String × Json) (rest : List Char) :
    readBehindMember? fuel member (',' :: rest) =
      (readMembers? fuel rest).map fun (members, rest) => (member :: members, rest) := rfl

theorem readBehindMember?_newLine (fuel : Nat) (member : Option String × Json) (level : Nat)
    (rest : List Char) :
    readBehindMember? fuel member (newLine level ++ '\x7d' :: rest) = some ([member], rest) := by
  rw [readBehindMember?, skipSpace_newLine]
  rfl

/-- A member that is written at a level, with what follows it. -/
theorem readMembers?_writeMember (level : Nat) (name : String) {value : Json} (read : value.IsRead)
    (fuel : Nat) (rest : List Char) (enough : (writeIndented level value).length < fuel)
    (ends : EndsNumber rest) :
    readMembers? (fuel + 1)
        (newLine level ++ (writeString name ++ ':' :: ' ' :: (writeIndented level value ++ rest))) =
      readBehindMember? fuel (some name, value) rest := by
  have begun : skipSpace (newLine level ++
      (writeString name ++ ':' :: ' ' :: (writeIndented level value ++ rest))) =
      '"' :: (escape name.toList ++ '"' :: ':' :: ' ' :: (writeIndented level value ++ rest)) := by
    rw [skipSpace_newLine]
    refine (skipSpace_of_visible rfl _).trans ?_
    simp
  have blank : skipSpace (' ' :: (writeIndented level value ++ rest)) =
      skipSpace (writeIndented level value ++ rest) := List.dropWhile_cons_of_pos rfl
  rw [readMembers?_of_quote begun, readString?_escape, Option.bind_some]
  dsimp only
  rw [readBehindName?_colon, readValue?_skipSpace blank, read level fuel rest enough ends,
    Option.bind_some]

theorem readMembers?_writeIndentedMembers (level outer : Nat) (member : String × Json)
    (others : List (String × Json)) (read : ∀ own ∈ member :: others, own.2.IsRead) (fuel : Nat)
    (rest : List Char)
    (enough : (writeIndentedMembers level (member :: others)).length < fuel) :
    readMembers? fuel
        (writeIndentedMembers level (member :: others) ++ (newLine outer ++ '\x7d' :: rest)) =
      some ((member :: others).map fun member => (some member.1, member.2), rest) := by
  induction others generalizing member fuel with
  | nil =>
      obtain ⟨name, value⟩ := member
      rw [writeIndentedMembers, List.length_append, List.length_cons, List.length_cons] at enough
      obtain ⟨fuel, rfl⟩ : ∃ less, fuel = less + 1 := ⟨fuel - 1, by omega⟩
      have own := readMembers?_writeMember level name (read _ List.mem_cons_self) fuel
        (newLine outer ++ '\x7d' :: rest) (by dsimp only; omega) (.newLine outer _)
      rw [writeIndentedMembers]
      simp only [List.append_assoc, List.cons_append]
      rw [own]
      exact readBehindMember?_newLine fuel _ outer rest
  | cons next others induction =>
      obtain ⟨name, value⟩ := member
      rw [writeIndentedMembers] at enough
      simp only [List.length_append, List.length_cons] at enough
      obtain ⟨fuel, rfl⟩ : ∃ less, fuel = less + 1 := ⟨fuel - 1, by omega⟩
      have own := readMembers?_writeMember level name (read _ List.mem_cons_self) fuel
        (',' :: (writeIndentedMembers level (next :: others) ++ (newLine outer ++ '\x7d' :: rest)))
        (by dsimp only; omega) (.comma _)
      have behind := induction next (fun own member => read own (List.mem_cons_of_mem _ member))
        fuel (by omega)
      rw [writeIndentedMembers]
      simp only [List.append_assoc, List.cons_append]
      rw [own, readBehindMember?_comma, behind]
      rfl

theorem IsRead.object {members : List (String × Json)}
    (read : ∀ member ∈ members, member.2.IsRead) : (Json.object members).IsRead := by
  refine .of_begun fun level fuel rest enough _ => ?_
  cases members with
  | nil => exact ⟨'\x7b', '\x7d' :: rest, rfl, rfl, rfl⟩
  | cons member others =>
      rw [writeIndented] at enough ⊢
      refine ⟨'\x7b',
        writeIndentedMembers (level + 1) (member :: others) ++ (newLine level ++ '\x7d' :: rest),
        by simp, rfl, ?_⟩
      rw [← ofMembers_map]
      refine readObject?_of_members (readMembers?_writeIndentedMembers _ _ _ _ read _ _ ?_)
      simp at enough
      omega

theorem IsPlain.isRead {value : Json} (plain : value.IsPlain) : value.IsRead := by
  induction plain with
  | null => exact .null
  | bool value => exact .bool value
  | integer low high => exact .integer low high
  | string text => exact .string text
  | array _ read => exact .array read
  | object _ read => exact .object read

theorem ofText?_indentedText {value : Json} (plain : value.IsPlain) :
    ofText? value.indentedText = some value := by
  have read := plain.isRead 0 ((writeIndented 0 value).length + 1) [] (Nat.lt_succ_self _) .nil
  rw [List.append_nil] at read
  rw [ofText?, indentedText, String.toList_ofList, ofLetters?, read]
  rfl

end Json

end LoadChart
