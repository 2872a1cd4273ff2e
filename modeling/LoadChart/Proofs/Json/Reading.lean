import LoadChart.Proofs.Json.Written
import Mathlib.Data.List.DropRight

/-!
# Rules of reading

What is read from some letters is put together from what is read of their parts.  Fuel for the
letters that are read is enough, whatever follows them, so it is left out of sight here.
-/

namespace LoadChart

namespace Json

section Lengths

variable {letters rest : List Char}

theorem length_of_readFraction? {digits : Option (List Char)}
    (found : readFraction? letters = some (digits, rest)) : rest.length ≤ letters.length := by
  cases letters with
  | nil =>
      cases found
      exact Nat.le_refl _
  | cons letter letters =>
      by_cases point : letter = '.'
      · subst point
        rw [readFraction?_point] at found
        split at found
        · cases found
        · cases found
          simp only [List.length_drop, List.length_cons]
          omega
      · rw [readFraction?_of_ne point] at found
        cases found
        exact Nat.le_refl _

theorem length_of_readExponentDigits? {negative : Bool} {exponent : Option (Bool × List Char)}
    (found : readExponentDigits? negative letters = some (exponent, rest)) :
    rest.length ≤ letters.length := by
  unfold readExponentDigits? at found
  dsimp only at found
  split at found
  · cases found
  · cases found
    rw [List.length_drop]
    exact Nat.sub_le _ _

theorem length_of_readSigned? {exponent : Option (Bool × List Char)}
    (found : readSigned? letters = some (exponent, rest)) : rest.length ≤ letters.length := by
  unfold readSigned? at found
  split at found
  · exact Nat.le_succ_of_le (length_of_readExponentDigits? found)
  · exact Nat.le_succ_of_le (length_of_readExponentDigits? found)
  · exact length_of_readExponentDigits? found

theorem length_of_readExponent? {exponent : Option (Bool × List Char)}
    (found : readExponent? letters = some (exponent, rest)) : rest.length ≤ letters.length := by
  cases letters with
  | nil =>
      cases found
      exact Nat.le_refl _
  | cons letter letters =>
      rw [readExponent?_cons] at found
      split at found
      · exact Nat.le_succ_of_le (length_of_readSigned? found)
      · cases found
        exact Nat.le_refl _

theorem length_of_readWhole? {digits : List Char}
    (found : readWhole? letters = some (digits, rest)) : rest.length < letters.length := by
  unfold readWhole? at found
  dsimp only at found
  split at found
  · cases found
  · cases found
  next some? _ =>
    cases found
    have own := List.length_pos_iff.2 some?
    have most := (List.takeWhile_sublist isDigit (l := letters)).length_le
    rw [List.length_drop]
    omega

theorem length_of_readUnsigned? {negative : Bool} {number : NumberText}
    (found : readUnsigned? negative letters = some (number, rest)) :
    rest.length < letters.length := by
  obtain ⟨⟨whole, afterWhole⟩, foundWhole, found⟩ := Option.bind_eq_some_iff.1 found
  obtain ⟨⟨fraction, afterFraction⟩, foundFraction, found⟩ := Option.bind_eq_some_iff.1 found
  obtain ⟨⟨exponent, afterExponent⟩, foundExponent, found⟩ := Option.bind_eq_some_iff.1 found
  cases found
  calc
    rest.length ≤ afterFraction.length := length_of_readExponent? foundExponent
    _ ≤ afterWhole.length := length_of_readFraction? foundFraction
    _ < letters.length := length_of_readWhole? foundWhole

theorem length_of_readNumber? {value : Json} (found : readNumber? letters = some (value, rest)) :
    rest.length < letters.length := by
  obtain ⟨⟨number, left⟩, foundText, same⟩ := Option.map_eq_some_iff.1 found
  cases same
  cases letters with
  | nil => cases foundText
  | cons sign letters =>
      by_cases minus : sign = '-'
      · subst minus
        exact Nat.lt_succ_of_lt (length_of_readUnsigned? foundText)
      · rw [readNumberText?_of_ne minus] at foundText
        exact length_of_readUnsigned? foundText

end Lengths

variable {α : Type}

/-- A reader gives a value for the letters up to a rest, with fuel for each of these letters. -/
structure ReadsAs (read : Nat → List Char → Option (α × List Char)) (letters : List Char)
    (value : α) (rest : List Char) : Prop where
  shorter : rest.length < letters.length
  reads : ∀ fuel, letters.length ≤ fuel + rest.length → read fuel letters = some (value, rest)

namespace ReadsAs

variable {letters left behind rest : List Char} {letter : Char} {value item : Json}
  {items : List Json} {name? : Option String} {members : List (Option String × Json)}

theorem unique {α : Type} {read : Nat → List Char → Option (α × List Char)} {value other : α}
    {final : List Char}
    (first : ReadsAs read letters value rest) (second : ReadsAs read letters other final) :
    value = other ∧ rest = final := by
  have enough := first.reads letters.length (Nat.le_add_right _ _)
  rw [second.reads letters.length (Nat.le_add_right _ _)] at enough
  cases enough
  exact ⟨rfl, rfl⟩

theorem skipSpace_twice (letters : List Char) :
    skipSpace (skipSpace letters) = skipSpace letters :=
  List.dropWhile_idempotent ..

theorem length_skipSpace_le (letters : List Char) : (skipSpace letters).length ≤ letters.length :=
  (List.dropWhile_suffix _).length_le

theorem length_of_begun (begun : skipSpace letters = letter :: left) :
    left.length < letters.length := by
  have shorter := length_skipSpace_le letters
  rw [begun, List.length_cons] at shorter
  omega

/-- Blanks in front of a value are passed over. -/
theorem of_skipSpace {read : Nat → List Char → Option (α × List Char)} {value : α}
    (same : ∀ fuel, read fuel letters = read fuel (skipSpace letters))
    (reads : ReadsAs read (skipSpace letters) value rest) : ReadsAs read letters value rest where
  shorter := Nat.lt_of_lt_of_le reads.shorter (length_skipSpace_le letters)
  reads := fun fuel enough => by
    have shorter := length_skipSpace_le letters
    rw [same]
    exact reads.reads fuel (by omega)

theorem readValue?_trimmed (reads : ReadsAs readValue? (skipSpace letters) value rest) :
    ReadsAs readValue? letters value rest :=
  of_skipSpace (fun fuel => (readValue?_skipSpace (skipSpace_twice letters) fuel).symm) reads

theorem readItems?_trimmed (reads : ReadsAs Json.readItems? (skipSpace letters) items rest) :
    ReadsAs Json.readItems? letters items rest :=
  of_skipSpace (fun fuel => by
    cases fuel with
    | zero => rfl
    | succ fuel =>
        rw [readItems?_succ, readItems?_succ, readValue?_skipSpace (skipSpace_twice letters)]) reads

theorem readMembers?_trimmed (reads : ReadsAs Json.readMembers? (skipSpace letters) members rest) :
    ReadsAs Json.readMembers? letters members rest :=
  of_skipSpace (fun fuel => by
    cases fuel with
    | zero => rfl
    | succ fuel =>
        rw [Json.readMembers?, Json.readMembers?, skipSpace_twice]) reads

/-- A value is read by its first letter. -/
theorem of_begun (begun : skipSpace letters = letter :: left) (shorter : rest.length ≤ left.length)
    (reads : ∀ fuel, left.length ≤ fuel + rest.length →
      readBegun? fuel letter left = some (value, rest)) :
    ReadsAs readValue? letters value rest where
  shorter := Nat.lt_of_le_of_lt shorter (length_of_begun begun)
  reads := fun fuel enough => by
    have shorterToo := length_of_begun begun
    obtain ⟨fuel, rfl⟩ : ∃ less, fuel = less + 1 := ⟨fuel - 1, by omega⟩
    rw [readValue?_of_begun begun, reads fuel (by omega)]

theorem number (begun : skipSpace letters = letter :: left)
    (numeric : letter = '-' ∨ isDigit letter = true)
    (read : readNumber? (letter :: left) = some (value, rest)) :
    ReadsAs readValue? letters value rest :=
  of_begun begun (Nat.le_of_lt_succ (length_of_readNumber? read))
    fun fuel _ => (readBegun?_number numeric fuel left).trans read

theorem string {text? : Option String} (quote : skipSpace letters = '"' :: left)
    (read : readString? left = some (text?, rest)) (shorter : rest.length < left.length) :
    ReadsAs readValue? letters ((text?.map Json.string).getD .unreadable) rest :=
  of_begun quote (Nat.le_of_lt shorter) fun _ _ => by
    rw [readBegun?, read]
    rfl

theorem ofWord (word : List Char) (begun : skipSpace letters = letter :: (word ++ rest))
    (reads : ∀ fuel left, readBegun? fuel letter left = (readWord? word left).map ((value, ·))) :
    ReadsAs readValue? letters value rest :=
  of_begun begun (List.suffix_append word rest).length_le fun fuel _ => by
    rw [reads, readWord?_self]
    rfl

theorem null (begun : skipSpace letters = ['n', 'u', 'l', 'l'] ++ rest) :
    ReadsAs readValue? letters .null rest :=
  ofWord ['u', 'l', 'l'] begun fun _ _ => rfl

theorem isTrue (begun : skipSpace letters = ['t', 'r', 'u', 'e'] ++ rest) :
    ReadsAs readValue? letters (.bool true) rest :=
  ofWord ['r', 'u', 'e'] begun fun _ _ => rfl

theorem isFalse (begun : skipSpace letters = ['f', 'a', 'l', 's', 'e'] ++ rest) :
    ReadsAs readValue? letters (.bool false) rest :=
  ofWord ['a', 'l', 's', 'e'] begun fun _ _ => rfl

theorem readItems? (own : ReadsAs readValue? letters item left)
    (behind : ReadsAs (readBehindItem? · item) left items rest) :
    ReadsAs readItems? letters items rest where
  shorter := Nat.lt_trans behind.shorter own.shorter
  reads := fun fuel enough => by
    have ownShorter := own.shorter
    have behindShorter := behind.shorter
    obtain ⟨fuel, rfl⟩ : ∃ less, fuel = less + 1 := ⟨fuel - 1, by omega⟩
    rw [readItems?_succ, own.reads fuel (by omega)]
    exact behind.reads fuel (by omega)

theorem behindItem_comma (comma : skipSpace letters = ',' :: left)
    (others : ReadsAs Json.readItems? left items rest) :
    ReadsAs (readBehindItem? · item) letters (item :: items) rest where
  shorter := Nat.lt_trans others.shorter (length_of_begun comma)
  reads := fun fuel enough => by
    have shorter := length_of_begun comma
    rw [readBehindItem?, comma]
    exact congrArg (Option.map _) (others.reads fuel (by omega))

theorem behindItem_bracket (bracket : skipSpace letters = ']' :: rest) :
    ReadsAs (readBehindItem? · item) letters [item] rest where
  shorter := length_of_begun bracket
  reads := fun fuel _ => by
    rw [readBehindItem?, bracket]
    rfl

theorem noItems (bracket : skipSpace letters = ']' :: rest) :
    ReadsAs readArray? letters (.array []) rest where
  shorter := length_of_begun bracket
  reads := fun fuel _ => by
    rw [readArray?, bracket]
    rfl

theorem readArray? (others : ReadsAs Json.readItems? letters items rest) :
    ReadsAs readArray? letters (.array items) rest where
  shorter := others.shorter
  reads := fun fuel enough => readArray?_of_items (others.reads fuel enough)

theorem array (begun : skipSpace letters = '[' :: left)
    (items : ReadsAs Json.readArray? left value rest) : ReadsAs readValue? letters value rest :=
  of_begun begun (Nat.le_of_lt items.shorter) items.reads

theorem readMembers? (quote : skipSpace letters = '"' :: left)
    (name : readString? left = some (name?, behind)) (shorter : behind.length < left.length)
    (others : ReadsAs (readBehindName? · name?) behind members rest) :
    ReadsAs readMembers? letters members rest where
  shorter := by
    have leftShorter := length_of_begun quote
    have othersShorter := others.shorter
    omega
  reads := fun fuel enough => by
    have leftShorter := length_of_begun quote
    have othersShorter := others.shorter
    obtain ⟨fuel, rfl⟩ : ∃ less, fuel = less + 1 := ⟨fuel - 1, by omega⟩
    rw [readMembers?_of_quote quote, name]
    exact others.reads fuel (by omega)

theorem behindName (colon : skipSpace letters = ':' :: left)
    (own : ReadsAs readValue? left value behind)
    (others : ReadsAs (readBehindMember? · (name?, value)) behind members rest) :
    ReadsAs (readBehindName? · name?) letters members rest where
  shorter := by
    have leftShorter := length_of_begun colon
    have ownShorter := own.shorter
    have othersShorter := others.shorter
    omega
  reads := fun fuel enough => by
    have leftShorter := length_of_begun colon
    have ownShorter := own.shorter
    have othersShorter := others.shorter
    rw [readBehindName?, colon]
    exact Option.bind_eq_some_iff.2
      ⟨_, own.reads fuel (by omega), others.reads fuel (by omega)⟩

theorem behindMember_comma (comma : skipSpace letters = ',' :: left)
    (others : ReadsAs Json.readMembers? left members rest) :
    ReadsAs (readBehindMember? · (name?, value)) letters ((name?, value) :: members) rest where
  shorter := Nat.lt_trans others.shorter (length_of_begun comma)
  reads := fun fuel enough => by
    have shorter := length_of_begun comma
    rw [readBehindMember?, comma]
    exact congrArg (Option.map _) (others.reads fuel (by omega))

theorem behindMember_brace (brace : skipSpace letters = '\x7d' :: rest) :
    ReadsAs (readBehindMember? · (name?, value)) letters [(name?, value)] rest where
  shorter := length_of_begun brace
  reads := fun fuel _ => by
    rw [readBehindMember?, brace]
    rfl

theorem noMembers (brace : skipSpace letters = '\x7d' :: rest) :
    ReadsAs readObject? letters (.object []) rest where
  shorter := length_of_begun brace
  reads := fun fuel _ => by
    rw [readObject?, brace]
    rfl

theorem readObject? (others : ReadsAs Json.readMembers? letters members rest) :
    ReadsAs readObject? letters (ofMembers members) rest where
  shorter := others.shorter
  reads := fun fuel enough => readObject?_of_members (others.reads fuel enough)

theorem object (begun : skipSpace letters = '\x7b' :: left)
    (members : ReadsAs Json.readObject? left value rest) : ReadsAs readValue? letters value rest :=
  of_begun begun (Nat.le_of_lt members.shorter) members.reads

theorem ofLetters? (reads : ReadsAs readValue? letters value rest) (blank : skipSpace rest = []) :
    ofLetters? letters = some value := by
  have enough : letters.length ≤ letters.length + 1 + rest.length := by omega
  rw [Json.ofLetters?, reads.reads _ enough]
  exact if_pos (List.isEmpty_iff.2 blank)

end ReadsAs

end Json

end LoadChart
