import LoadChart.Proofs.Json.Steps
import LoadChart.Service.Body

/-!
# Letters of bodies

The bytes of letters are read as these letters, whatever follows them.  What stands in front of a
byte with which characters begin is read without it, even if it begins a character and does not end
it.
-/

namespace LoadChart

namespace Body

open Scan (markOf toNat_markOf)

def encode (letters : List Char) : List UInt8 := letters.flatMap String.utf8EncodeChar

def lettersOf (bytes : List UInt8) : List Char := (textOfBytes bytes).toList

theorem lettersOf_eq (bytes : List UInt8) : lettersOf bytes = lettersWithin bytes.length bytes := by
  rw [lettersOf, textOfBytes, String.toList_ofList]

theorem fromUTF8?_encode (letters : List Char) :
    String.fromUTF8? (ByteArray.mk (encode letters).toArray) = some (String.ofList letters) := by
  have same : ByteArray.mk (encode letters).toArray = letters.utf8Encode := by
    rw [List.utf8Encode]
    exact ByteArray.ext (by simp [encode])
  have valid : (ByteArray.mk (encode letters).toArray).IsValidUTF8 := ⟨letters, same⟩
  rw [String.fromUTF8?, dif_pos valid]
  refine congrArg some (String.toByteArray_inj.1 ?_)
  rw [String.toByteArray_ofList, ← same]
  rfl

theorem character?_eq_some {bytes : List UInt8} {letter : Char} {length : Nat} :
    character? bytes = some (letter, length) ↔
      length = letter.utf8Size ∧ ∃ rest, bytes = String.utf8EncodeChar letter ++ rest := by
  rw [character?, Option.map_eq_some_iff]
  constructor
  · rintro ⟨found, decoded, same⟩
    cases same
    obtain ⟨left, split⟩ := ByteArray.exists_of_utf8DecodeChar?_eq_some decoded
    have asList : bytes.take 4 = String.utf8EncodeChar letter ++ left.data.toList := by
      have sameData := congrArg (fun array : ByteArray => array.data.toList) split
      simpa using sameData
    refine ⟨rfl, left.data.toList ++ bytes.drop 4, ?_⟩
    rw [← List.append_assoc, ← asList, List.take_append_drop]
  · rintro ⟨rfl, rest, rfl⟩
    have short : (String.utf8EncodeChar letter).length ≤ 4 := by
      rw [String.length_utf8EncodeChar]
      exact letter.utf8Size_le_four
    refine ⟨letter, ?_, rfl⟩
    rw [List.take_append, List.take_of_length_le short, List.toByteArray_append]
    exact ByteArray.utf8DecodeChar?_utf8EncodeChar_append

theorem encodeChar_length_pos (letter : Char) : 0 < (String.utf8EncodeChar letter).length := by
  rw [String.length_utf8EncodeChar]
  exact letter.utf8Size_pos

theorem lettersWithin_append (letter : Char) (fuel : Nat) (rest : List UInt8) :
    lettersWithin (fuel + 1) (String.utf8EncodeChar letter ++ rest) =
      letter :: lettersWithin fuel rest := by
  have found : character? (String.utf8EncodeChar letter ++ rest) = some (letter, letter.utf8Size) :=
    character?_eq_some.2 ⟨rfl, rest, rfl⟩
  have behind : (String.utf8EncodeChar letter ++ rest).drop letter.utf8Size = rest :=
    List.drop_left' (String.length_utf8EncodeChar letter)
  have some? := encodeChar_length_pos letter
  cases bytes : String.utf8EncodeChar letter ++ rest with
  | nil =>
      rw [(List.append_eq_nil_iff.1 bytes).1] at some?
      cases some?
  | cons byte bytesBehind =>
      rw [bytes] at found behind
      rw [lettersWithin, found]
      dsimp only
      rw [behind]

/-- Bytes are none, or begin with those of a letter, or with a byte that belongs to none. -/
theorem bytes_cases (bytes : List UInt8) :
    bytes = [] ∨ (∃ letter rest, bytes = String.utf8EncodeChar letter ++ rest) ∨
      ∃ byte rest, bytes = byte :: rest ∧ character? (byte :: rest) = none := by
  cases bytes with
  | nil => exact Or.inl rfl
  | cons byte rest =>
      cases found : character? (byte :: rest) with
      | none => exact Or.inr (Or.inr ⟨byte, rest, rfl, found⟩)
      | some pair =>
          obtain ⟨letter, length⟩ := pair
          obtain ⟨_, behind, split⟩ := character?_eq_some.1 found
          exact Or.inr (Or.inl ⟨letter, behind, split⟩)

theorem lettersWithin_of_none {byte : UInt8} {rest : List UInt8}
    (broken : character? (byte :: rest) = none) (fuel : Nat) :
    lettersWithin (fuel + 1) (byte :: rest) = '\ufffd' :: lettersWithin fuel rest := by
  rw [lettersWithin, broken]

theorem lettersWithin_encode (letters : List Char) (fuel : Nat) (rest : List UInt8) :
    lettersWithin (letters.length + fuel) (encode letters ++ rest) =
      letters ++ lettersWithin fuel rest := by
  induction letters with
  | nil => simp [encode]
  | cons letter letters induction =>
      have fuelSplit : (letter :: letters).length + fuel = letters.length + fuel + 1 := by
        simp only [List.length_cons]
        omega
      rw [fuelSplit, encode, List.flatMap_cons, List.append_assoc, lettersWithin_append,
        ← encode, induction, List.cons_append]

theorem lettersWithin_congr {fuel other : Nat} {bytes : List UInt8} (enough : bytes.length ≤ fuel)
    (enoughToo : bytes.length ≤ other) : lettersWithin fuel bytes = lettersWithin other bytes := by
  induction fuel generalizing other bytes with
  | zero =>
      have empty := List.length_eq_zero_iff.1 (Nat.le_zero.1 enough)
      subst empty
      cases other <;> rfl
  | succ fuel induction =>
      rcases bytes_cases bytes with rfl | ⟨letter, rest, rfl⟩ | ⟨byte, rest, rfl, broken⟩
      · cases other <;> rfl
      · have some? := encodeChar_length_pos letter
        rw [List.length_append] at enough enoughToo
        obtain ⟨other, rfl⟩ : ∃ less, other = less + 1 := ⟨other - 1, by omega⟩
        rw [lettersWithin_append, lettersWithin_append]
        exact congrArg (letter :: ·) (induction (by omega) (by omega))
      · rw [List.length_cons] at enough enoughToo
        obtain ⟨other, rfl⟩ : ∃ less, other = less + 1 := ⟨other - 1, by omega⟩
        rw [lettersWithin_of_none broken, lettersWithin_of_none broken]
        exact congrArg ('\ufffd' :: ·) (induction (by omega) (by omega))

theorem lettersOf_encode (letters : List Char) (bytes : List UInt8) :
    lettersOf (encode letters ++ bytes) = letters ++ lettersOf bytes := by
  let all := encode letters ++ bytes
  have within : bytes.length ≤ all.length := by
    rw [List.length_append]
    exact Nat.le_add_left _ _
  calc
    lettersOf all
      = lettersWithin (letters.length + all.length) all := by
      rw [lettersOf_eq]
      exact lettersWithin_congr (Nat.le_refl _) (Nat.le_add_left _ _)
    _ = letters ++ lettersWithin all.length bytes := lettersWithin_encode letters _ bytes
    _ = letters ++ lettersOf bytes := by
      rw [lettersOf_eq, lettersWithin_congr within (Nat.le_refl _)]

/-- Induction over bytes by the letters that they are read as. -/
theorem bytes_induction {motive : List UInt8 → Prop} (nil : motive [])
    (character : ∀ letter rest, motive rest → motive (String.utf8EncodeChar letter ++ rest))
    (broken : ∀ byte rest, character? (byte :: rest) = none → motive rest → motive (byte :: rest))
    (bytes : List UInt8) : motive bytes := by
  induction length : bytes.length using Nat.strong_induction_on generalizing bytes with
  | _ count induction =>
      rcases bytes_cases bytes with rfl | ⟨letter, rest, rfl⟩ | ⟨byte, rest, rfl, isBroken⟩
      · exact nil
      · have some? := encodeChar_length_pos letter
        rw [List.length_append] at length
        exact character letter rest (induction rest.length (by omega) rest rfl)
      · rw [List.length_cons] at length
        exact broken byte rest isBroken (induction rest.length (by omega) rest rfl)

theorem lettersOf_of_none {byte : UInt8} {rest : List UInt8}
    (broken : character? (byte :: rest) = none) :
    lettersOf (byte :: rest) = '\ufffd' :: lettersOf rest := by
  rw [lettersOf_eq, lettersOf_eq, List.length_cons, lettersWithin_of_none broken]

theorem lettersOf_character (letter : Char) (rest : List UInt8) :
    lettersOf (String.utf8EncodeChar letter ++ rest) = letter :: lettersOf rest := by
  have encoded : encode [letter] = String.utf8EncodeChar letter := List.append_nil _
  rw [← encoded, lettersOf_encode]
  rfl

/-- A byte with which characters begin is not one within a character. -/
theorem character?_append {byte mark : UInt8} {rest : List UInt8}
    (broken : character? (byte :: rest) = none) (begins : mark.IsUTF8FirstByte)
    (more : List UInt8) : character? (byte :: (rest ++ mark :: more)) = none := by
  cases found : character? (byte :: (rest ++ mark :: more)) with
  | none => rfl
  | some pair =>
      obtain ⟨letter, length⟩ := pair
      obtain ⟨rfl, behind, split⟩ := character?_eq_some.1 found
      rw [← List.cons_append] at split
      rcases List.append_eq_append_iff.1 split with ⟨within, whole, others⟩ | ⟨left, whole, _⟩
      · cases within with
        | nil =>
            rw [List.append_nil] at whole
            rw [character?_eq_some.2 ⟨rfl, [], by rw [whole, List.append_nil]⟩] at broken
            cases broken
        | cons first within =>
            obtain ⟨rfl, _⟩ := List.cons.inj others
            have place : (byte :: rest).length < (String.utf8EncodeChar letter).length := by
              simp [whole]
            have isMark : (String.utf8EncodeChar letter)[(byte :: rest).length] = mark := by
              rw [List.getElem_of_eq whole, List.getElem_append_right (Nat.le_refl _)]
              simp
            have isFirst :
                (String.utf8EncodeChar letter)[(byte :: rest).length].IsUTF8FirstByte := by
              rw [isMark]
              exact begins
            exact absurd (UInt8.isUTF8FirstByte_getElem_utf8EncodeChar.1 isFirst)
              (Nat.succ_ne_zero _)
      · rw [character?_eq_some.2 ⟨rfl, left, whole⟩] at broken
        cases broken

/-- The letters in front of a byte with which characters begin do not depend on what follows. -/
theorem lettersOf_append {mark : UInt8} (begins : mark.IsUTF8FirstByte) (more bytes : List UInt8) :
    lettersOf (bytes ++ mark :: more) = lettersOf bytes ++ lettersOf (mark :: more) := by
  induction bytes using bytes_induction with
  | nil => rfl
  | character letter rest induction =>
      rw [List.append_assoc, lettersOf_character, lettersOf_character, induction, List.cons_append]
  | broken byte rest isBroken induction =>
      rw [lettersOf_of_none isBroken, List.cons_append,
        lettersOf_of_none (character?_append isBroken begins more), induction, List.cons_append]

theorem encodeChar_of_small {letter : Char} (small : letter.toNat < 0x80) :
    String.utf8EncodeChar letter = [letter.val.toUInt8] := by
  refine String.utf8EncodeChar_eq_singleton (Char.utf8Size_eq_one_iff.2 ?_)
  rw [UInt32.le_iff_toNat_le]
  exact Nat.le_of_lt_succ small

theorem encodeChar_markOf {byte : UInt8} (small : byte.toNat < 0x80) :
    String.utf8EncodeChar (markOf byte) = [byte] := by
  have number := toNat_markOf byte
  rw [encodeChar_of_small (by omega)]
  refine congrArg (fun byte => [byte]) (UInt8.toNat_inj.1 ?_)
  rw [← number]
  have : (markOf byte).val.toUInt8.toNat = (markOf byte).toNat % 256 := rfl
  rw [this]
  omega

theorem lettersOf_small {byte : UInt8} (small : byte.toNat < 0x80) (rest : List UInt8) :
    lettersOf (byte :: rest) = markOf byte :: lettersOf rest := by
  have character := lettersOf_character (markOf byte) rest
  rwa [encodeChar_markOf small] at character

theorem lettersOf_mark {byte : UInt8} {letter : Char} (mark : markOf byte = letter)
    (small : letter.toNat < 0x80) (rest : List UInt8) :
    lettersOf (byte :: rest) = letter :: lettersOf rest := by
  subst mark
  rw [toNat_markOf] at small
  exact lettersOf_small small rest

/-- A byte beyond the ASCII ones belongs to a letter beyond them. -/
theorem exists_lettersOf_large {byte : UInt8} (large : 0x80 ≤ byte.toNat) (rest : List UInt8) :
    ∃ letter others, lettersOf (byte :: rest) = letter :: others ∧ 0x80 ≤ letter.toNat := by
  rcases bytes_cases (byte :: rest) with empty | ⟨letter, others, split⟩ | ⟨_, _, same, broken⟩
  · cases empty
  · refine ⟨letter, lettersOf others, by rw [split, lettersOf_character], ?_⟩
    by_contra small
    rw [encodeChar_of_small (by omega)] at split
    obtain ⟨rfl, _⟩ := List.cons.inj split
    have number : letter.val.toUInt8.toNat = letter.toNat % 256 := rfl
    omega
  · obtain ⟨rfl, rfl⟩ := List.cons.inj same
    exact ⟨_, _, lettersOf_of_none broken, by decide⟩

theorem isUTF8FirstByte_of_small {byte : UInt8} (small : byte.toNat < 0x80) :
    byte.IsUTF8FirstByte := by
  have some? := encodeChar_length_pos (markOf byte)
  have first : (String.utf8EncodeChar (markOf byte))[0] = byte := by
    simp [encodeChar_markOf small]
  rw [← first]
  exact UInt8.isUTF8FirstByte_getElem_utf8EncodeChar.2 rfl

theorem lettersOf_append_mark {byte : UInt8} {letter : Char} (mark : markOf byte = letter)
    (small : letter.toNat < 0x80) (bytes rest : List UInt8) :
    lettersOf (bytes ++ byte :: rest) = lettersOf bytes ++ letter :: lettersOf rest := by
  have isSmall : byte.toNat < 0x80 := by rwa [← toNat_markOf, mark]
  rw [lettersOf_append (isUTF8FirstByte_of_small isSmall), lettersOf_mark mark small]

theorem lettersOf_brace (bytes : List UInt8) :
    lettersOf (bytes ++ [125]) = lettersOf bytes ++ ['\x7d'] :=
  lettersOf_append_mark rfl (by decide) bytes []

section Tests

variable {test : Char → Bool}

/-- A test that only ASCII letters pass leads to the same place in bytes and in their letters. -/
theorem lettersOf_dropWhile (small : ∀ letter, test letter = true → letter.toNat < 0x80)
    (bytes : List UInt8) :
    (lettersOf bytes).dropWhile test = lettersOf (bytes.dropWhile (test ∘ markOf)) := by
  have fails : ∀ letter, 0x80 ≤ letter.toNat → ¬test letter = true :=
    fun letter large passes => Nat.not_lt.2 large (small letter passes)
  induction bytes with
  | nil => rfl
  | cons byte rest induction =>
      by_cases isSmall : byte.toNat < 0x80
      · rw [lettersOf_small isSmall, List.dropWhile_cons, List.dropWhile_cons]
        dsimp only [Function.comp_apply]
        split
        · exact induction
        · rw [lettersOf_small isSmall]
      · have large := Nat.not_lt.1 isSmall
        obtain ⟨letter, others, same, letterLarge⟩ := exists_lettersOf_large large rest
        rw [← toNat_markOf] at large
        rw [List.dropWhile_cons_of_neg (p := test ∘ markOf) (fails _ large), same,
          List.dropWhile_cons_of_neg (fails _ letterLarge)]

theorem lettersOf_takeWhile (small : ∀ letter, test letter = true → letter.toNat < 0x80)
    (bytes : List UInt8) :
    (lettersOf bytes).takeWhile test = (bytes.takeWhile (test ∘ markOf)).map markOf := by
  have fails : ∀ letter, 0x80 ≤ letter.toNat → ¬test letter = true :=
    fun letter large passes => Nat.not_lt.2 large (small letter passes)
  induction bytes with
  | nil => rfl
  | cons byte rest induction =>
      by_cases isSmall : byte.toNat < 0x80
      · rw [lettersOf_small isSmall, List.takeWhile_cons, List.takeWhile_cons]
        dsimp only [Function.comp_apply]
        split
        · rw [induction, List.map_cons]
        · rfl
      · have large := Nat.not_lt.1 isSmall
        obtain ⟨letter, others, same, letterLarge⟩ := exists_lettersOf_large large rest
        rw [← toNat_markOf] at large
        rw [List.takeWhile_cons_of_neg (p := test ∘ markOf) (fails _ large), same,
          List.takeWhile_cons_of_neg (fails _ letterLarge)]
        rfl

end Tests

end Body

end LoadChart
