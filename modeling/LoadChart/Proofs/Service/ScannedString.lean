import LoadChart.Proofs.Json.Outcome
import LoadChart.Proofs.Json.ReaderExtension
import LoadChart.Proofs.Json.Unused
import LoadChart.Proofs.Service.Letters

/-!
# Strings that are scanned

A string that is passed over among the bytes of a body is read from their letters, up to the same
place.  A string that is used has the text of its bytes, which are those of characters.
-/

namespace LoadChart

namespace Json

variable {letters left rest final : List Char} {pieces : List StringPiece} {letter : Char}

/-- A letter that stands for itself in a string. -/
def IsPlainLetter (letter : Char) : Prop := ¬letter.toNat < 0x20 ∧ letter ≠ '"' ∧ letter ≠ '\\'

theorem readPieces?_plain (plain : ∀ letter ∈ letters, IsPlainLetter letter)
    (found : readPieces? rest = some (pieces, final)) :
    readPieces? (letters ++ rest) = some (letters.map .letter ++ pieces, final) := by
  induction letters with
  | nil => exact found
  | cons letter letters induction =>
      obtain ⟨⟨printable, noQuote, noEscape⟩, others⟩ := List.forall_mem_cons.1 plain
      have stands : ¬(letter.toNat < 0x20 ∨ letter = '\\') := by simp [printable, noEscape]
      rw [List.cons_append, readPieces?_letter noQuote noEscape, if_neg stands, induction others]
      rfl

theorem joinPieces?_letters (letters : List Char) (pieces : List StringPiece) :
    joinPieces? (letters.map .letter ++ pieces) = (joinPieces? pieces).map (letters ++ ·) := by
  induction letters with
  | nil => exact Option.map_id.symm ▸ rfl
  | cons letter letters induction =>
      have own : joinPieces? (.letter letter :: (letters.map .letter ++ pieces)) =
          (joinPieces? (letters.map .letter ++ pieces)).map (letter :: ·) := rfl
      rw [List.map_cons, List.cons_append, own, induction, Option.map_map]
      rfl

theorem readString?_of_pieces (found : readPieces? letters = some (pieces, rest)) :
    readString? letters = some ((joinPieces? pieces).map String.ofList, rest) := by
  rw [readString?, found]
  rfl

/-- Some letters in front of others are an escape, which stands for a letter where it is used. -/
structure IsEscape (isUsed : Bool) (letters rest : List Char) (letter : Char)
    (pieces : List StringPiece) : Prop where
  shorter : rest.length < letters.length
  read : ∀ others final, readPieces? rest = some (others, final) →
    readPieces? letters = some (pieces ++ others, final)
  joined : isUsed = true → ∀ others,
    joinPieces? (pieces ++ others) = (joinPieces? others).map (letter :: ·)

variable {isUsed : Bool}

theorem IsEscape.ofLetter {name : Char} (noUnit : name ≠ 'u')
    (escaped : escapedLetter? name = some letter) :
    IsEscape isUsed ('\\' :: name :: rest) rest letter [.letter letter] where
  shorter := by
    simp only [List.length_cons]
    omega
  read := fun others final found => by
    rw [readPieces?_escape noUnit, escaped, found]
    rfl
  joined := fun _ _ => rfl

/-- Four hexadecimal digits in front of some letters have the value of a unit. -/
def BeginsUnit (letters rest : List Char) (value : Nat) : Prop :=
  ∃ first second third fourth, letters = first :: second :: third :: fourth :: rest ∧
    unitValue? first second third fourth = some value

theorem BeginsUnit.read {value : Nat} (begins : BeginsUnit letters rest value)
    (found : readPieces? rest = some (pieces, final)) :
    readPieces? ('\\' :: 'u' :: letters) = some (.unit value :: pieces, final) := by
  obtain ⟨first, second, third, fourth, rfl, unit⟩ := begins
  rw [readPieces?_unit, unit, found]
  rfl

theorem BeginsUnit.shorter {value : Nat} (begins : BeginsUnit letters rest value) :
    rest.length < letters.length := by
  obtain ⟨first, second, third, fourth, rfl, _⟩ := begins
  simp only [List.length_cons]
  omega

theorem IsEscape.ofUnit {value : Nat} (begins : BeginsUnit letters rest value)
    (joined : isUsed = true → (value < 0xD800 ∨ 0xDFFF < value) ∧ letter = Char.ofNat value) :
    IsEscape isUsed ('\\' :: 'u' :: letters) rest letter [.unit value] where
  shorter := by
    have own := begins.shorter
    simp only [List.length_cons]
    omega
  read := fun others final found => begins.read found
  joined := fun used others => by
    obtain ⟨single, rfl⟩ := joined used
    rw [List.singleton_append]
    conv_lhs => unfold joinPieces?
    exact if_pos single

theorem IsEscape.ofPair {leading trailing : Nat}
    (begins : BeginsUnit letters ('\\' :: 'u' :: left) leading)
    (goesOn : BeginsUnit left rest trailing) (high : ¬(leading < 0xD800 ∨ 0xDFFF < leading))
    (first : ¬0xDC00 ≤ leading) (low : ¬(trailing < 0xDC00 ∨ 0xDFFF < trailing)) :
    IsEscape isUsed ('\\' :: 'u' :: letters) rest
      (Char.ofNat (0x10000 + (leading - 0xD800) * 0x400 + (trailing - 0xDC00)))
      [.unit leading, .unit trailing] where
  shorter := by
    have own := begins.shorter
    have other := goesOn.shorter
    simp only [List.length_cons] at own ⊢
    omega
  read := fun others final found => begins.read (goesOn.read found)
  joined := fun _ others => by
    have both : leading < 0xDC00 ∧ 0xDC00 ≤ trailing ∧ trailing ≤ 0xDFFF := by omega
    change joinPieces? (.unit leading :: .unit trailing :: others) = _
    conv_lhs => unfold joinPieces?
    rw [if_neg high]
    exact if_pos both

end Json

namespace Body

open Json (readPieces? joinPieces? readString? IsPlainLetter IsEscape BeginsUnit)
open Scan (markOf Ensures IsPlain)

variable {isUsed : Bool} {byte : UInt8} {bytes rest value : List UInt8}

theorem markOf_of_small {letter : Char} (small : letter.toNat < 0x80) :
    markOf letter.val.toUInt8 = letter := by
  have number : letter.val.toUInt8.toNat = letter.toNat % 256 := rfl
  rw [markOf, number, Nat.mod_eq_of_lt (by omega), Char.ofNat_toNat]

/-- Bytes that stand for themselves belong to letters that do. -/
theorem isPlainLetter_of_mem_lettersOf (plain : ∀ byte ∈ bytes, IsPlain byte) :
    ∀ letter ∈ lettersOf bytes, IsPlainLetter letter := by
  induction bytes using bytes_induction with
  | nil => rintro _ ⟨⟩
  | character letter rest induction =>
      obtain ⟨own, others⟩ := List.forall_mem_append.1 plain
      rw [lettersOf_character]
      refine List.forall_mem_cons.2 ⟨?_, induction others⟩
      by_cases small : letter.toNat < 0x80
      · rw [encodeChar_of_small small, List.forall_mem_singleton] at own
        obtain ⟨printable, noQuote, noEscape⟩ := own
        rw [UInt8.lt_iff_toNat_lt, ← Scan.toNat_markOf] at printable
        rw [markOf_of_small small] at printable noQuote noEscape
        exact ⟨printable, noQuote, noEscape⟩
      · refine ⟨by omega, ?_, ?_⟩
        · rintro rfl
          exact small (by decide)
        · rintro rfl
          exact small (by decide)
  | broken byte rest isBroken induction =>
      rw [lettersOf_of_none isBroken]
      exact List.forall_mem_cons.2
        ⟨⟨by decide, by decide, by decide⟩, induction (List.forall_mem_cons.1 plain).2⟩

/-- The letters in front of a character do not depend on it. -/
theorem lettersOf_append_character (letter : Char) (bytes rest : List UInt8) :
    lettersOf (bytes ++ (String.utf8EncodeChar letter ++ rest)) =
      lettersOf bytes ++ letter :: lettersOf rest := by
  have some? := encodeChar_length_pos letter
  have begins : (String.utf8EncodeChar letter)[0].IsUTF8FirstByte :=
    UInt8.isUTF8FirstByte_getElem_utf8EncodeChar.2 rfl
  rw [← lettersOf_character]
  cases split : String.utf8EncodeChar letter with
  | nil =>
      rw [split] at some?
      cases some?
  | cons first others =>
      simp only [split, List.getElem_cons_zero] at begins
      exact lettersOf_append begins (others ++ rest) bytes

theorem small_of_hexValue? {letter : Char} {value : Nat} (found : hexValue? letter = some value) :
    letter.toNat < 0x80 := by
  by_contra large
  have none : hexValue? letter = none := by
    unfold hexValue?
    dsimp only
    rw [if_neg (by simp; omega), if_neg (by simp; omega), if_neg (by simp; omega)]
  rw [none] at found
  cases found

theorem small_of_escapedLetter? {letter value : Char}
    (found : Json.escapedLetter? letter = some value) : letter.toNat < 0x80 := by
  unfold Json.escapedLetter? at found
  split at found <;> first | decide | cases found

theorem escapedUnit_ensures :
    Ensures Scan.escapedUnit bytes fun value rest =>
      BeginsUnit (lettersOf bytes) (lettersOf rest) value := by
  intro value rest passed
  obtain ⟨first, second, third, fourth, rfl, found⟩ := Scan.escapedUnit_eq_ok.1 passed
  obtain ⟨_, firstFound, behind⟩ := Option.bind_eq_some_iff.1 found
  obtain ⟨_, secondFound, behind⟩ := Option.bind_eq_some_iff.1 behind
  obtain ⟨_, thirdFound, behind⟩ := Option.bind_eq_some_iff.1 behind
  obtain ⟨_, fourthFound, _⟩ := Option.bind_eq_some_iff.1 behind
  refine ⟨_, _, _, _, ?_, found⟩
  rw [lettersOf_mark rfl (small_of_hexValue? firstFound),
    lettersOf_mark rfl (small_of_hexValue? secondFound),
    lettersOf_mark rfl (small_of_hexValue? thirdFound),
    lettersOf_mark rfl (small_of_hexValue? fourthFound)]

theorem escapedCharacter_ensures :
    Ensures (Scan.escapedCharacter isUsed) bytes fun letter rest =>
      ∃ pieces,
        IsEscape isUsed ('\\' :: 'u' :: lettersOf bytes) (lettersOf rest) letter pieces := by
  refine escapedUnit_ensures.bind fun leading left begins => ?_
  split
  next unused =>
    refine Ensures.pure ⟨_, .ofUnit begins fun used => ?_⟩
    simp [used] at unused
  split
  next single => exact Ensures.pure ⟨_, .ofUnit begins fun _ => ⟨single, rfl⟩⟩
  split
  · exact Ensures.stop _
  next high first =>
    intro value rest passed
    obtain ⟨_, afterSlash, slashPassed, behindSlash⟩ := Scan.bind_eq_ok.1 passed
    obtain ⟨_, afterLetter, letterPassed, behindLetter⟩ := Scan.bind_eq_ok.1 behindSlash
    obtain ⟨trailing, final, trailingPassed, ended⟩ := Scan.bind_eq_ok.1 behindLetter
    obtain ⟨slash, rfl, slashMark⟩ := Scan.escapeLetter_eq_ok.1 slashPassed
    obtain ⟨letter, rfl, letterMark⟩ := Scan.escapeLetter_eq_ok.1 letterPassed
    rw [lettersOf_mark slashMark (by decide), lettersOf_mark letterMark (by decide)] at begins
    have goesOn := escapedUnit_ensures trailing final trailingPassed
    split at ended
    · cases ended
    next low =>
      obtain ⟨rfl, rfl⟩ := Scan.pure_eq_ok.1 ended
      exact ⟨_, .ofPair begins goesOn high first low⟩

theorem escape_ensures :
    Ensures (Scan.escape isUsed) bytes fun own rest =>
      ∃ letter pieces, own = String.utf8EncodeChar letter ∧
        IsEscape isUsed ('\\' :: lettersOf bytes) (lettersOf rest) letter pieces := by
  cases bytes with
  | nil => rintro _ _ ⟨⟩
  | cons byte bytes =>
      intro own rest passed
      rw [Scan.escape_eq] at passed
      split at passed
      next unit =>
        obtain ⟨letter, _, passedCharacter, ⟨⟩⟩ := Scan.bind_eq_ok.1 passed
        obtain ⟨pieces, isEscape⟩ := escapedCharacter_ensures letter _ passedCharacter
        rw [lettersOf_mark unit (by decide)]
        exact ⟨letter, pieces, rfl, isEscape⟩
      next noUnit =>
        cases escaped : Json.escapedLetter? (markOf byte) with
        | none =>
            rw [escaped] at passed
            cases passed
        | some letter =>
            rw [escaped] at passed
            cases passed
            rw [lettersOf_mark rfl (small_of_escapedLetter? escaped)]
            exact ⟨letter, _, rfl, .ofLetter noUnit escaped⟩

/-- A string is read from the letters of its bytes, raw ones in front of it included, and has the
letters of the bytes that it stands for. -/
theorem stringBytes_pieces {fuel : Nat}
    (passed : Scan.stringBytes isUsed fuel bytes = .ok value rest) {run : List UInt8}
    (plain : ∀ byte ∈ run, IsPlain byte) :
    ∃ pieces, readPieces? (lettersOf (run ++ bytes)) = some (pieces, lettersOf rest) ∧
      (lettersOf rest).length < (lettersOf (run ++ bytes)).length ∧
      (isUsed = true → joinPieces? pieces = some (lettersOf (run ++ value))) := by
  -- a broken character may be split only at the mark behind it, so the raw bytes are gathered
  induction fuel generalizing bytes value run with
  | zero => cases passed
  | succ fuel induction =>
      cases bytes with
      | nil => cases passed
      | cons byte bytes =>
          have letters := isPlainLetter_of_mem_lettersOf plain
          obtain ⟨printable, ended | escaped | stands⟩ := Scan.stringBytes_cases passed
          · obtain ⟨quote, rfl, rfl⟩ := ended
            have split := lettersOf_append_mark quote (by decide) run bytes
            refine ⟨(lettersOf run).map .letter ++ [], ?_, ?_, fun _ => ?_⟩
            · rw [split]
              exact Json.readPieces?_plain letters rfl
            · rw [split, List.length_append, List.length_cons]
              omega
            · rw [Json.joinPieces?_letters, List.append_nil]
              exact congrArg some (List.append_nil _)
          · obtain ⟨slash, own, left, others, passedEscape, passedOthers, rfl⟩ := escaped
            obtain ⟨letter, pieces, rfl, isEscape⟩ := escape_ensures own left passedEscape
            obtain ⟨more, read, shorter, joined⟩ :=
              induction passedOthers (List.forall_mem_nil IsPlain)
            have split := lettersOf_append_mark slash (by decide) run bytes
            refine ⟨(lettersOf run).map .letter ++ (pieces ++ more), ?_, ?_, fun used => ?_⟩
            · rw [split]
              exact Json.readPieces?_plain letters (isEscape.read _ _ read)
            · have behind := isEscape.shorter
              rw [List.nil_append] at shorter
              rw [split, List.length_append]
              omega
            · rw [Json.joinPieces?_letters, isEscape.joined used, joined used,
                lettersOf_append_character]
              rfl
          · obtain ⟨noQuote, noEscape, others, passedOthers, rfl⟩ := stands
            have longer : ∀ other ∈ run ++ [byte], IsPlain other :=
              List.forall_mem_append.2
                ⟨plain, List.forall_mem_singleton.2 ⟨printable, noQuote, noEscape⟩⟩
            have gathered := induction passedOthers longer
            rwa [List.append_assoc, List.append_assoc] at gathered

theorem exists_encode_of_fromUTF8? {letters : List UInt8} {text : String}
    (found : String.fromUTF8? (ByteArray.mk letters.toArray) = some text) :
    ∃ characters, letters = encode characters := by
  rw [String.fromUTF8?] at found
  split at found
  next valid =>
    obtain ⟨characters, same⟩ := valid
    refine ⟨characters, ?_⟩
    have sameData := congrArg (fun array : ByteArray => array.data.toList) same
    simpa [List.utf8Encode, encode] using sameData
  · cases found

theorem textOf_ensures (letters : List UInt8) :
    Ensures (Scan.textOf letters) bytes fun text rest =>
      bytes = rest ∧ lettersOf letters = text.toList := by
  unfold Scan.textOf
  cases found : String.fromUTF8? (ByteArray.mk letters.toArray) with
  | none => exact Ensures.stop _
  | some text =>
      refine Ensures.pure ⟨rfl, ?_⟩
      obtain ⟨characters, rfl⟩ := exists_encode_of_fromUTF8? found
      rw [fromUTF8?_encode] at found
      cases found
      have decoded := lettersOf_encode characters []
      rw [List.append_nil] at decoded
      rw [decoded, String.toList_ofList]
      exact List.append_nil _

/-- A string that is used is read as its text, behind its opening quote. -/
theorem string_ensures :
    Ensures Scan.string (byte :: bytes) fun text rest =>
      readString? (lettersOf bytes) = some (some text, lettersOf rest) ∧
        (lettersOf rest).length < (lettersOf bytes).length := by
  intro text rest passed
  rw [Scan.string_cons] at passed
  obtain ⟨letters, left, passedBytes, passedText⟩ := Scan.bind_eq_ok.1 passed
  obtain ⟨rfl, same⟩ := textOf_ensures letters text rest passedText
  obtain ⟨pieces, read, shorter, joined⟩ :=
    stringBytes_pieces passedBytes (List.forall_mem_nil IsPlain)
  rw [List.nil_append] at read shorter joined
  refine ⟨?_, shorter⟩
  rw [Json.readString?_of_pieces read, joined rfl, same, Option.map_some, String.ofList_toList]

theorem unusedString_ensures :
    Ensures Scan.unusedString (byte :: bytes) fun _ rest =>
      ∃ text?, readString? (lettersOf bytes) = some (text?, lettersOf rest) ∧
        (lettersOf rest).length < (lettersOf bytes).length := by
  intro _ rest passed
  rw [Scan.unusedString_cons] at passed
  obtain ⟨letters, left, passedBytes, ⟨⟩⟩ := Scan.bind_eq_ok.1 passed
  obtain ⟨pieces, read, shorter, _⟩ :=
    stringBytes_pieces passedBytes (List.forall_mem_nil IsPlain)
  exact ⟨_, Json.readString?_of_pieces read, shorter⟩

end Body

end LoadChart
