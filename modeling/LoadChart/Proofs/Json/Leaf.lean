import LoadChart.Json.Value
import LoadChart.Proofs.Json.ReaderExtension
import LoadChart.Proofs.Text.Digits

/-!
# Strings and whole numbers that are read again

The written form of a string, whatever characters it holds, is read as the string, and that of a
whole number that fits into a word as the number.
-/

namespace LoadChart

namespace Json

variable {rest : List Char}

theorem unitValue?_hexLetters {first second third fourth : Nat} (firstSmall : first < 16)
    (secondSmall : second < 16) (thirdSmall : third < 16) (fourthSmall : fourth < 16) :
    unitValue? (hexLetter first) (hexLetter second) (hexLetter third) (hexLetter fourth) =
      some (((first * 16 + second) * 16 + third) * 16 + fourth) := by
  rw [unitValue?, hexValue?_hexLetter firstSmall, hexValue?_hexLetter secondSmall,
    hexValue?_hexLetter thirdSmall, hexValue?_hexLetter fourthSmall]
  rfl

theorem readPieces?_hexDigits {value : Nat} (small : value < 0x10000) (rest : List Char) :
    readPieces? ('\\' :: 'u' :: hexDigits 4 value ++ rest) =
      (readPieces? rest).map (consPiece (.unit value)) := by
  have digits : hexDigits 4 value = [hexLetter (value / 16 / 16 / 16 % 16),
      hexLetter (value / 16 / 16 % 16), hexLetter (value / 16 % 16), hexLetter (value % 16)] := rfl
  have whole : ((value / 16 / 16 / 16 % 16 * 16 + value / 16 / 16 % 16) * 16 + value / 16 % 16) * 16
      + value % 16 = value := by omega
  rw [digits]
  change readPieces? ('\\' :: 'u' :: _ :: _ :: _ :: _ :: rest) = _
  rw [readPieces?_unit, unitValue?_hexLetters (Nat.mod_lt _ (by decide)) (Nat.mod_lt _ (by decide))
    (Nat.mod_lt _ (by decide)) (Nat.mod_lt _ (by decide)), whole]
  rfl

theorem readPieces?_escapedLetter {letter value : Char} (noUnit : letter ≠ 'u')
    (escaped : escapedLetter? letter = some value) (rest : List Char) :
    readPieces? (['\\', letter] ++ rest) = (readPieces? rest).map (consPiece (.letter value)) := by
  rw [List.cons_append, List.singleton_append, readPieces?_escape noUnit, escaped]
  rfl

theorem joinPieces?_unit {value : Nat} (small : value < 0xD800) (pieces : List StringPiece) :
    joinPieces? (.unit value :: pieces) = (joinPieces? pieces).map (Char.ofNat value :: ·) := by
  conv_lhs => unfold joinPieces?
  exact if_pos (Or.inl small)

/-- The written form of a letter is read as one piece, which stands for the letter. -/
theorem readPieces?_escapeLetter (letter : Char) :
    ∃ piece,
      (∀ rest, readPieces? (escapeLetter letter ++ rest) =
        (readPieces? rest).map (consPiece piece)) ∧
      ∀ pieces, joinPieces? (piece :: pieces) = (joinPieces? pieces).map (letter :: ·) := by
  unfold escapeLetter
  split
  · exact ⟨.letter '"', readPieces?_escapedLetter (by decide) rfl, fun _ => rfl⟩
  · exact ⟨.letter '\\', readPieces?_escapedLetter (by decide) rfl, fun _ => rfl⟩
  · exact ⟨.letter '\x08', readPieces?_escapedLetter (by decide) rfl, fun _ => rfl⟩
  · exact ⟨.letter '\x0c', readPieces?_escapedLetter (by decide) rfl, fun _ => rfl⟩
  · exact ⟨.letter '\n', readPieces?_escapedLetter (by decide) rfl, fun _ => rfl⟩
  · exact ⟨.letter '\r', readPieces?_escapedLetter (by decide) rfl, fun _ => rfl⟩
  · exact ⟨.letter '\t', readPieces?_escapedLetter (by decide) rfl, fun _ => rfl⟩
  next noQuote noEscape _ _ _ _ _ =>
    split
    next control =>
      refine ⟨.unit letter.toNat, readPieces?_hexDigits (by omega), fun pieces => ?_⟩
      rw [joinPieces?_unit (by omega), Char.ofNat_toNat]
    next printable =>
      refine ⟨.letter letter, fun rest => ?_, fun _ => rfl⟩
      rw [List.singleton_append, readPieces?_letter noQuote noEscape, if_neg]
      exact fun stops => stops.elim printable noEscape

theorem readPieces?_escape_append (letters rest : List Char) :
    ∃ pieces, readPieces? (escape letters ++ '"' :: rest) = some (pieces, rest) ∧
      joinPieces? pieces = some letters := by
  induction letters with
  | nil => exact ⟨[], rfl, rfl⟩
  | cons letter others induction =>
      obtain ⟨pieces, read, joined⟩ := induction
      obtain ⟨piece, readOne, joinOne⟩ := readPieces?_escapeLetter letter
      refine ⟨piece :: pieces, ?_, ?_⟩
      · rw [escape, List.flatMap_cons, List.append_assoc, readOne, ← escape, read]
        rfl
      · rw [joinOne, joined]
        rfl

theorem readString?_escape (text : String) (rest : List Char) :
    readString? (escape text.toList ++ '"' :: rest) = some (some text, rest) := by
  obtain ⟨pieces, read, joined⟩ := readPieces?_escape_append text.toList rest
  rw [readString?, read]
  simp only [Option.map_some, joined, String.ofList_toList]

/-- Letters that do not go on with a whole number. -/
def EndsNumber (letters : List Char) : Prop :=
  ∀ letter ∈ letters.head?, isDigit letter = false ∧ letter ≠ '.' ∧ letter ≠ 'e' ∧ letter ≠ 'E'

theorem EndsNumber.nil : EndsNumber [] := by
  rintro _ ⟨⟩

theorem EndsNumber.comma (rest : List Char) : EndsNumber (',' :: rest) := by
  rintro _ ⟨⟩
  decide

theorem EndsNumber.newLine (level : Nat) (rest : List Char) :
    EndsNumber (newLine level ++ rest) := by
  rintro _ ⟨⟩
  decide

theorem takeWhile_digitsOfNumber (number : Nat) (ends : EndsNumber rest) :
    (digitsOfNumber number ++ rest).takeWhile isDigit = digitsOfNumber number := by
  rw [List.takeWhile_append_of_pos isDigit_of_mem_digitsOfNumber]
  cases rest with
  | nil => exact List.append_nil _
  | cons letter others =>
      rw [List.takeWhile_cons_of_neg (by simp [(ends letter rfl).1]), List.append_nil]

theorem readWhole?_digitsOfNumber (number : Nat) (ends : EndsNumber rest) :
    readWhole? (digitsOfNumber number ++ rest) = some (digitsOfNumber number, rest) := by
  obtain ⟨digit, others, begins, zero⟩ := digitsOfNumber_begins number
  rw [readWhole?, takeWhile_digitsOfNumber number ends, begins]
  split
  next none => cases none
  next same =>
    cases same
    cases zero rfl
  · rw [← begins, List.drop_left]

theorem readUnsigned?_digitsOfNumber (negative : Bool) (number : Nat) (ends : EndsNumber rest) :
    readUnsigned? negative (digitsOfNumber number ++ rest) =
      some (⟨negative, digitsOfNumber number, none, none⟩, rest) := by
  have noFraction : readFraction? rest = some (none, rest) := by
    cases rest with
    | nil => rfl
    | cons letter others => exact readFraction?_of_ne (ends letter rfl).2.1 others
  have noExponent : readExponent? rest = some (none, rest) := by
    cases rest with
    | nil => rfl
    | cons letter others =>
        obtain ⟨_, _, noSmall, noCapital⟩ := ends letter rfl
        rw [readExponent?_cons, if_neg (fun mark => mark.elim noSmall noCapital)]
  rw [readUnsigned?, readWhole?_digitsOfNumber number ends]
  simp only [Option.bind_eq_bind, Option.bind_some, noFraction, noExponent]
  rfl

theorem readNumber?_digitsOfNumber {number : Nat} (small : number ≤ maxWord)
    (ends : EndsNumber rest) :
    readNumber? (digitsOfNumber number ++ rest) = some (.integer number, rest) := by
  obtain ⟨digit, others, begins, _⟩ := digitsOfNumber_begins number
  have noMinus : digit ≠ '-' := by
    rintro rfl
    have minus := isDigit_of_mem_digitsOfNumber '-' (begins ▸ List.mem_cons_self)
    cases minus
  have text : readNumberText? (digitsOfNumber number ++ rest) =
      some (⟨false, digitsOfNumber number, none, none⟩, rest) := by
    rw [begins, List.cons_append, readNumberText?_of_ne noMinus, ← List.cons_append, ← begins]
    exact readUnsigned?_digitsOfNumber false number ends
  rw [readNumber?, text]
  simp [NumberText.value, numberOfDigits_digitsOfNumber, small]

theorem readNumber?_minus {number : Nat} (positive : 0 < number) (small : number ≤ powerOfTwo 63)
    (ends : EndsNumber rest) :
    readNumber? ('-' :: digitsOfNumber number ++ rest) = some (.integer (-number), rest) := by
  have text : readNumberText? ('-' :: digitsOfNumber number ++ rest) =
      some (⟨true, digitsOfNumber number, none, none⟩, rest) :=
    readUnsigned?_digitsOfNumber true number ends
  rw [readNumber?, text]
  simp [NumberText.value, numberOfDigits_digitsOfNumber, small, Nat.ne_of_gt positive]

theorem readNumber?_integerText {value : Int} (low : -(powerOfTwo 63 : Int) ≤ value)
    (high : value ≤ maxWord) (ends : EndsNumber rest) :
    readNumber? ((integerText value).toList ++ rest) = some (.integer value, rest) := by
  unfold integerText
  split
  next negative =>
    have whole : -(value.natAbs : Int) = value := by omega
    rw [String.toList_ofList, readNumber?_minus (by omega) (by omega) ends, whole]
  next notNegative =>
    have whole : (value.natAbs : Int) = value := by omega
    rw [numberText, String.toList_ofList, readNumber?_digitsOfNumber (by omega) ends, whole]

end Json

end LoadChart
