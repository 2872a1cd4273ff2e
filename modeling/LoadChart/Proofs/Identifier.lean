import LoadChart.Identifier
import LoadChart.Proofs.Text.Digits

/-!
# Identifiers that are read again

The text of an identifier is read as the identifier.
-/

namespace LoadChart

namespace Identifier

theorem ofHexDigits?_hexDigits (identifier : Identifier) :
    ofHexDigits? (hexDigits 32 identifier.value.toNat) = some identifier := by
  obtain ⟨values, read, length, value⟩ := mapM_hexValue?_hexDigits 32 identifier.value.toNat
  have small : identifier.value.toNat % 16 ^ 32 = identifier.value.toNat :=
    Nat.mod_eq_of_lt identifier.value.isLt
  rw [ofHexDigits?, read]
  simp only [Option.bind_eq_bind, Option.bind_some, length, if_true, value, small]
  rw [BitVec.ofNat_toNat, BitVec.setWidth_eq]

theorem ofHyphenated?_groups {first second third fourth fifth : List Char}
    (firstLength : first.length = 8) (secondLength : second.length = 4)
    (thirdLength : third.length = 4) (fourthLength : fourth.length = 4)
    (fifthLength : fifth.length = 12) :
    ofHyphenated?
        (first ++ '-' :: second ++ '-' :: third ++ '-' :: fourth ++ '-' :: fifth) =
      ofHexDigits? (first ++ second ++ third ++ fourth ++ fifth) := by
  rw [ofHyphenated?, if_pos]
  · congr 1
    simp [List.drop_append, List.drop_of_length_le, firstLength, secondLength, thirdLength,
      fourthLength]
  · simp [firstLength, secondLength, thirdLength, fourthLength, fifthLength]

theorem take_drop_append {α : Type} (items : List α) (start length : Nat) :
    (items.drop start).take length ++ items.drop (start + length) = items.drop start := by
  rw [← List.drop_drop, List.take_append_drop]

theorem ofText?_text (identifier : Identifier) : ofText? identifier.text = some identifier := by
  have length := hexDigits_length 32 identifier.value.toNat
  have read := ofHexDigits?_hexDigits identifier
  have letters : identifier.text.toList = _ := String.toList_ofList
  generalize hexDigits 32 identifier.value.toNat = digits at length read letters
  have groups : digits.take 8 ++ (digits.drop 8).take 4 ++ (digits.drop 12).take 4
      ++ (digits.drop 16).take 4 ++ digits.drop 20 = digits := by
    rw [List.append_assoc, take_drop_append, List.append_assoc, take_drop_append,
      List.append_assoc, take_drop_append, List.take_append_drop]
  have textLength : identifier.text.toList.length = 36 := by
    rw [letters]
    simp [length]
  have asGroups : ofText? identifier.text = ofHyphenated? identifier.text.toList := by
    rw [ofText?]
    simp only [textLength]
  rw [asGroups, letters, ofHyphenated?_groups, groups, read]
  all_goals simp [length]

end Identifier

end LoadChart
