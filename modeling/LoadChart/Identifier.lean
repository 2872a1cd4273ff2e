import LoadChart.Collection.OrderedSet
import LoadChart.Text.Digits

/-!
# Identifiers

Universally unique identifiers of sixteen bytes.  They are written in lower case with hyphens
and sorted by their bytes, which is the order of their values.
-/

namespace LoadChart

/-- A value of 128 bits. -/
structure Identifier where
  value : BitVec 128
deriving DecidableEq

namespace Identifier

instance : LE Identifier := ⟨fun left right => left.value ≤ right.value⟩

instance : LT Identifier := ⟨fun left right => left.value < right.value⟩

instance (left right : Identifier) : Decidable (left ≤ right) :=
  inferInstanceAs (Decidable (left.value ≤ right.value))

instance (left right : Identifier) : Decidable (left < right) :=
  inferInstanceAs (Decidable (left.value < right.value))

/-- The five groups of digits, with hyphens between. -/
def text (identifier : Identifier) : String :=
  let digits := hexDigits 32 identifier.value.toNat
  String.ofList
    (digits.take 8 ++ '-' :: (digits.drop 8).take 4 ++ '-' :: (digits.drop 12).take 4
      ++ '-' :: (digits.drop 16).take 4 ++ '-' :: digits.drop 20)

/-- Reads exactly 32 hexadecimal digits. -/
def ofHexDigits? (letters : List Char) : Option Identifier := do
  let values ← letters.mapM hexValue?
  if values.length = 32 then
    some ⟨BitVec.ofNat 128 (values.foldl (fun value digit => value * 16 + digit) 0)⟩
  else none

/-- Reads 32 hexadecimal digits in groups of 8, 4, 4, 4 and 12, with hyphens between. -/
def ofHyphenated? (letters : List Char) : Option Identifier :=
  if letters.length = 36 ∧ letters[8]? = some '-' ∧ letters[13]? = some '-'
      ∧ letters[18]? = some '-' ∧ letters[23]? = some '-' then
    ofHexDigits?
      (letters.take 8 ++ (letters.drop 9).take 4 ++ (letters.drop 14).take 4
        ++ (letters.drop 19).take 4 ++ letters.drop 24)
  else none

/-- What stands before the form of a resource name, in letters of either case. -/
def resourceScheme : List Char := "urn:uuid:".toList

def hasResourceScheme (letters : List Char) : Bool :=
  (letters.take 9).map Char.toLower == resourceScheme

/-- Reads the hyphenated form, the bare digits, the form in braces or the form of a resource
name. -/
def ofText? (text : String) : Option Identifier :=
  let letters := text.toList
  match letters.length with
  | 32 => ofHexDigits? letters
  | 36 => ofHyphenated? letters
  | 38 =>
      if letters.head? = some '\x7b' ∧ letters.getLast? = some '\x7d' then
        ofHyphenated? (letters.drop 1).dropLast
      else none
  | 45 => if hasResourceScheme letters then ofHyphenated? (letters.drop 9) else none
  | _ => none

instance : Ranked Identifier where
  rank identifier := identifier.value.toNat
  rank_injective := by
    rintro ⟨left⟩ ⟨right⟩ same
    exact congrArg Identifier.mk (BitVec.eq_of_toNat_eq (Int.ofNat.inj same))

end Identifier

end LoadChart
