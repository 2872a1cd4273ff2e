/-!
# Digits

Powers of the two bases, reading a run of ASCII digits, and writing natural numbers at a fixed
least width.
-/

namespace LoadChart

def powerOfTwo (bits : Nat) : Nat := Nat.pow 2 bits

def powerOfTen (digits : Nat) : Nat := Nat.pow 10 digits

def isDigit (letter : Char) : Bool := 48 ≤ letter.toNat && letter.toNat ≤ 57

def digitValue (letter : Char) : Nat := letter.toNat - 48

def numberOfDigits (digits : List Char) : Nat :=
  digits.foldl (fun value digit => value * 10 + digitValue digit) 0

def digitLetter (value : Nat) : Char := Char.ofNat (48 + value)

/-- The digits of a number, without leading zeros. -/
def digitsOfNumber (number : Nat) : List Char :=
  if number < 10 then [digitLetter number]
  else digitsOfNumber (number / 10) ++ [digitLetter (number % 10)]
termination_by number

/-- The digits of a number, with zeros in front up to the given width. -/
def paddedDigits (width number : Nat) : List Char :=
  let digits := digitsOfNumber number
  List.replicate (width - digits.length) '0' ++ digits

def numberText (number : Nat) : String := String.ofList (digitsOfNumber number)

/-- The text of an integer, with a sign if it is negative. -/
def integerText (number : Int) : String :=
  if number < 0 then String.ofList ('-' :: digitsOfNumber number.natAbs)
  else numberText number.natAbs

/-- The text of a natural number of at least the given width. -/
def paddedText (width number : Nat) : String := String.ofList (paddedDigits width number)

/-- Reads between one and `most` digits. -/
def readDigits? (most : Nat) (letters : List Char) : Option (Nat × List Char) :=
  let digits := (letters.takeWhile isDigit).take most
  if digits.isEmpty then none
  else some (numberOfDigits digits, letters.drop digits.length)

/-- Reads all digits in front, at least one. -/
def readAllDigits? (letters : List Char) : Option (Nat × List Char) :=
  readDigits? letters.length letters

/-- The hexadecimal value of a letter, in either case. -/
def hexValue? (letter : Char) : Option Nat :=
  let code := letter.toNat
  if 48 ≤ code && code ≤ 57 then some (code - 48)
  else if 97 ≤ code && code ≤ 102 then some (code - 87)
  else if 65 ≤ code && code ≤ 70 then some (code - 55)
  else none

def hexLetter (value : Nat) : Char :=
  if value < 10 then Char.ofNat (48 + value) else Char.ofNat (87 + value)

/-- The lowest `width` hexadecimal digits of a number. -/
def hexDigits : (width number : Nat) → List Char
  | 0, _ => []
  | width + 1, number => hexDigits width (number / 16) ++ [hexLetter (number % 16)]

end LoadChart
