import LoadChart.Json.Value
import LoadChart.Text.Digits

/-!
# JSON numbers

A number is read as its sign, digits and exponent, and then valued.  Digits are gathered into a
word of 64 bits; the digits of the whole part that no longer fit are counted into the exponent,
and those of the fraction are left out.  The float is then one product or quotient by a power of
ten, so its last bits may differ from the nearest float.
-/

namespace LoadChart

namespace Json

/-- The parts of a number as written. -/
structure NumberText where
  negative : Bool
  whole : List Char
  /-- The digits after the point. -/
  fraction : Option (List Char)
  /-- The sign and digits of the exponent. -/
  exponent : Option (Bool × List Char)

/-- Reads the digits after a point, if there is one. -/
def readFraction? : List Char → Option (Option (List Char) × List Char)
  | '.' :: rest =>
      let digits := rest.takeWhile isDigit
      if digits.isEmpty then none else some (some digits, rest.drop digits.length)
  | letters => some (none, letters)

/-- Reads the digits of an exponent, after its sign. -/
def readExponentDigits? (negative : Bool) (letters : List Char) :
    Option (Option (Bool × List Char) × List Char) :=
  let digits := letters.takeWhile isDigit
  if digits.isEmpty then none else some (some (negative, digits), letters.drop digits.length)

/-- Reads an exponent, if there is one. -/
def readExponent? : List Char → Option (Option (Bool × List Char) × List Char)
  | letter :: rest =>
      if letter = 'e' ∨ letter = 'E' then
        match rest with
        | '-' :: digits => readExponentDigits? true digits
        | '+' :: digits => readExponentDigits? false digits
        | digits => readExponentDigits? false digits
      else some (none, letter :: rest)
  | [] => some (none, [])

/-- Reads the whole part: one zero, or digits that begin with another one. -/
def readWhole? (letters : List Char) : Option (List Char × List Char) :=
  let digits := letters.takeWhile isDigit
  match digits with
  | [] => none
  | '0' :: _ :: _ => none
  | digits => some (digits, letters.drop digits.length)

def readNumberText? (letters : List Char) : Option (NumberText × List Char) := do
  let (negative, letters) :=
    match letters with
    | '-' :: rest => (true, rest)
    | rest => (false, rest)
  let (whole, letters) ← readWhole? letters
  let (fraction, letters) ← readFraction? letters
  let (exponent, letters) ← readExponent? letters
  return (⟨negative, whole, fraction, exponent⟩, letters)

def maxWord : Nat := powerOfTwo 64 - 1

/-- Digits gathered so far, and how many were left out. -/
structure Gathered where
  significand : Nat
  leftOut : Nat

def gather (significand : Nat) : List Char → Gathered
  | [] => ⟨significand, 0⟩
  | digit :: rest =>
      let next := significand * 10 + digitValue digit
      if maxWord < next then ⟨significand, rest.length + 1⟩ else gather next rest

/-- The float of `significand * 10 ^ exponent`, unless it is beyond the floats. -/
def scaledFloat? : (steps : Nat) → (value : Float) → (exponent : Int) → Option Float
  | 0, value, _ => some value
  | steps + 1, value, exponent =>
      if exponent.natAbs ≤ 308 then
        let power := Float.ofScientific 1 false exponent.natAbs
        if 0 ≤ exponent then
          let product := value * power
          if product.isInf then none else some product
        else some (value / power)
      else if value == 0.0 then some value
      else if 0 ≤ exponent then none
      else scaledFloat? steps (value / Float.ofScientific 1 false 308) (exponent + 308)

def maxExponent : Nat := powerOfTwo 31 - 1

/-- The value of a float as written, without its sign. -/
def magnitude? (number : NumberText) : Option Float :=
  let fraction := number.fraction.getD []
  let whole := gather 0 number.whole
  let all := gather whole.significand fraction
  let places := fraction.length - all.leftOut
  let shift : Int := whole.leftOut - places
  match number.exponent with
  | none => scaledFloat? 8 (Float.ofNat all.significand) shift
  | some (negative, digits) =>
      let exponent := numberOfDigits digits
      if maxExponent < exponent then
        if all.significand = 0 ∨ negative then some 0.0 else none
      else
        scaledFloat? 8 (Float.ofNat all.significand)
          (if negative then shift - exponent else shift + exponent)

def NumberText.value (number : NumberText) : Json :=
  let whole := numberOfDigits number.whole
  let isWhole := number.fraction.isNone && number.exponent.isNone
  if isWhole && !number.negative && whole ≤ maxWord then .integer whole
  else if isWhole && number.negative && whole != 0 && whole ≤ powerOfTwo 63 then .integer (-whole)
  else
    match magnitude? number with
    | some value => .float (if number.negative then -value else value)
    | none => .unreadable

def readNumber? (letters : List Char) : Option (Json × List Char) :=
  (readNumberText? letters).map fun (number, rest) => (number.value, rest)

end Json

end LoadChart
