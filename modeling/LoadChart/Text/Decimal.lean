import LoadChart.Text.Digits

/-!
# Decimal text of floats

Floats are written with a fixed number of places, from their exact binary value: half a unit of the
last place goes to the even neighbour, and a negative sign is kept even before zero.  Or they are
written with the fewest significant digits that read back as them, and with the nearest of those;
then small exponents are written out in zeros, and others follow an `e` and their sign.

A float is read from digits with perhaps a sign, a point and an exponent, or from a word for what is
infinite or no number.
-/

namespace LoadChart

/-- A finite float as a sign and `mantissa * 2 ^ exponent`. -/
structure BinaryParts where
  negative : Bool
  mantissa : Nat
  exponent : Int

/-- The exact value of a float, unless it is infinite or not a number. -/
def binaryParts? (value : Float) : Option BinaryParts :=
  let bits : Nat := value.toBits.toNat
  let negative := bits / powerOfTwo 63 == 1
  let biased : Nat := bits / powerOfTwo 52 % powerOfTwo 11
  let fraction : Nat := bits % powerOfTwo 52
  if biased = 2047 then none
  else if biased = 0 then some ⟨negative, fraction, -1074⟩
  else some ⟨negative, fraction + powerOfTwo 52, (biased : Int) - 1075⟩

/-- The quotient rounded to the nearest number, and to the even one if two are equally near. -/
def roundedQuotient (numerator denominator : Nat) : Nat :=
  let quotient := numerator / denominator
  let rest := numerator % denominator
  if 2 * rest < denominator then quotient
  else if denominator < 2 * rest then quotient + 1
  else quotient + quotient % 2

/-- A natural number of units of the last place, with a point before the last `places` digits. -/
def placedDigits (places units : Nat) : List Char :=
  if places = 0 then digitsOfNumber units
  else
    digitsOfNumber (units / powerOfTen places)
      ++ '.' :: paddedDigits places (units % powerOfTen places)

def fixedText (places : Nat) (value : Float) : String :=
  match binaryParts? value with
  | none => if value.isNaN then "NaN" else if value < 0 then "-inf" else "inf"
  | some ⟨negative, mantissa, exponent⟩ =>
      let units :=
        if 0 ≤ exponent then mantissa * powerOfTwo exponent.toNat * powerOfTen places
        else roundedQuotient (mantissa * powerOfTen places) (powerOfTwo (-exponent).toNat)
      let digits := placedDigits places units
      String.ofList (if negative then '-' :: digits else digits)

/-- A positive number `digits * 10 ^ exponent`. -/
structure DecimalParts where
  digits : Nat
  exponent : Int

namespace DecimalParts

/-- The float nearest to a number. -/
def toFloat (number : DecimalParts) : Float :=
  if 0 ≤ number.exponent then Float.ofScientific number.digits false number.exponent.toNat
  else Float.ofScientific number.digits true (-number.exponent).toNat

/-- The numerator and the denominator of `mantissa * 2 ^ exponent` in units of `10 ^ place`. -/
def unitsOf (parts : BinaryParts) (place : Int) : Nat × Nat :=
  (parts.mantissa * powerOfTwo parts.exponent.toNat * powerOfTen (-place).toNat,
    powerOfTwo (-parts.exponent).toNat * powerOfTen place.toNat)

/-- The place of the first digit of a positive value: the greatest power of ten below it. -/
def firstPlace (parts : BinaryParts) : Int :=
  let (numerator, denominator) := unitsOf parts (-400)
  ((digitsOfNumber (numerator / denominator)).length : Int) - 401

/-- The two numbers around a value whose last digit stands at a place, the nearer one first. -/
def neighbours (parts : BinaryParts) (place : Int) : List DecimalParts :=
  let (numerator, denominator) := unitsOf parts place
  let below : DecimalParts := ⟨numerator / denominator, place⟩
  let above : DecimalParts := ⟨numerator / denominator + 1, place⟩
  if roundedQuotient numerator denominator = below.digits then [below, above] else [above, below]

def shortest? (value : Float) (parts : BinaryParts) : Option DecimalParts :=
  let first := firstPlace parts
  (List.range 17).findSome? fun (more : Nat) =>
    (neighbours parts (first - (more : Int))).find? fun number => number.toFloat == value

def dropZeros : (fuel : Nat) → DecimalParts → DecimalParts
  | 0, number => number
  | fuel + 1, number =>
      if number.digits ≠ 0 ∧ number.digits % 10 = 0 then
        dropZeros fuel ⟨number.digits / 10, number.exponent + 1⟩
      else number

/-- The letters of an exponent, with its sign. -/
def exponentLetters (exponent : Int) : List Char :=
  (if exponent < 0 then '-' else '+') :: digitsOfNumber exponent.natAbs

/-- The letters of a number: a point at its place between the fifth digit after the point and the
sixteenth before it, and an exponent beyond. -/
def letters (number : DecimalParts) : List Char :=
  let digits := digitsOfNumber number.digits
  let places : Int := digits.length + number.exponent
  if 0 ≤ number.exponent ∧ places ≤ 16 then
    digits ++ List.replicate number.exponent.toNat '0' ++ ['.', '0']
  else if 0 < places ∧ places ≤ 16 then
    digits.take places.toNat ++ '.' :: digits.drop places.toNat
  else if -5 < places ∧ places ≤ 0 then
    '0' :: '.' :: List.replicate (-places).toNat '0' ++ digits
  else
    digits.take 1 ++ (if digits.length = 1 then [] else '.' :: digits.drop 1)
      ++ 'e' :: exponentLetters (places - 1)

end DecimalParts

/-- The shortest text of a float, unless it is infinite or not a number. -/
def shortestText? (value : Float) : Option String :=
  (binaryParts? value).map fun parts =>
    let letters :=
      if parts.mantissa = 0 then ['0', '.', '0']
      else
        match DecimalParts.shortest? value.abs parts with
        | some number => (number.dropZeros 20).letters
        | none => []
    String.ofList (if parts.negative then '-' :: letters else letters)

namespace DecimalParts

def tooLarge : Int := 310

def tooSmall : Int := -330

/-- The float nearest to a number of any size. -/
def nearestFloat (number : DecimalParts) : Float :=
  let first : Int := (digitsOfNumber number.digits).length + number.exponent
  if number.digits = 0 ∨ first < tooSmall then 0
  else if tooLarge < first then 1.0 / 0.0
  else number.toFloat

/-- Reads the exponent behind its letter: a sign and digits up to the end. -/
def exponent? (letters : List Char) : Option Int :=
  let (isNegative, digits) :=
    match letters with
    | '-' :: rest => (true, rest)
    | '+' :: rest => (false, rest)
    | rest => (false, rest)
  if digits.isEmpty || !digits.all isDigit then none
  else
    let value : Int := numberOfDigits digits
    some (if isNegative then -value else value)

/-- Reads digits, perhaps a point among them, and perhaps an exponent. -/
def ofLetters? (letters : List Char) : Option DecimalParts :=
  let whole := letters.takeWhile isDigit
  let rest := letters.drop whole.length
  let (fraction, rest) :=
    match rest with
    | '.' :: rest =>
        let fraction := rest.takeWhile isDigit
        (fraction, rest.drop fraction.length)
    | rest => ([], rest)
  if whole.isEmpty && fraction.isEmpty then none
  else
    let number : DecimalParts := ⟨numberOfDigits (whole ++ fraction), -(fraction.length : Int)⟩
    match rest with
    | [] => some number
    | letter :: rest =>
        if letter = 'e' ∨ letter = 'E' then
          (exponent? rest).map fun exponent => ⟨number.digits, number.exponent + exponent⟩
        else none

def plainLetters (number : DecimalParts) : List Char :=
  let digits := digitsOfNumber number.digits
  let places : Int := digits.length + number.exponent
  if 0 ≤ number.exponent then digits ++ List.replicate number.exponent.toNat '0'
  else if 0 < places then digits.take places.toNat ++ '.' :: digits.drop places.toNat
  else '0' :: '.' :: List.replicate (-places).toNat '0' ++ digits

end DecimalParts

def readUnsignedFloat? (letters : List Char) : Option Float :=
  let word := String.ofList (letters.map Char.toLower)
  if word = "inf" ∨ word = "infinity" then some (1.0 / 0.0)
  else if word = "nan" then some (0.0 / 0.0)
  else (DecimalParts.ofLetters? letters).map DecimalParts.nearestFloat

def readFloat? : List Char → Option Float
  | '-' :: rest => (readUnsignedFloat? rest).map fun value => -value
  | '+' :: rest => readUnsignedFloat? rest
  | letters => readUnsignedFloat? letters

def plainFloatText (value : Float) : String :=
  match binaryParts? value with
  | none => if value.isNaN then "NaN" else if value < 0 then "-inf" else "inf"
  | some parts =>
      let letters :=
        if parts.mantissa = 0 then ['0']
        else
          match DecimalParts.shortest? value.abs parts with
          | some number => (number.dropZeros 20).plainLetters
          | none => []
      String.ofList (if parts.negative then '-' :: letters else letters)

end LoadChart
