import LoadChart.Text.AlphanumericTable
import LoadChart.Text.LetterCaseTable

/-!
# Letters

Classes of characters, given by the runs of codes that they consist of, and what a text is by them:
its parts between marks, its letters without the blanks around them, and its form in small letters.
There a capital sigma at the end of a word becomes the final small sigma, and a capital I with a dot
becomes two characters; every other character is mapped on its own.
-/

namespace LoadChart

def inRuns (runs : List (Nat × Nat)) (code : Nat) : Bool :=
  runs.any fun (first, last) => first ≤ code && code ≤ last

def isBlank (letter : Char) : Bool :=
  let code := letter.toNat
  (9 ≤ code && code ≤ 13) || code == 0x20 || code == 0x85 || code == 0xA0 || code == 0x1680
    || (0x2000 ≤ code && code ≤ 0x200A) || code == 0x2028 || code == 0x2029 || code == 0x202F
    || code == 0x205F || code == 0x3000

/-- The letters from the first that is not blank. -/
def trimBlankStart (letters : List Char) : List Char := letters.dropWhile isBlank

def trimBlanks (letters : List Char) : List Char :=
  ((letters.dropWhile isBlank).reverse.dropWhile isBlank).reverse

def trimText (text : String) : String := String.ofList (trimBlanks text.toList)

def partsBetween (mark : Char) : List Char → List (List Char)
  | [] => [[]]
  | letter :: rest =>
      if letter = mark then [] :: partsBetween mark rest
      else
        match partsBetween mark rest with
        | [] => [[letter]]
        | part :: parts => (letter :: part) :: parts

def isAlphabetic (letter : Char) : Bool := inRuns alphabeticRuns letter.toNat

def isAlphanumeric (letter : Char) : Bool :=
  isAlphabetic letter || inRuns numericRuns letter.toNat

namespace LetterCase

def isCased (letter : Char) : Bool := inRuns casedRuns letter.toNat

/-- A character that is passed over when the neighbours of another are looked at. -/
def isIgnorable (letter : Char) : Bool := inRuns ignorableRuns letter.toNat

/-- Whether the first character that is not passed over has a case. -/
def meetsCased (letters : List Char) : Bool :=
  match letters.dropWhile isIgnorable with
  | letter :: _ => isCased letter
  | [] => false

def smallLetter (letter : Char) : Char :=
  let code := letter.toNat
  if code < 0x80 then if 65 ≤ code && code ≤ 90 then Char.ofNat (code + 32) else letter
  else
    let run? := smallLetterRuns.find? fun (first, last, step, _) =>
      first ≤ code && code ≤ last && (code - first) % step == 0
    match run? with
    | some (_, _, _, distance) => Char.ofNat (code + distance).toNat
    | none => letter

/-- The lower-case form of one character between the characters before it, nearest first, and
those after it. -/
def lowerLetter (before : List Char) (letter : Char) (after : List Char) : List Char :=
  if letter = '\u03a3' then
    if meetsCased before && !meetsCased after then ['\u03c2'] else ['\u03c3']
  else if letter = '\u0130' then ['i', '\u0307']
  else [smallLetter letter]

/-- The lower-case form of the letters that follow others, which stand nearest first. -/
def lowerAfter (before : List Char) : List Char → List Char
  | [] => []
  | letter :: rest => lowerLetter before letter rest ++ lowerAfter (letter :: before) rest

def lower (letters : List Char) : List Char := lowerAfter [] letters

end LetterCase

def occursIn (pattern : List Char) : List Char → Bool
  | [] => pattern.isEmpty
  | letter :: rest => pattern.isPrefixOf (letter :: rest) || occursIn pattern rest

end LoadChart
