import LoadChart.Text.Digits
import LoadChart.Text.Escape
import LoadChart.Text.Letters

/-!
# Targets of requests

Between the slashes and the path of an address stands a host, with a name and a word in front of an
at sign, and the number of a channel behind a colon.  What an address names on its host is a path
and perhaps a query.  Steps of one and of two dots are taken out of the path, and letters that may
not stand in an address are written as bytes.
-/

namespace LoadChart

namespace Host

/-- A letter that the name of a host must not hold. -/
def isRefused (letter : Char) : Bool :=
  letter.toNat ≤ 0x20 || letter.toNat = 0x7F || "#/:<>?@[\\]^|%".toList.contains letter

/-- The number that a part of a numeric host writes in base eight, ten or sixteen. -/
def number? (letters : List Char) : Option Nat :=
  let (base, digits) :=
    match letters with
    | '0' :: 'x' :: rest | '0' :: 'X' :: rest => (16, rest)
    | '0' :: second :: rest => (8, second :: rest)
    | letters => (10, letters)
  if letters.isEmpty then none
  else do
    let values ← digits.mapM hexValue?
    if values.all (· < base) then
      some (values.foldl (fun value digit => value * base + digit) 0)
    else none

/-- The parts between the dots of a host, without an empty last one. -/
def parts (letters : List Char) : List (List Char) :=
  let parts := partsBetween '.' letters
  if parts.getLast? = some [] then parts.dropLast else parts

/-- Whether a host claims to be a number, by its last part. -/
def isNumeric (letters : List Char) : Bool :=
  match (parts letters).getLast? with
  | some [] | none => false
  | some last => last.all isDigit || (number? last).isSome

/-- Whether a numeric host is an address of 32 bits: at most four numbers of eight bits, where the
last one fills the bits that are left. -/
def isNumericAddress (letters : List Char) : Bool :=
  let parts := parts letters
  match parts.mapM number? with
  | some numbers =>
      parts.length ≤ 4 && numbers.dropLast.all (· ≤ 255)
        && (numbers.getLast?.getD 0) < powerOfTwo (8 * (5 - parts.length))
  | none => false

def isName (letters : List Char) : Bool :=
  let name := Percent.decode letters
  !name.isEmpty && !name.any isRefused && (!isNumeric name || isNumericAddress name)

/-- Whether some letters write the number of a channel, of sixteen bits, which may be left out. -/
def isChannel (letters : List Char) : Bool :=
  letters.all isDigit && numberOfDigits letters < powerOfTwo 16

def isAuthority (letters : List Char) : Bool :=
  let host := (partsBetween '@' letters).getLast?.getD []
  let name := host.takeWhile (· ≠ ':')
  isName name && isChannel (host.drop (name.length + 1))

end Host

/-- A path and perhaps a query. -/
structure RequestTarget where
  path : List Char
  query : Option (List Char)

namespace RequestTarget

/-- A letter that ends a line or moves to a column, which is passed over in an address. -/
def isLayout (letter : Char) : Bool := letter = '\t' || letter = '\n' || letter = '\r'

def isSlash (letter : Char) : Bool := letter = '/' || letter = '\\'

/-- The letters of an address without blanks and controls around it and without layout. -/
def cleaned (text : String) : List Char :=
  let isEdge := fun (letter : Char) => letter.toNat ≤ 0x20
  let letters := text.toList.dropWhile isEdge
  (letters.reverse.dropWhile isEdge).reverse.filter fun letter => !isLayout letter

/-- What stands behind the scheme of an address of the web, and behind the slashes. -/
def behindScheme? (letters : List Char) : Option (List Char) :=
  let scheme := (letters.takeWhile (· ≠ ':')).map Char.toLower
  if scheme = "http".toList ∨ scheme = "https".toList then
    (letters.dropWhile (· ≠ ':')).tail?.map (·.dropWhile isSlash)
  else none

def isPlainInPath (letter : Char) : Bool :=
  0x20 < letter.toNat && letter.toNat < 0x7F && !"\"<>\x60\x7b\x7d".toList.contains letter

def isPlainInQuery (letter : Char) : Bool :=
  0x20 < letter.toNat && letter.toNat < 0x7F && !"\"<>'".toList.contains letter

def restSteps : List String := [".", "%2e"]

def backSteps : List String := ["..", ".%2e", "%2e.", "%2e%2e"]

/-- A letter and a colon or a bar, which a step back does not leave. -/
def isDrive : List Char → Bool
  | [letter, mark] => letter.isAlpha && (mark = ':' || mark = '|')
  | _ => false

/-- The steps of a path without those of dots, behind some taken before, the last of which stands
first.  Where the path ends with a step of dots, an empty step remains. -/
def resolved (taken : List (List Char)) : List (List Char) → List (List Char)
  | [] => taken.reverse
  | step :: rest =>
      let word := String.ofList (step.map Char.toLower)
      let isLast := rest.isEmpty
      if restSteps.contains word then resolved (if isLast then [] :: taken else taken) rest
      else if backSteps.contains word then
        let left := if (taken.head?.map isDrive).getD false then taken else taken.drop 1
        resolved (if isLast then [] :: left else left) rest
      else resolved (step :: taken) rest

/-- The written form of a path, of which a first slash may be left out. -/
def pathText (letters : List Char) : List Char :=
  let letters := letters.map fun letter => if isSlash letter then '/' else letter
  let behindSlash := if letters.head? = some '/' then letters.drop 1 else letters
  let steps := (partsBetween '/' behindSlash).map (Percent.encode isPlainInPath)
  (resolved [] steps).flatMap ('/' :: ·)

def ofAddress? (text : String) : Option RequestTarget := do
  let letters ← behindScheme? (cleaned text)
  let isInside := fun letter => !isSlash letter && letter ≠ '?' && letter ≠ '#'
  if !Host.isAuthority (letters.takeWhile isInside) then none
  let behindHost := (letters.dropWhile isInside).takeWhile (· ≠ '#')
  let path := behindHost.takeWhile (· ≠ '?')
  let query := (behindHost.drop path.length).tail?.map (Percent.encode isPlainInQuery)
  return ⟨pathText path, query⟩

def withQuery (target : RequestTarget) (more : List Char) : RequestTarget :=
  match target.query with
  | none | some [] => { target with query := some more }
  | some query => { target with query := some (query ++ '&' :: more) }

def text (target : RequestTarget) : String :=
  String.ofList (target.path ++ (target.query.map ('?' :: ·)).getD [])

end RequestTarget

end LoadChart
