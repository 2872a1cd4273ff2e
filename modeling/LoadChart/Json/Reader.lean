import LoadChart.Json.Number

/-!
# Reading JSON

A strict reader: no comments, no comma before a closing bracket, no raw control characters in a
string and nothing but blanks after the value.
-/

namespace LoadChart

namespace Json

def isSpace (letter : Char) : Bool :=
  letter == ' ' || letter == '\n' || letter == '\t' || letter == '\r'

def skipSpace (letters : List Char) : List Char := letters.dropWhile isSpace

/-- One piece of a string: a character as it stands, or an escaped unit of sixteen bits. -/
inductive StringPiece where
  | letter (value : Char)
  | unit (value : Nat)

def escapedLetter? : Char → Option Char
  | '"' => some '"'
  | '\\' => some '\\'
  | '/' => some '/'
  | 'b' => some '\x08'
  | 'f' => some '\x0c'
  | 'n' => some '\n'
  | 'r' => some '\r'
  | 't' => some '\t'
  | _ => none

def unitValue? (first second third fourth : Char) : Option Nat := do
  let first ← hexValue? first
  let second ← hexValue? second
  let third ← hexValue? third
  let fourth ← hexValue? fourth
  return ((first * 16 + second) * 16 + third) * 16 + fourth

def consPiece (piece : StringPiece) (rest : List StringPiece × List Char) :
    List StringPiece × List Char :=
  (piece :: rest.1, rest.2)

def readPieces? : List Char → Option (List StringPiece × List Char)
  | [] => none
  | '"' :: rest => some ([], rest)
  | '\\' :: 'u' :: first :: second :: third :: fourth :: rest => do
      let value ← unitValue? first second third fourth
      (readPieces? rest).map (consPiece (.unit value))
  | '\\' :: letter :: rest => do
      let value ← escapedLetter? letter
      (readPieces? rest).map (consPiece (.letter value))
  | letter :: rest =>
      if letter.toNat < 0x20 ∨ letter = '\\' then none
      else (readPieces? rest).map (consPiece (.letter letter))

/-- The characters of the pieces of a string.  Two units of a surrogate pair are one character;
half of a pair stands for none. -/
def joinPieces? : List StringPiece → Option (List Char)
  | [] => some []
  | .letter value :: rest => (joinPieces? rest).map (value :: ·)
  | .unit leading :: rest =>
      if leading < 0xD800 ∨ 0xDFFF < leading then
        (joinPieces? rest).map (Char.ofNat leading :: ·)
      else
        match rest with
        | .unit trailing :: rest =>
            if leading < 0xDC00 ∧ 0xDC00 ≤ trailing ∧ trailing ≤ 0xDFFF then
              let code := 0x10000 + (leading - 0xD800) * 0x400 + (trailing - 0xDC00)
              (joinPieces? rest).map (Char.ofNat code :: ·)
            else none
        | _ => none

/-- Reads a string after its opening quote.  The text is missing where it has half of a
surrogate pair. -/
def readString? (letters : List Char) : Option (Option String × List Char) :=
  (readPieces? letters).map fun (pieces, rest) => ((joinPieces? pieces).map String.ofList, rest)

/-- The object of the members read, which stands for nothing if the name of one does. -/
def ofMembers (members : List (Option String × Json)) : Json :=
  match members.mapM fun (name?, value) => name?.map (·, value) with
  | some members => .object members
  | none => .unreadable

def readWord? (word letters : List Char) : Option (List Char) :=
  if word.isPrefixOf letters then some (letters.drop word.length) else none

mutual

/-- Reads one value, blanks in front included. -/
def readValue? : (fuel : Nat) → List Char → Option (Json × List Char)
  | 0, _ => none
  | fuel + 1, letters =>
      match skipSpace letters with
      | '"' :: rest =>
          (readString? rest).map fun (text?, rest) =>
            ((text?.map Json.string).getD .unreadable, rest)
      | '[' :: rest =>
          match skipSpace rest with
          | ']' :: rest => some (.array [], rest)
          | _ => (readItems? fuel rest).map fun (items, rest) => (.array items, rest)
      | '\x7b' :: rest =>
          match skipSpace rest with
          | '\x7d' :: rest => some (.object [], rest)
          | _ => (readMembers? fuel rest).map fun (members, rest) => (ofMembers members, rest)
      | 't' :: rest => (readWord? ['r', 'u', 'e'] rest).map ((.bool true, ·))
      | 'f' :: rest => (readWord? ['a', 'l', 's', 'e'] rest).map ((.bool false, ·))
      | 'n' :: rest => (readWord? ['u', 'l', 'l'] rest).map ((.null, ·))
      | rest => readNumber? rest

def readItems? : (fuel : Nat) → List Char → Option (List Json × List Char)
  | 0, _ => none
  | fuel + 1, letters => do
      let (item, rest) ← readValue? fuel letters
      match skipSpace rest with
      | ',' :: rest => (readItems? fuel rest).map fun (items, rest) => (item :: items, rest)
      | ']' :: rest => return ([item], rest)
      | _ => none

def readMembers? : (fuel : Nat) → List Char → Option (List (Option String × Json) × List Char)
  | 0, _ => none
  | fuel + 1, letters =>
      match skipSpace letters with
      | '"' :: rest => do
          let (name?, rest) ← readString? rest
          match skipSpace rest with
          | ':' :: rest => do
              let (value, rest) ← readValue? fuel rest
              match skipSpace rest with
              | ',' :: rest =>
                  (readMembers? fuel rest).map fun (members, rest) =>
                    ((name?, value) :: members, rest)
              | '\x7d' :: rest => return ([(name?, value)], rest)
              | _ => none
          | _ => none
      | _ => none

end

def ofLetters? (letters : List Char) : Option Json :=
  match readValue? (letters.length + 1) letters with
  | some (value, rest) => if (skipSpace rest).isEmpty then some value else none
  | none => none

def ofText? (text : String) : Option Json := ofLetters? text.toList

end Json

end LoadChart
