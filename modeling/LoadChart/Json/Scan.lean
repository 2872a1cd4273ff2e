import LoadChart.Json.Fault
import LoadChart.Json.Number
import LoadChart.Json.Reader

/-!
# Scanning JSON texts

Steps that pass over the bytes of a JSON text one by one and stop at the first fault.  A step that
fails keeps what is left of the text where it stopped, so that a fault without a place can be
given the place that the surrounding part has reached.  All marks of the language are ASCII, so a
byte is looked at as the character of its number.
-/

namespace LoadChart

abbrev Scan (α : Type) : Type := EStateM Fault (List UInt8) α

namespace Scan

variable {α : Type}

def stop (flaw : Flaw) : Scan α := do throw ⟨flaw, some ⟨← get, false⟩⟩

def stopAtNext (flaw : Flaw) : Scan α := do throw ⟨flaw, some ⟨← get, true⟩⟩

def stopSomewhere (flaw : Flaw) : Scan α := throw ⟨flaw, none⟩

def placed (scan : Scan α) : Scan α := fun bytes =>
  match scan bytes with
  | .error ⟨flaw, none⟩ rest => .error ⟨flaw, some ⟨rest, false⟩⟩ rest
  | result => result

/-- Runs a step and, even if it fails, the one that closes it.  The first fault counts. -/
def closedBy (scan : Scan α) (close : Scan Unit) : Scan α := fun bytes =>
  match scan bytes with
  | .ok value rest =>
      match close rest with
      | .ok _ rest => .ok value rest
      | .error fault rest => .error fault rest
  | .error fault rest =>
      match close rest with
      | .ok _ rest | .error _ rest => .error fault rest

def markOf (byte : UInt8) : Char := Char.ofNat byte.toNat

def skip : Scan Unit := modify (·.drop 1)

/-- The next byte, which stays. -/
def peek : Scan (Option Char) := do return (← get).head?.map markOf

/-- The next byte that is no blank, which stays. -/
def peekMark : Scan (Option Char) := do
  modify (·.dropWhile (Json.isSpace ∘ markOf))
  peek

/-- The next byte that is no blank, which must be there. -/
def peekValue : Scan Char := do
  match ← peekMark with
  | some letter => return letter
  | none => stopAtNext (.unfinished .value)

def word : List Char → Scan Unit
  | [] => pure ()
  | letter :: rest => do
      match ← peek with
      | none => stop (.unfinished .value)
      | some found =>
          skip
          if found = letter then word rest else stop (.expected "ident")

/-- Passes over digits, and counts them. -/
def digits : Scan Nat := do
  let count := ((← get).takeWhile (isDigit ∘ markOf)).length
  modify (·.drop count)
  return count

/-- The flaw of a number that ends too early, which is told only of one that is used. -/
def unfinishedNumber (isUsed : Bool) : Flaw :=
  if isUsed then .unfinished .value else .invalidNumber

def wholePart (isUsed : Bool) : Scan Unit := do
  match ← peek with
  | none => stop (unfinishedNumber isUsed)
  | some '0' =>
      skip
      if (← peek).any isDigit then stopAtNext .invalidNumber
  | some letter =>
      if isDigit letter then discard digits
      else
        skip
        stop .invalidNumber

/-- Passes over the fraction of a number, if there is one. -/
def fractionPart (isUsed : Bool) : Scan Unit := do
  if (← peek) = some '.' then
    skip
    if (← digits) = 0 then
      if (← peek).isNone then stopAtNext (unfinishedNumber isUsed) else stopAtNext .invalidNumber

/-- Passes over the exponent of a number, if there is one. -/
def exponentPart (isUsed : Bool) : Scan Unit := do
  if (← peek).any fun letter => letter = 'e' ∨ letter = 'E' then
    skip
    if (← peek).any fun letter => letter = '+' ∨ letter = '-' then skip
    match ← peek with
    | none => stop (unfinishedNumber isUsed)
    | some letter =>
        if isDigit letter then discard digits
        else
          skip
          stop .invalidNumber

def numberText (isUsed : Bool) : Scan Unit := do
  if (← peek) = some '-' then skip
  wholePart isUsed
  fractionPart isUsed
  exponentPart isUsed

def isNumeric (letter : Char) : Bool := isDigit letter || ['-', '+', '.', 'e', 'E'].contains letter

def number : Scan Json := do
  let letters := ((← get).takeWhile (isNumeric ∘ markOf)).map markOf
  numberText true
  match Json.readNumber? letters with
  | some (.unreadable, _) | none => stop .numberOutOfRange
  | some (value, _) => return value

def escapedUnit : Scan Nat := do
  match ← get with
  | first :: second :: third :: fourth :: rest =>
      set rest
      match Json.unitValue? (markOf first) (markOf second) (markOf third) (markOf fourth) with
      | some value => return value
      | none => stop .invalidEscape
  | _ =>
      set ([] : List UInt8)
      stop (.unfinished .string)

/-- The next byte of a string, which must be there and stays. -/
def peekInString : Scan Char := do
  match ← peek with
  | some letter => return letter
  | none => stop (.unfinished .string)

/-- Passes over one letter that must follow within an escape. -/
def escapeLetter (letter : Char) : Scan Unit := do
  let found ← peekInString
  skip
  if found ≠ letter then stop .unfinishedEscape

/-- The character of an escape in units of sixteen bits, behind its first letter. -/
def escapedCharacter (isUsed : Bool) : Scan Char := do
  let leading ← escapedUnit
  if !isUsed then return default
  if leading < 0xD800 ∨ 0xDFFF < leading then return Char.ofNat leading
  if 0xDC00 ≤ leading then stop .loneSurrogate
  escapeLetter '\\'
  escapeLetter 'u'
  let trailing ← escapedUnit
  if trailing < 0xDC00 ∨ 0xDFFF < trailing then stop .loneSurrogate
  return Char.ofNat (0x10000 + (leading - 0xD800) * 0x400 + (trailing - 0xDC00))

/-- The bytes of the character of an escape, behind its backslash. -/
def escape (isUsed : Bool) : Scan (List UInt8) := do
  let letter ← peekInString
  skip
  if letter = 'u' then return String.utf8EncodeChar (← escapedCharacter isUsed)
  else
    match Json.escapedLetter? letter with
    | some value => return String.utf8EncodeChar value
    | none => stop .invalidEscape

/-- The bytes of a string up to its closing quote, of which `fuel` bounds the number.  In a
string that is not used, half of a surrogate pair may stand. -/
def stringBytes (isUsed : Bool) : (fuel : Nat) → Scan (List UInt8)
  | 0 => stop (.unfinished .string)
  | fuel + 1 => do
      match ← get with
      | [] => stop (.unfinished .string)
      | byte :: _ =>
          if byte < 0x20 then
            if isUsed then skip
            stop .controlCharacter
          skip
          if markOf byte = '"' then return []
          else if markOf byte = '\\' then
            let value ← escape isUsed
            return value ++ (← stringBytes isUsed fuel)
          else return byte :: (← stringBytes isUsed fuel)

/-- Passes over the string behind an opening quote, which is not used. -/
def unusedString : Scan Unit := do
  skip
  discard (stringBytes false ((← get).length + 1))

def string : Scan String := do
  skip
  let bytes ← stringBytes true ((← get).length + 1)
  match String.fromUTF8? (ByteArray.mk bytes.toArray) with
  | some text => return text
  | none => stop .brokenText

def listEnd : Scan Unit := do
  match ← peekMark with
  | some ']' => skip
  | some ',' =>
      skip
      if (← peekMark) = some ']' then stopAtNext .trailingComma
      else stopAtNext .trailingCharacters
  | some _ => stopAtNext .trailingCharacters
  | none => stopAtNext (.unfinished .list)

def objectEnd : Scan Unit := do
  match ← peekMark with
  | some '\x7d' => skip
  | some ',' => stopAtNext .trailingComma
  | some _ => stopAtNext .trailingCharacters
  | none => stopAtNext (.unfinished .object)

/-- Whether another item follows in a list; the comma in front of it is passed over. -/
def hasItem (isFirst : Bool) : Scan Bool := do
  match ← peekMark with
  | none => stopAtNext (.unfinished .list)
  | some ']' => return false
  | some mark =>
      if isFirst then return true
      else if mark = ',' then
        skip
        if (← peekValue) = ']' then stopAtNext .trailingComma else return true
      else stopAtNext (.expected "`,` or `]`")

/-- Whether another member follows in an object; the comma in front of it is passed over. -/
def hasMember (isFirst : Bool) : Scan Bool := do
  match ← peekMark with
  | none => stopAtNext (.unfinished .object)
  | some '\x7d' => return false
  | some mark =>
      if isFirst then
        if mark = '"' then return true else stopAtNext .unquotedName
      else if mark = ',' then
        skip
        match ← peekValue with
        | '"' => return true
        | '\x7d' => stopAtNext .trailingComma
        | _ => stopAtNext .unquotedName
      else stopAtNext (.expected "`,` or `\x7d`")

def colon : Scan Unit := do
  match ← peekMark with
  | some ':' => skip
  | some _ => stopAtNext (.expected "`:`")
  | none => stopAtNext (.unfinished .object)

mutual

/-- Passes over a value that is not used. -/
def unused : (fuel : Nat) → Scan Unit
  | 0 => stopSomewhere (.unfinished .value)
  | fuel + 1 => do
      match ← peekValue with
      | 'n' => word ['n', 'u', 'l', 'l']
      | 't' => word ['t', 'r', 'u', 'e']
      | 'f' => word ['f', 'a', 'l', 's', 'e']
      | '"' => unusedString
      | '[' =>
          skip
          match ← peekMark with
          | some ']' => skip
          | some _ => unusedItems fuel
          | none => stopAtNext (.unfinished .list)
      | '\x7b' =>
          skip
          match ← peekMark with
          | some '\x7d' => skip
          | some _ => unusedMembers fuel
          | none => stopAtNext (.unfinished .object)
      | letter =>
          if letter = '-' ∨ isDigit letter then numberText false
          else stopAtNext (.expected "value")

def unusedItems : (fuel : Nat) → Scan Unit
  | 0 => stopSomewhere (.unfinished .value)
  | fuel + 1 => do
      unused fuel
      match ← peekMark with
      | some ',' =>
          skip
          unusedItems fuel
      | some ']' => skip
      | some _ => stopAtNext (.expected "`,` or `]`")
      | none => stopAtNext (.unfinished .list)

def unusedMembers : (fuel : Nat) → Scan Unit
  | 0 => stopSomewhere (.unfinished .value)
  | fuel + 1 => do
      match ← peekMark with
      | some '"' => unusedString
      | some _ => stopAtNext .unquotedName
      | none => stopAtNext (.unfinished .object)
      colon
      unused fuel
      match ← peekMark with
      | some ',' =>
          skip
          unusedMembers fuel
      | some '\x7d' => skip
      | some _ => stopAtNext (.expected "`,` or `\x7d`")
      | none => stopAtNext (.unfinished .object)

end

def foundNumber : Scan FoundValue := do
  match ← number with
  | .integer value => return .integer value
  | .float value => return .float value
  | _ => stop .numberOutOfRange

/-- The value that comes next; of a list or an object only its begin is looked at. -/
def foundValue : Scan FoundValue := do
  match ← peek with
  | some 'n' =>
      word ['n', 'u', 'l', 'l']
      return .null
  | some 't' =>
      word ['t', 'r', 'u', 'e']
      return .flag true
  | some 'f' =>
      word ['f', 'a', 'l', 's', 'e']
      return .flag false
  | some '"' => return .string (← string)
  | some '[' => return .list
  | some '\x7b' => return .object
  | some letter =>
      if letter = '-' ∨ isDigit letter then foundNumber else stopAtNext (.expected "value")
  | none => stopAtNext (.expected "value")

/-- Stops at a value of a kind that is not wanted. -/
def otherKind (wanted : String) : Scan α := do
  let found ← foundValue
  stopSomewhere (.kind found wanted)

end Scan

end LoadChart
