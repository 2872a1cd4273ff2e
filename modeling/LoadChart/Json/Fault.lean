import LoadChart.Text.Decimal
import LoadChart.Text.Escape

/-!
# Faults of JSON texts

Why a text does not hold a value of an expected form, and where in the text that shows: the line,
counted from one, and the bytes of that line up to there.
-/

namespace LoadChart

/-- What a text ends within. -/
inductive Unfinished where
  | value
  | list
  | object
  | string

namespace Unfinished

def name : Unfinished → String
  | .value => "a value"
  | .list => "a list"
  | .object => "an object"
  | .string => "a string"

end Unfinished

/-- A value that was found where another was wanted. -/
inductive FoundValue where
  | null
  | flag (value : Bool)
  | integer (value : Int)
  | float (value : Float)
  | string (text : String)
  | list
  | object

namespace FoundValue

def name : FoundValue → String
  | .null => "null"
  | .flag value => "boolean `" ++ (if value then "true" else "false") ++ "`"
  | .integer value => "integer `" ++ integerText value ++ "`"
  | .float value => "floating point `" ++ (shortestText? value).getD "" ++ "`"
  | .string text => "string " ++ Quoted.ofText text
  | .list => "sequence"
  | .object => "map"

end FoundValue

/-- What is wrong with a text. -/
inductive Flaw where
  | unfinished (within : Unfinished)
  /-- A mark or a value was expected. -/
  | expected (what : String)
  | trailingComma
  | trailingCharacters
  | unquotedName
  | invalidNumber
  | numberOutOfRange
  | controlCharacter
  | invalidEscape
  | unfinishedEscape
  | loneSurrogate
  | brokenText
  /-- The value is of another kind. -/
  | kind (found : FoundValue) (wanted : String)
  /-- The value is of the right kind but not in its range. -/
  | range (found : FoundValue) (wanted : String)
  | missingField (name : String)
  | repeatedField (name : String)
  /-- An array of the fields of a record ends too early. -/
  | length (count : Nat) (wanted : String)
  | unknownWord (word : String) (words : List String)
  | identifier (reason : String)
  | day (reason : String)

namespace Flaw

def quoted (word : String) : String := "`" ++ word ++ "`"

def choice : List String → String
  | [] => "there are no variants"
  | [word] => "expected " ++ quoted word
  | [first, second] => "expected " ++ quoted first ++ " or " ++ quoted second
  | words => "expected one of " ++ ", ".intercalate (words.map quoted)

def message : Flaw → String
  | .unfinished within => "EOF while parsing " ++ within.name
  | .expected what => "expected " ++ what
  | .trailingComma => "trailing comma"
  | .trailingCharacters => "trailing characters"
  | .unquotedName => "key must be a string"
  | .invalidNumber => "invalid number"
  | .numberOutOfRange => "number out of range"
  | .controlCharacter => "control character (\\u0000-\\u001F) found while parsing a string"
  | .invalidEscape => "invalid escape"
  | .unfinishedEscape => "unexpected end of hex escape"
  | .loneSurrogate => "lone leading surrogate in hex escape"
  | .brokenText => "invalid unicode code point"
  | .kind found wanted => "invalid type: " ++ found.name ++ ", expected " ++ wanted
  | .range found wanted => "invalid value: " ++ found.name ++ ", expected " ++ wanted
  | .missingField name => "missing field " ++ quoted name
  | .repeatedField name => "duplicate field " ++ quoted name
  | .length count wanted => "invalid length " ++ numberText count ++ ", expected " ++ wanted
  | .unknownWord word words => "unknown variant " ++ quoted word ++ ", " ++ choice words
  | .identifier reason => "UUID parsing failed: " ++ reason
  | .day reason => reason

end Flaw

/-- A place in a text, as a line and the bytes before it on that line. -/
structure TextPlace where
  line : Nat
  column : Nat

namespace TextPlace

def advance (place : TextPlace) (byte : UInt8) : TextPlace :=
  if byte = 10 then ⟨place.line + 1, 0⟩ else ⟨place.line, place.column + 1⟩

def behind (bytes : List UInt8) : TextPlace := bytes.foldl advance ⟨1, 0⟩

end TextPlace

/-- A place in a text as what is left of it there.  A fault may lie with the next byte, which is
then counted. -/
structure Remainder where
  bytes : List UInt8
  isNext : Bool

namespace Remainder

def place (remainder : Remainder) (text : List UInt8) : TextPlace :=
  let passed := text.length - remainder.bytes.length
  TextPlace.behind (text.take (if remainder.isNext then passed + 1 else passed))

end Remainder

/-- A flaw, and where it shows, once that is settled. -/
structure Fault where
  flaw : Flaw
  place? : Option Remainder

namespace Fault

def message (fault : Fault) (text : List UInt8) : String :=
  match fault.place? with
  | none => fault.flaw.message
  | some remainder =>
      let place := remainder.place text
      fault.flaw.message ++ " at line " ++ numberText place.line ++ " column "
        ++ numberText place.column

end Fault

end LoadChart
