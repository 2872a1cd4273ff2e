import LoadChart.Text.Decimal

/-!
# JSON values

A value as a text holds it: members of an object keep their order and may repeat.  Integers and
other numbers are told apart, since a field of whole numbers refuses a fraction or an exponent.  The
compact form has no blanks; the indented form puts each item and member on a line of its own, two
blanks further in for each level.
-/

namespace LoadChart

/-- A JSON value.  An `unreadable` one is well formed but stands for nothing, such as a number
beyond the floats or a string with half of a surrogate pair: it may be passed over but not
used. -/
inductive Json where
  | null
  | bool (value : Bool)
  | integer (value : Int)
  | float (value : Float)
  | string (value : String)
  | array (items : List Json)
  | object (members : List (String × Json))
  | unreadable

namespace Json

def ofPresent (members : List (String × Option Json)) : Json :=
  .object (members.filterMap fun (name, value?) => value?.map (name, ·))

/-- The value of a member; of several of one name, the last. -/
def member? (value : Json) (name : String) : Option Json :=
  match value with
  | .object members => (members.reverse.find? fun entry => entry.1 == name).map Prod.snd
  | _ => none

end Json

namespace Json

/-- The written form of one character of a string: quotes, backslashes and control characters
are escaped, all others stand for themselves. -/
def escapeLetter (letter : Char) : List Char :=
  match letter with
  | '"' => ['\\', '"']
  | '\\' => ['\\', '\\']
  | '\x08' => ['\\', 'b']
  | '\x0c' => ['\\', 'f']
  | '\n' => ['\\', 'n']
  | '\r' => ['\\', 'r']
  | '\t' => ['\\', 't']
  | letter =>
      if letter.toNat < 0x20 then '\\' :: 'u' :: hexDigits 4 letter.toNat else [letter]

def escape (letters : List Char) : List Char := letters.flatMap escapeLetter

def writeString (text : String) : List Char := '"' :: escape text.toList ++ ['"']

def writeLeaf : Json → List Char
  | .bool true => "true".toList
  | .bool false => "false".toList
  | .integer value => (integerText value).toList
  | .float value => ((shortestText? value).getD "null").toList
  | .string text => writeString text
  | _ => "null".toList

mutual

def writeCompact : Json → List Char
  | .array items => '[' :: writeCompactItems items ++ [']']
  | .object members => '\x7b' :: writeCompactMembers members ++ ['\x7d']
  | value => writeLeaf value

/-- The items of an array, with commas between. -/
def writeCompactItems : List Json → List Char
  | [] => []
  | [item] => writeCompact item
  | item :: next :: rest => writeCompact item ++ ',' :: writeCompactItems (next :: rest)

/-- The members of an object, with commas between. -/
def writeCompactMembers : List (String × Json) → List Char
  | [] => []
  | [(name, value)] => writeString name ++ ':' :: writeCompact value
  | (name, value) :: next :: rest =>
      writeString name ++ ':' :: writeCompact value ++ ',' :: writeCompactMembers (next :: rest)

end

def newLine (level : Nat) : List Char := '\n' :: List.replicate (2 * level) ' '

mutual

def writeIndented (level : Nat) : Json → List Char
  | .array [] => ['[', ']']
  | .array (item :: rest) =>
      '[' :: writeIndentedItems (level + 1) (item :: rest) ++ newLine level ++ [']']
  | .object [] => ['\x7b', '\x7d']
  | .object (member :: rest) =>
      '\x7b' :: writeIndentedMembers (level + 1) (member :: rest) ++ newLine level ++ ['\x7d']
  | value => writeLeaf value

/-- The items of an array, each on a line of its own. -/
def writeIndentedItems (level : Nat) : List Json → List Char
  | [] => []
  | [item] => newLine level ++ writeIndented level item
  | item :: next :: rest =>
      newLine level ++ writeIndented level item ++ ',' :: writeIndentedItems level (next :: rest)

/-- The members of an object, each on a line of its own. -/
def writeIndentedMembers (level : Nat) : List (String × Json) → List Char
  | [] => []
  | [(name, value)] => newLine level ++ writeString name ++ ':' :: ' ' :: writeIndented level value
  | (name, value) :: next :: rest =>
      newLine level ++ writeString name ++ ':' :: ' ' :: writeIndented level value
        ++ ',' :: writeIndentedMembers level (next :: rest)

end

def compactText (value : Json) : String := String.ofList (writeCompact value)

def indentedText (value : Json) : String := String.ofList (writeIndented 0 value)

end Json

end LoadChart
