import LoadChart.Logging.Pattern
import LoadChart.Text.Decimal
import LoadChart.Text.Digits
import LoadChart.Text.Letters

/-!
# Log filters

A filter is a list of directives without repeats, the most specific first.  A directive sets how
much is logged of the sources under a target, inside a span, or with a field, and may ask for a
value of the field: a truth value, a number, or a text that matches a pattern.  Each of the three
may be missing, and so may the level, which is a word or a number.  The marks of a directive are
looked for in its text without the blanks around it, but its parts are cut from the whole text at
the places, in bytes, where the marks were found.
-/

namespace LoadChart

/-- How much is logged. -/
inductive LogLevel where
  | off
  | error
  | warn
  | info
  | debug
  | trace
deriving DecidableEq

namespace LogLevel

/-- All levels, the quietest first. -/
def all : List LogLevel := [.off, .error, .warn, .info, .debug, .trace]

def word : LogLevel → String
  | .off => "off"
  | .error => "error"
  | .warn => "warn"
  | .info => "info"
  | .debug => "debug"
  | .trace => "trace"

/-- The place of a level in the list of all, written as a number. -/
def ofNumber? (letters : List Char) : Option LogLevel :=
  let digits := if letters.head? = some '+' then letters.drop 1 else letters
  if digits.isEmpty || !digits.all isDigit then none else all[numberOfDigits digits]?

/-- Reads a level by its word, in any case, or by its number. -/
def ofLetters? (letters : List Char) : Option LogLevel :=
  (ofNumber? letters).or
    (all.find? fun level => level.word.toList = letters.map Char.toLower)

end LogLevel

/-- Compares first by one order, then by another. -/
def thenCompare (first second : Ordering) : Ordering :=
  match first with
  | .eq => second
  | order => order

/-- Compares what may be missing; a missing one is first. -/
def compareOptional {α : Type} (order : α → α → Ordering) (left right : Option α) : Ordering :=
  match left, right with
  | none, none => .eq
  | none, some _ => .lt
  | some _, none => .gt
  | some left, some right => order left right

/-- The value that a field is tested for. -/
inductive FieldValue where
  | flag (value : Bool)
  | float (value : Float)
  /-- A float that is no number. -/
  | noNumber
  | natural (value : Nat)
  | negative (value : Int)
  | pattern (text : String)

namespace FieldValue

def digits? (limit : Nat) (letters : List Char) : Option Nat :=
  if letters.isEmpty || !letters.all isDigit then none
  else
    let value := numberOfDigits letters
    if value < limit then some value else none

/-- Reads a whole number of 64 bits; one with a minus keeps a sign. -/
def whole? : List Char → Option FieldValue
  | '-' :: rest => (digits? (powerOfTwo 63 + 1) rest).map fun value => .negative (-(value : Int))
  | '+' :: rest => (digits? (powerOfTwo 64) rest).map .natural
  | letters => (digits? (powerOfTwo 64) letters).map .natural

def float? (letters : List Char) : Option FieldValue :=
  (readFloat? letters).map fun value => if value.isNaN then .noNumber else .float value

/-- Reads a value, as the first of its kinds that fits. -/
def ofLetters? (letters : List Char) : Option FieldValue :=
  if letters = "true".toList then some (.flag true)
  else if letters = "false".toList then some (.flag false)
  else
    ((whole? letters).or (float? letters)).or
      (if isLogPattern letters then some (.pattern (String.ofList letters)) else none)

def text : FieldValue → String
  | .flag value => if value then "true" else "false"
  | .float value => plainFloatText value
  | .noNumber => "NaN"
  | .natural value => numberText value
  | .negative value => integerText value
  | .pattern text => text

def rank : FieldValue → Nat
  | .flag _ => 0
  | .float _ => 1
  | .noNumber => 2
  | .natural _ => 3
  | .negative _ => 4
  | .pattern _ => 5

/-- Compares floats that are numbers; the two zeros are equal. -/
def compareFloats (left right : Float) : Ordering :=
  if left < right then .lt else if left == right then .eq else .gt

/-- Compares values by their kinds, and values of one kind by what they are. -/
def order : FieldValue → FieldValue → Ordering
  | .flag left, .flag right => compare left.toNat right.toNat
  | .float left, .float right => compareFloats left right
  | .natural left, .natural right => compare left right
  | .negative left, .negative right => compare left right
  | .pattern left, .pattern right => compare left right
  | left, right => compare left.rank right.rank

end FieldValue

/-- A test of a field by its name, and perhaps of its value. -/
structure FieldTest where
  name : String
  value : Option FieldValue

namespace FieldTest

/-- Reads a test: a name, and behind an equals sign a value, which ends at the next one.  An empty
test or a value that is not well formed is refused. -/
def ofLetters? (letters : List Char) : Option FieldTest :=
  if letters.isEmpty then none
  else
    let name := letters.takeWhile (· ≠ '=')
    let rest := letters.drop name.length
    if rest.isEmpty then some ⟨String.ofList name, none⟩
    else
      (FieldValue.ofLetters? ((rest.drop 1).takeWhile (· ≠ '='))).map fun value =>
        ⟨String.ofList name, some value⟩

def text (test : FieldTest) : String :=
  match test.value with
  | none => test.name
  | some value => test.name ++ "=" ++ value.text

/-- Compares tests: those of a value are greater, then the name decides, then the value. -/
def order (left right : FieldTest) : Ordering :=
  thenCompare (compare left.value.isSome.toNat right.value.isSome.toNat)
    (thenCompare (compare left.name right.name)
      (compareOptional FieldValue.order left.value right.value))

end FieldTest

/-- One part of a log filter. -/
structure LogDirective where
  target : Option String
  span : Option String
  field : Option FieldTest
  level : LogLevel

/-- Why a text is no directive. -/
inductive LogDefect where
  | malformed
  /-- Blanks in front move the end of a part into a character. -/
  | cutCharacter

namespace LogDirective

/-- Where the reading of a directive has got to, with the byte where the part under way begins. -/
inductive Reading where
  | start
  | levelOrTarget (first : Nat)
  | span (first : Nat)
  | field (first : Nat)
  | fieldEnd
  | spanEnd
  | level (first : Nat)

def dropBytes : Nat → List Char → Except LogDefect (List Char)
  | 0, letters => .ok letters
  | _, [] => .ok []
  | bytes, letter :: rest =>
      if letter.utf8Size ≤ bytes then dropBytes (bytes - letter.utf8Size) rest
      else .error .cutCharacter

def takeBytes : Nat → List Char → Except LogDefect (List Char)
  | 0, _ => .ok []
  | _, [] => .ok []
  | bytes, letter :: rest =>
      if letter.utf8Size ≤ bytes then (takeBytes (bytes - letter.utf8Size) rest).map (letter :: ·)
      else .error .cutCharacter

def cut (text : List Char) (first behind : Nat) : Except LogDefect (List Char) := do
  takeBytes (behind - first) (← dropBytes first text)

/-- A letter with which a target or a level may begin. -/
def mayBegin (letter : Char) : Bool :=
  letter == '-' || letter == ':' || letter == '_' || isAlphanumeric letter

/-- A value that must be there for the directive to be well formed. -/
def wellFormed {α : Type} (value : Option α) : Except LogDefect α :=
  match value with
  | some value => .ok value
  | none => .error .malformed

/-- Reads one more letter, at a byte, of the directive that is cut from a text. -/
def step (text : List Char) (directive : LogDirective) (reading : Reading) (byte : Nat)
    (letter : Char) : Except LogDefect (LogDirective × Reading) := do
  let behind := byte + 1
  match reading with
  | .start =>
      if letter = '[' then return (directive, .span behind)
      else if mayBegin letter then return (directive, .levelOrTarget byte)
      else throw .malformed
  | .levelOrTarget first =>
      if letter = '=' ∨ letter = '[' then
        let target := String.ofList (← cut text first byte)
        return ({ directive with target },
          if letter = '=' then .level behind else .span behind)
      else return (directive, reading)
  | .span first =>
      if letter = ']' then
        return ({ directive with span := String.ofList (← cut text first byte) }, .spanEnd)
      else if letter = '\x7b' then
        let span ← cut text first byte
        return ({ directive with span := if span.isEmpty then none else String.ofList span },
          .field behind)
      else return (directive, reading)
  | .field first =>
      if letter = '\x7d' then
        let field ← wellFormed (FieldTest.ofLetters? (← cut text first byte))
        return ({ directive with field }, .fieldEnd)
      else return (directive, reading)
  | .fieldEnd => if letter = ']' then return (directive, .spanEnd) else throw .malformed
  | .spanEnd => if letter = '=' then return (directive, .level behind) else throw .malformed
  | .level _ => return (directive, reading)

/-- Reads letters one by one, from a byte on. -/
def read (text : List Char) (directive : LogDirective) (reading : Reading) (byte : Nat) :
    List Char → Except LogDefect (LogDirective × Reading)
  | [] => .ok (directive, reading)
  | letter :: rest => do
      let (directive, reading) ← step text directive reading byte letter
      read text directive reading (byte + letter.utf8Size) rest

def finish (text : List Char) (directive : LogDirective) :
    Reading → Except LogDefect LogDirective
  | .levelOrTarget first => do
      let word ← dropBytes first text
      match LogLevel.ofLetters? word with
      | some level => return { directive with level }
      | none => return { directive with target := String.ofList word }
  | .level first => do
      let word ← dropBytes first text
      if word.isEmpty then return directive
      else return { directive with level := ← wellFormed (LogLevel.ofLetters? word) }
  | .spanEnd => .ok directive
  | _ => .error .malformed

def ofLetters (text : List Char) : Except LogDefect LogDirective := do
  let (directive, reading) ← read text ⟨none, none, none, .trace⟩ .start 0 (trimBlanks text)
  finish text directive reading

def isDynamic (directive : LogDirective) : Bool :=
  directive.span.isSome || directive.field.isSome

/-- Whether a directive can be decided without a span and without the value of a field. -/
def isStatic (directive : LogDirective) : Bool :=
  directive.span.isNone && directive.field.all fun field => field.value.isNone

/-- The text of a directive: the level stands alone if it is for everything. -/
def text (directive : LogDirective) : String :=
  let field := directive.field.elim "" fun field => "\x7b" ++ field.text ++ "\x7d"
  let place :=
    if directive.isDynamic then "[" ++ directive.span.getD "" ++ field ++ "]" else ""
  let scope := directive.target.getD "" ++ place
  if directive.target.isNone && !directive.isDynamic then directive.level.word
  else scope ++ "=" ++ directive.level.word

/-- Compares directives by how specific they are: by the length of the target, then a span and a
field count, then the target, the span and the field themselves decide. -/
def order (left right : LogDirective) : Ordering :=
  let bytes := fun (directive : LogDirective) => directive.target.map String.utf8ByteSize
  let marks := [compareOptional compare (bytes left) (bytes right),
    compare left.span.isSome.toNat right.span.isSome.toNat,
    compare left.field.isSome.toNat right.field.isSome.toNat,
    compareOptional compare left.target right.target,
    compareOptional compare left.span right.span,
    compareOptional FieldTest.order left.field right.field]
  marks.foldr thenCompare .eq

end LogDirective

namespace LogFilter

/-- Puts a directive in its place, before all that are less specific.  It replaces one for the
same sources. -/
def insert (directive : LogDirective) : List LogDirective → List LogDirective
  | [] => [directive]
  | head :: tail =>
      match directive.order head with
      | .gt => directive :: head :: tail
      | .eq => directive :: tail
      | .lt => head :: insert directive tail

/-- The directives without repeats, the most specific first. -/
def arrange (directives : List LogDirective) : List LogDirective :=
  directives.foldl (fun arranged directive => insert directive arranged) []

/-- Reads the directives of a filter, of which none may have a defect. -/
def read (text : String) : Except LogDefect (List LogDirective) :=
  ((partsBetween ',' text.toList).filter fun part => !part.isEmpty).mapM LogDirective.ofLetters

/-- The text of a filter with these directives: those for all sources of a target, or for the
sources with a field, before those for spans and fields. -/
def textOf (directives : List LogDirective) : String :=
  let dynamic := directives.filter (·.isDynamic)
  let plain := directives.filter fun directive => !directive.isDynamic
  let static := arrange (plain ++ dynamic.filter (·.isStatic))
  ",".intercalate ((static ++ arrange dynamic).map LogDirective.text)

def standard : String := "info"

/-- The filter that a text asks for, unless a part of it would be cut within a character. -/
def ofText? (text : String) : Option String :=
  match read text with
  | .ok directives => some (textOf directives)
  | .error .malformed => some standard
  | .error .cutCharacter => none

end LogFilter

end LoadChart
