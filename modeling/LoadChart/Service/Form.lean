import LoadChart.Calendar.Text
import LoadChart.Identifier
import LoadChart.Json.Form
import LoadChart.Service.Decoding
import LoadChart.Service.Request

/-!
# Forms of the data of the service

The forms that the bodies of responses should have.  They tell why a body could not be read, down to
why a text is read as no identifier, or as no day.
-/

namespace LoadChart

namespace Identifier

/-- The letters of a text without its wrapping, and whether there was none. -/
def unwrapped (letters : List Char) : List Char × Bool :=
  if letters.head? = some '\x7b' ∧ letters.getLast? = some '\x7d' ∧ 1 < letters.length then
    ((letters.drop 1).dropLast, false)
  else if hasResourceScheme letters then (letters.drop 9, false)
  else (letters, true)

def byteCount (letters : List Char) : Nat := (String.ofList letters).utf8ByteSize

def isPart (letter : Char) : Bool := letter = '-' || (hexValue? letter).isSome

/-- The groups of digits between hyphens, by their lengths. -/
def groupLengths : List Char → List Nat
  | [] => [0]
  | letter :: rest =>
      let lengths := groupLengths rest
      if letter = '-' then 0 :: lengths else (lengths.headD 0 + 1) :: lengths.drop 1

def longestForm : Nat := 45

/-- Why a text names no identifier. -/
inductive Refusal where
  | length (found : Nat)
  | letter (found : Char) (position : Nat)
  | groupCount (found : Nat)
  | groupLength (group wanted found : Nat)

namespace Refusal

def message : Refusal → String
  | .length found => "invalid length: found " ++ numberText found
  | .letter found position =>
      "invalid character: found `" ++ found.toString ++ "` at " ++ numberText position
  | .groupCount found => "invalid group count: expected 5, found " ++ numberText found
  | .groupLength group wanted found =>
      "invalid group length in group " ++ numberText group ++ ": expected " ++ numberText wanted
        ++ ", found " ++ numberText found

end Refusal

/-- The first of the groups before the last whose length is wrong; if there is none, the last,
which reaches to the end of a text of `size` bytes, its wrapping included. -/
def groupRefusal (lengths : List Nat) (size : Nat) : Refusal :=
  let groups := (lengths.zip [8, 4, 4, 4]).zipIdx
  match groups.find? fun ((length, wanted), _) => length ≠ wanted with
  | some ((length, wanted), group) => .groupLength group wanted length
  | none => .groupLength 4 12 (size - 24)

def refusalOf (text : String) : Refusal :=
  let size := text.utf8ByteSize
  if longestForm < size then .length size
  else
    let (letters, isBare) := unwrapped text.toList
    let parts := letters.takeWhile isPart
    match letters.drop parts.length with
    | letter :: _ => .letter letter (byteCount parts)
    | [] =>
        let lengths := groupLengths letters
        if lengths.length = 1 ∧ isBare ∧ size ≠ 36 then .length size
        else if lengths.length ≠ 5 then .groupCount lengths.length
        else groupRefusal lengths size

/-- Why a text names no identifier, if it names none. -/
def refusal? (text : String) : Option String :=
  match ofText? text with
  | some _ => none
  | none => some (refusalOf text).message

end Identifier

namespace Day

/-- Why a part of the text of a day is refused. -/
inductive Refusal where
  | tooShort
  | tooLong
  | wrongLetter
  | outOfRange

namespace Refusal

def message : Refusal → String
  | .tooShort => "premature end of input"
  | .tooLong => "trailing input"
  | .wrongLetter => "input contains invalid characters"
  | .outOfRange => "input is out of range"

end Refusal

def numberRefusal (letters : List Char) : Refusal :=
  if letters.isEmpty then .tooShort else .wrongLetter

def behindHyphen (letters : List Char) : Except Refusal (List Char) :=
  match trimBlankStart letters with
  | [] => throw .tooShort
  | letter :: rest => if letter = '-' then return rest else throw .wrongLetter

/-- The year that some letters begin with, which fits into 32 bits. -/
def yearOrRefusal (letters : List Char) : Except Refusal (Int × List Char) :=
  match readYear? letters with
  | some (year, rest) =>
      let limit : Int := powerOfTwo 31
      if -limit ≤ year ∧ year < limit then return (year, rest) else throw .outOfRange
  | none =>
      match trimBlankStart letters with
      | '-' :: rest | '+' :: rest => throw (numberRefusal rest)
      | rest => throw (numberRefusal rest)

def shortNumberOrRefusal (most : Nat) (letters : List Char) : Except Refusal (Nat × List Char) :=
  match readShortNumber? letters with
  | some (value, rest) =>
      if 1 ≤ value ∧ value ≤ most then return (value, rest) else throw .outOfRange
  | none => throw (numberRefusal (trimBlankStart letters))

/-- The day of a text, or why there is none. -/
def ofTextOrRefusal (text : String) : Except Refusal Day := do
  let (year, letters) ← yearOrRefusal text.toList
  let letters ← behindHyphen letters
  let (month, letters) ← shortNumberOrRefusal 12 letters
  let letters ← behindHyphen letters
  let (day, letters) ← shortNumberOrRefusal 31 letters
  if !(trimBlankStart letters).isEmpty then throw .tooLong
  match ofCivil? ⟨year, month, day⟩ with
  | some day => return day
  | none => throw .outOfRange

/-- Why a text names no day, if it names none. -/
def refusal? (text : String) : Option String :=
  match ofTextOrRefusal text with
  | .ok _ => none
  | .error refusal => some refusal.message

end Day

namespace Form

open Json

def identifier : Form :=
  .string "a formatted UUID string" fun text => (Identifier.refusal? text).map .identifier

def day : Form := .string "a formatted date string" fun text => (Day.refusal? text).map .day

def category : Form :=
  .word ["LABOR", "labor", "EQUIPMENT", "equipment", "MATERIAL", "material"]

def workCalendar : Form :=
  .record "WorkCalendar" calendarFields [.list natural32, .list day]

def resource : Form :=
  .record "Resource" resourceFields
    [identifier, text, text, category, .float, .list identifier, .optional workCalendar]

def activity : Form :=
  .record "ActivitySummary" activityFields
    [text, text, .flag, .optional day, .optional day, .optional .float]

def assignmentRecord : Form :=
  .record "AssignmentRecord" assignmentFields
    [identifier, identifier, identifier, .float, .optional day, .optional day, .optional activity]

def utilizationPoint : Form :=
  .record "UtilizationPoint" pointFields [day, .float, .float, .float, .flag]

def histogram : Form :=
  .record "ResourceHistogram" histogramFields
    [.list utilizationPoint, .float, .optional day, .float, natural32, .float, .float]

def shift : Form :=
  .record "ActivityShift" shiftFields
    [identifier, text, text, day, day, day, day, integer64, text]

def metrics : Form :=
  .record "LevelingMetrics" metricsFields [.float, natural32, integer64, natural32]

def levelingResult : Form :=
  .record "LevelingResult" resultFields
    [.flag, .list shift, natural32, natural32, .optional day, integer64, .float, .list text,
      .optional natural32, .optional metrics]

def levelingComparison : Form :=
  .record "AlgorithmComparison" comparisonFields [metrics, metrics, text]

def levelingOptions : Form :=
  .record "LevelingOptions" optionsFields [.flag, .flag, natural32, .optional (.list identifier)]

def resources : Form := .list resource

def assignments : Form := .list assignmentRecord

end Form

namespace Call

/-- The form that the body of a response should have, for a call that needs a body. -/
def form? : Call → Option Form
  | .listResources _ => some .resources
  | .listAssignments _ => some .assignments
  | .histogram _ _ _ => some .histogram
  | .leveling .apply _ _ _ => none
  | .leveling .compare _ _ _ => some .levelingComparison
  | .leveling _ _ _ _ => some .levelingResult
  | .deleteAssignment _ => none

def refusalText (call : Call) (body : String) : String :=
  (call.form?.bind fun form => form.faultText? body.toUTF8.toList).getD ""

end Call

end LoadChart
