import LoadChart.Json.Record
import LoadChart.Json.Scan

/-!
# Forms of JSON texts

The form that a text should have, and the first fault of a text against it.
-/

namespace LoadChart

/-- What a text should hold. -/
inductive Form where
  | flag
  | float
  /-- A whole number between two limits, of a type with a name. -/
  | whole (low high : Int) (name : String)
  /-- A string that passes a test, which tells what is wrong. -/
  | string (wanted : String) (flaw? : String → Option Flaw)
  /-- One of some words. -/
  | word (words : List String)
  | list (item : Form)
  | optional (inner : Form)
  /-- A record with a name, its fields and the forms of these. -/
  | record (name : String) (fields : List Json.Field) (forms : List Form)

namespace Form

def text : Form := .string "a string" fun _ => none

def natural32 : Form := .whole 0 (powerOfTwo 32 - 1) "u32"

def integer64 : Form := .whole (-powerOfTwo 63) (powerOfTwo 63 - 1) "i64"

/-- Whether a record may be without a field of this form. -/
def isOptional : Form → Bool
  | .optional _ => true
  | _ => false

open Scan

def scanFlag : Scan Unit := do
  match ← peekValue with
  | 't' => Scan.word ['t', 'r', 'u', 'e']
  | 'f' => Scan.word ['f', 'a', 'l', 's', 'e']
  | _ => otherKind "a boolean"

def scanNumber (wanted : String) (flaw? : FoundValue → Option Flaw) : Scan Unit := do
  let letter ← peekValue
  if letter = '-' ∨ isDigit letter then
    match flaw? (← foundNumber) with
    | some flaw => stopSomewhere flaw
    | none => pure ()
  else otherKind wanted

def wholeFlaw? (low high : Int) (name : String) : FoundValue → Option Flaw
  | .integer value =>
      if low ≤ value ∧ value ≤ high then none else some (.range (.integer value) name)
  | found => some (.kind found name)

def scanString (wanted : String) (flaw? : String → Option Flaw) : Scan Unit := do
  match ← peekValue with
  | '"' =>
      match flaw? (← Scan.string) with
      | some flaw => stopSomewhere flaw
      | none => pure ()
  | _ => otherKind wanted

def scanName (words : List String) : Scan Unit :=
  placed <| scanString "variant identifier" fun word =>
    if words.contains word then none else some (.unknownWord word words)

def scanNull : Scan Unit := placed do
  match ← peekValue with
  | 'n' => Scan.word ['n', 'u', 'l', 'l']
  | _ => otherKind "unit"

/-- Passes over one of some words, or an object with one of them as the name of a null. -/
def scanWord (words : List String) : Scan Unit := do
  match ← peekValue with
  | '"' => scanName words
  | '\x7b' =>
      skip
      if (← peekMark).isNone then stopAtNext (.unfinished .object)
      scanName words
      colon
      scanNull
      match ← peekMark with
      | some '\x7d' => skip
      | some _ => stop (.expected "value")
      | none => stop (.unfinished .object)
  | _ => stopAtNext (.expected "value")

def recordName (name : String) : String := "struct " ++ name

/-- A record with a name and the number of its elements, as it is told to be wanted. -/
def elementsText (name : String) (count : Nat) : String :=
  recordName name ++ " with " ++ numberText count
    ++ (if count = 1 then " element" else " elements")

/-- The field of a record that a member is for, and its form. -/
def fieldFor? (fields : List Json.Field) (forms : List Form) (name : String) :
    Option (Json.Field × Form) :=
  (fields.zip forms).find? fun field => field.1.isNamed name

def lackingField? (fields : List Json.Field) (forms : List Form) (seen : List String) :
    Option Json.Field :=
  ((fields.zip forms).find? fun (field, form) =>
    !seen.contains field.name && !field.mayBeMissing && !form.isOptional).map Prod.fst

mutual

def scan : (fuel : Nat) → Form → Scan Unit
  | 0, _ => stopSomewhere (.unfinished .value)
  | _ + 1, .flag => placed scanFlag
  | _ + 1, .float => placed (scanNumber "f64" fun _ => none)
  | _ + 1, .whole low high name => placed (scanNumber name (wholeFlaw? low high name))
  | _ + 1, .string wanted flaw? => placed (scanString wanted flaw?)
  | _ + 1, .word words => scanWord words
  | fuel + 1, .list item => placed do
      match ← peekValue with
      | '[' =>
          skip
          closedBy (scanItems fuel item true) listEnd
      | _ => otherKind "a sequence"
  | fuel + 1, .optional inner => do
      match ← peekMark with
      | some 'n' => Scan.word ['n', 'u', 'l', 'l']
      | _ => scan fuel inner
  | fuel + 1, .record name fields forms => placed do
      match ← peekValue with
      | '[' =>
          skip
          closedBy (scanElements fuel (elementsText name fields.length) 0 (fields.zip forms))
            listEnd
      | '\x7b' =>
          skip
          closedBy (scanMembers fuel fields forms [] true) objectEnd
      | _ => otherKind (recordName name)

def scanItems : (fuel : Nat) → Form → (isFirst : Bool) → Scan Unit
  | 0, _, _ => stopSomewhere (.unfinished .value)
  | fuel + 1, item, isFirst => do
      if ← hasItem isFirst then
        scan fuel item
        scanItems fuel item false

def scanElements :
    (fuel : Nat) → (wanted : String) → (count : Nat) → List (Json.Field × Form) → Scan Unit
  | 0, _, _, _ => stopSomewhere (.unfinished .value)
  | _ + 1, _, _, [] => pure ()
  | fuel + 1, wanted, count, (field, form) :: rest => do
      if ← hasItem (count == 0) then
        scan fuel form
        scanElements fuel wanted (count + 1) rest
      else if field.mayBeMissing then scanElements fuel wanted (count + 1) rest
      else stopSomewhere (.length count wanted)

/-- Passes over the members of a record, of which the fields `seen` have come. -/
def scanMembers :
    (fuel : Nat) → List Json.Field → List Form → (seen : List String) → (isFirst : Bool) →
      Scan Unit
  | 0, _, _, _, _ => stopSomewhere (.unfinished .value)
  | fuel + 1, fields, forms, seen, isFirst => do
      if ← hasMember isFirst then
        let name ← Scan.string
        match fieldFor? fields forms name with
        | some (field, form) =>
            if seen.contains field.name then stopSomewhere (.repeatedField field.name)
            colon
            scan fuel form
            scanMembers fuel fields forms (field.name :: seen) false
        | none =>
            colon
            unused fuel
            scanMembers fuel fields forms seen false
      else
        match lackingField? fields forms seen with
        | some field => stopSomewhere (.missingField field.name)
        | none => pure ()

end

/-- Passes over a text of a form, blanks at its end included. -/
def scanText (form : Form) : Scan Unit := do
  scan (2 * (← get).length + 8) form
  if (← peekMark).isSome then stopAtNext .trailingCharacters

def accepts (form : Form) (bytes : List UInt8) : Bool :=
  match form.scanText bytes with
  | .ok _ _ => true
  | .error _ _ => false

/-- The text of the first fault of some bytes against a form. -/
def faultText? (form : Form) (bytes : List UInt8) : Option String :=
  match form.scanText bytes with
  | .ok _ _ => none
  | .error fault _ => some (fault.message bytes)

end Form

end LoadChart
