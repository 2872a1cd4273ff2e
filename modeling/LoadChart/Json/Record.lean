import LoadChart.Collection.OrderedSet
import LoadChart.Json.Reader

/-!
# Records in JSON

A record is an object with its fields as members, or an array of them in their order.  Members
of other names are passed over; two members for one field are refused.
-/

namespace LoadChart

namespace Json

/-- One field of a record. -/
structure Field where
  name : String
  /-- Other names for it in an object. -/
  aliases : List String
  /-- Whether an array may end before it. -/
  mayBeMissing : Bool

namespace Field

/-- A field that an array must hold. -/
def needed (name : String) : Field := ⟨name, [], false⟩

def spare (name : String) : Field := ⟨name, [], true⟩

def isNamed (field : Field) (name : String) : Bool :=
  field.name == name || field.aliases.contains name

end Field

/-- The fields of a record that are present. -/
structure Record where
  values : List (String × Json)

def membersFor (members : List (String × Json)) (field : Field) : List (String × Json) :=
  members.filter fun member => field.isNamed member.1

def record? (fields : List Field) : Json → Option Record
  | .object members =>
      if fields.all fun field => (membersFor members field).length ≤ 1 then
        some ⟨fields.filterMap fun field =>
          (membersFor members field).head?.map fun member => (field.name, member.2)⟩
      else none
  | .array items =>
      if items.length ≤ fields.length && (fields.drop items.length).all (·.mayBeMissing) then
        some ⟨(fields.map (·.name)).zip items⟩
      else none
  | _ => none

namespace Record

/-- The value of a field, if it is present. -/
def find? (record : Record) (name : String) : Option Json :=
  (record.values.find? fun entry => entry.1 == name).map Prod.snd

variable {α : Type}

/-- A field that must be present. -/
def required? (record : Record) (name : String) (read : Json → Option α) : Option α :=
  (record.find? name).bind read

def defaulted? (record : Record) (name : String) (standard : α) (read : Json → Option α) :
    Option α :=
  match record.find? name with
  | none => some standard
  | some value => read value

/-- A field that may be missing or null. -/
def optional? (record : Record) (name : String) (read : Json → Option α) : Option (Option α) :=
  match record.find? name with
  | none | some .null => some none
  | some value => (read value).map some

end Record

def bool? : Json → Option Bool
  | .bool value => some value
  | _ => none

def string? : Json → Option String
  | .string value => some value
  | _ => none

def integer? (low high : Int) : Json → Option Int
  | .integer value => if low ≤ value ∧ value ≤ high then some value else none
  | _ => none

def natural32? (value : Json) : Option Nat := (integer? 0 (powerOfTwo 32 - 1) value).map Int.toNat

def natural64? (value : Json) : Option Nat := (integer? 0 (powerOfTwo 64 - 1) value).map Int.toNat

def integer64? (value : Json) : Option Int := integer? (-powerOfTwo 63) (powerOfTwo 63 - 1) value

/-- The float nearest to a whole number. -/
def floatOfInteger (value : Int) : Float :=
  if value < 0 then -Float.ofNat value.natAbs else Float.ofNat value.natAbs

/-- A number, whole or not. -/
def float? : Json → Option Float
  | .integer value => some (floatOfInteger value)
  | .float value => some value
  | _ => none

def list? {α : Type} (read : Json → Option α) : Json → Option (List α)
  | .array items => items.mapM read
  | _ => none

/-- An array whose items all read, without repeats. -/
def set? {α : Type} [Ranked α] (read : Json → Option α) (value : Json) : Option (OrderedSet α) :=
  (list? read value).map OrderedSet.ofList

/-- The word of an enumeration: a string, or an object with one member of that name that is
null. -/
def word? : Json → Option String
  | .string word => some word
  | .object [(word, .null)] => some word
  | _ => none

end Json

end LoadChart
