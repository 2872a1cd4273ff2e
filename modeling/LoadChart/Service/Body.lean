import LoadChart.Json.Form
import LoadChart.Text.Letters

/-!
# Bodies of responses

A body is a row of bytes.  It holds a value of some form as it is, or in an envelope under the name
`data`.  The body of an error holds a message under one of three names, or is a short text itself.
-/

namespace LoadChart

namespace Body

def dataField : Json.Field := .needed "data"

def envelope (form : Form) : Form := .record "Envelope" [dataField] [form]

def enveloped? {α : Type} (read : Json → Option α) (value : Json) : Option α := do
  let record ← value.record? [dataField]
  record.required? "data" read

/-- The character in front of some bytes, and the number of its bytes, which is at most four. -/
def character? (bytes : List UInt8) : Option (Char × Nat) :=
  ((bytes.take 4).toByteArray.utf8DecodeChar? 0).map fun letter => (letter, letter.utf8Size)

/-- The letters of some bytes, of which `fuel` bounds the number.  A byte that belongs to no
character is replaced. -/
def lettersWithin : (fuel : Nat) → List UInt8 → List Char
  | 0, _ => []
  | _ + 1, [] => []
  | fuel + 1, byte :: rest =>
      match character? (byte :: rest) with
      | some (letter, length) => letter :: lettersWithin fuel ((byte :: rest).drop length)
      | none => '\ufffd' :: lettersWithin fuel rest

def textOfBytes (bytes : List UInt8) : String :=
  String.ofList (lettersWithin bytes.length bytes)

/-- Reads a body that holds a value of a form as it is, or else in an envelope.  Bytes that belong
to no character only stand in texts that are not used. -/
def read? {α : Type} (form : Form) (read : Json → Option α) (body : List UInt8) : Option α :=
  if form.accepts body then (Json.ofText? (textOfBytes body)).bind read
  else if (envelope form).accepts body then (Json.ofText? (textOfBytes body)).bind (enveloped? read)
  else none

def messageField : Json.Field := ⟨"message", ["detail", "error"], false⟩

def message? (body : String) : Option String := do
  let value ← Json.ofText? body
  let record ← value.record? [messageField]
  record.required? "message" Json.string?

/-- The greatest number of bytes of a text that is shown as it is. -/
def shortText : Nat := 200

/-- The message of an error body: the one it tells, or its own text if that is short, or the
fallback. -/
def errorMessage (body fallback : String) : String :=
  match message? body with
  | some message => message
  | none =>
      let text := trimText body
      if !text.isEmpty && text.utf8ByteSize ≤ shortText then text else fallback

end Body

end LoadChart
