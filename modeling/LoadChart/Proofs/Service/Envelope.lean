import LoadChart.Proofs.Json.FormExtension
import LoadChart.Proofs.Json.FormUnused
import LoadChart.Proofs.Json.ReaderExtension
import LoadChart.Proofs.Service.Letters
import LoadChart.Service.Form

/-!
# Values in envelopes

A body in an envelope is read as the body itself where the form of its value does not take the
envelope for a value.  A record without a field that it lacks does, and passes over what is in the
envelope.
-/

namespace LoadChart

namespace Scan

theorem stringBytes_plain {name : List UInt8} (plain : ∀ byte ∈ name, IsPlain byte) {fuel : Nat}
    (enough : name.length < fuel) (rest : List UInt8) :
    stringBytes true fuel (name ++ 34 :: rest) = .ok name rest := by
  induction name generalizing fuel with
  | nil =>
      obtain ⟨fuel, rfl⟩ : ∃ less, fuel = less + 1 := ⟨fuel - 1, by omega⟩
      exact stringBytes_of_quote (by decide) rfl
  | cons byte name induction =>
      rw [List.length_cons] at enough
      obtain ⟨fuel, rfl⟩ : ∃ less, fuel = less + 1 := ⟨fuel - 1, by omega⟩
      obtain ⟨⟨printable, noQuote, noEscape⟩, others⟩ := List.forall_mem_cons.1 plain
      exact stringBytes_of_letter printable noQuote noEscape (induction others (by omega))

theorem string_encode (letters : List Char) (plain : ∀ byte ∈ Body.encode letters, IsPlain byte)
    (rest : List UInt8) :
    string (34 :: (Body.encode letters ++ 34 :: rest)) = .ok (String.ofList letters) rest := by
  have enough : (Body.encode letters).length < (Body.encode letters ++ 34 :: rest).length + 1 := by
    rw [List.length_append]
    omega
  rw [string_cons, bind_of_ok (stringBytes_plain plain enough rest), textOf, Body.fromUTF8?_encode]
  rfl

end Scan

namespace Form

open Scan

/-- A text has a form if its value has it and only blanks follow. -/
theorem accepts_iff {form : Form} {bytes : List UInt8} :
    form.accepts bytes = true ↔
      ∃ rest, scan (2 * bytes.length + 8) form bytes = .ok () rest ∧
        rest.dropWhile (Json.isSpace ∘ markOf) = [] := by
  let ending : Scan Unit := do
    if (← peekMark).isSome then stopAtNext .trailingCharacters
  have ended : ∀ rest, (∃ final, ending rest = .ok () final) ↔
      rest.dropWhile (Json.isSpace ∘ markOf) = [] := by
    intro rest
    simp only [ending]
    rw [peekMark_bind_eq]
    cases trimmed : rest.dropWhile (Json.isSpace ∘ markOf) with
    | nil => exact ⟨fun _ => rfl, fun _ => ⟨[], rfl⟩⟩
    | cons byte left =>
        constructor
        · rintro ⟨_, ⟨⟩⟩
        · rintro ⟨⟩
  have unfolded : form.scanText bytes =
      (scan (2 * bytes.length + 8) form >>= fun _ => ending) bytes := rfl
  unfold accepts
  rw [unfolded]
  constructor
  · intro accepted
    split at accepted
    next passed =>
      obtain ⟨_, rest, scanned, ending⟩ := bind_eq_ok.1 passed
      exact ⟨rest, scanned, (ended rest).1 ⟨_, ending⟩⟩
    · cases accepted
  · rintro ⟨rest, scanned, blank⟩
    obtain ⟨final, ending⟩ := (ended rest).2 blank
    rw [bind_eq_ok.2 ⟨(), rest, scanned, ending⟩]

theorem scan_record_eq_ok {name : String} {fields : List Json.Field} {forms : List Form}
    {fuel : Nat} {bytes rest : List UInt8} :
    scan (fuel + 1) (.record name fields forms) (123 :: bytes) = .ok () rest ↔
      ∃ left, scanMembers fuel fields forms [] true bytes = .ok () left ∧
        objectEnd left = .ok () rest := by
  rw [scan, placed_eq_ok, peekValue_bind_of_mark rfl rfl, ← closedBy_eq_ok]
  rfl

def scanData (fields : List Json.Field) (forms : List Form) (fuel : Nat) : Scan Unit :=
  match fieldFor? fields forms "data" with
  | some (_, form) => scan fuel form
  | none => unused fuel

def dataSeen (fields : List Json.Field) (forms : List Form) : List String :=
  ((fieldFor? fields forms "data").map fun (field, _) => field.name).toList

theorem scanData_blank {byte : UInt8} (blank : Json.isSpace (markOf byte) = true)
    (fields : List Json.Field) (forms : List Form) (fuel : Nat) (bytes : List UInt8) :
    scanData fields forms (fuel + 1) (byte :: bytes) = scanData fields forms (fuel + 1) bytes := by
  unfold scanData
  cases fieldFor? fields forms "data" with
  | none => exact unused_blank blank fuel bytes
  | some found => exact scan_blank blank fuel found.2 bytes

theorem scanMembers_data (fields : List Json.Field) (forms : List Form) (fuel : Nat)
    (bytes : List UInt8) :
    scanMembers (fuel + 1) fields forms [] true
        (34 :: 100 :: 97 :: 116 :: 97 :: 34 :: 58 :: bytes) =
      (scanData fields forms fuel >>= fun _ =>
        scanMembers fuel fields forms (dataSeen fields forms) false) bytes := by
  have name : Scan.string (34 :: 100 :: 97 :: 116 :: 97 :: 34 :: 58 :: bytes) =
      .ok "data" (58 :: bytes) :=
    string_encode ['d', 'a', 't', 'a'] (by decide +kernel) (58 :: bytes)
  have member : scanMembers (fuel + 1) fields forms [] true
        (34 :: 100 :: 97 :: 116 :: 97 :: 34 :: 58 :: bytes) =
      (Scan.string >>= scanMember fuel fields forms [])
        (34 :: 100 :: 97 :: 116 :: 97 :: 34 :: 58 :: bytes) := by
    rw [scanMembers_succ]
    rfl
  have colonPassed : Scan.colon (58 :: bytes) = .ok () bytes := rfl
  rw [member, bind_of_ok name]
  unfold scanMember scanData dataSeen
  cases fieldFor? fields forms "data" with
  | none => exact bind_of_ok colonPassed _
  | some found => exact bind_of_ok colonPassed _

/-- Behind blanks only the brace ends the members of a record that lacks none. -/
theorem scanMembers_brace {fields : List Json.Field} {forms : List Form} {seen : List String}
    {left : List UInt8} (blank : left.dropWhile (Json.isSpace ∘ markOf) = []) (fuel : Nat) :
    scanMembers (fuel + 1) fields forms seen false (left ++ [125]) =
      unlacking fields forms seen [125] := by
  have trimmed : (left ++ [125]).dropWhile (Json.isSpace ∘ markOf) = [125] := by
    rw [dropWhile_append_cons rfl, blank]
    rfl
  rw [scanMembers_succ, hasMember, bind_assoc, peekMark_bind_eq, trimmed]
  rfl

end Form

namespace Body

def envelopeBegin : List Char := ['\x7b', '"', 'd', 'a', 't', 'a', '"', ':', ' ']

def inEnvelope (body : List UInt8) : List UInt8 := encode envelopeBegin ++ body ++ [125]

theorem inEnvelope_eq (body : List UInt8) :
    inEnvelope body =
      123 :: 34 :: 100 :: 97 :: 116 :: 97 :: 34 :: 58 :: 32 :: (body ++ [125]) := rfl

theorem length_inEnvelope (body : List UInt8) : (inEnvelope body).length = body.length + 10 := by
  simp [inEnvelope_eq]

end Body

namespace Form

open Scan

variable {name : String} {fields : List Json.Field} {forms : List Form} {form : Form}
  {body left : List UInt8}

/-- A record takes a body in an envelope if it passes over the body and lacks no field then. -/
theorem record_accepts_iff
    (passed : scanData fields forms (2 * body.length + 26) (body ++ [125]) =
      .ok () (left ++ [125]))
    (blank : left.dropWhile (Json.isSpace ∘ markOf) = []) :
    (Form.record name fields forms).accepts (Body.inEnvelope body) = true ↔
      lackingField? fields forms (dataSeen fields forms) = none := by
  have fuel : 2 * (Body.inEnvelope body).length + 8 = 2 * body.length + 27 + 1 := by
    rw [Body.length_inEnvelope]
    omega
  have spaced : scanData fields forms (2 * body.length + 26) (32 :: (body ++ [125])) =
      .ok () (left ++ [125]) := (scanData_blank rfl fields forms _ _).trans passed
  rw [accepts_iff, fuel, Body.inEnvelope_eq]
  simp only [scan_record_eq_ok, scanMembers_data, bind_of_ok spaced, scanMembers_brace blank,
    unlacking]
  cases lackingField? fields forms (dataSeen fields forms) with
  | none => exact ⟨fun _ => rfl, fun _ => ⟨[], ⟨[125], rfl, rfl⟩, rfl⟩⟩
  | some field =>
      constructor
      · rintro ⟨rest, ⟨final, ⟨⟩, _⟩, _⟩
      · rintro ⟨⟩

theorem scan_in_envelope (accepted : form.accepts body = true) :
    ∃ left, left.dropWhile (Json.isSpace ∘ markOf) = [] ∧
      scan (2 * body.length + 26) form (body ++ [125]) = .ok () (left ++ [125]) ∧
      unused (2 * body.length + 26) (body ++ [125]) = .ok () (left ++ [125]) := by
  obtain ⟨left, passed, blank⟩ := accepts_iff.1 accepted
  have longer : Extends [125] (scan (2 * body.length + 8) form)
      (scan (2 * body.length + 26) form) body := (ScanExtends.of_le (by omega)).value form body
  have skipped : ∃ value, unused (2 * body.length + 8 + 3) body = .ok value left :=
    (ScanUnused.all (2 * body.length + 8)).value form body () left passed
  have longerUnused : Extends [125] (unused (2 * body.length + 8 + 3))
      (unused (2 * body.length + 26)) body := (UnusedExtends.of_le (by omega)).value body
  obtain ⟨_, skipped⟩ := skipped
  exact ⟨left, blank, longer () left passed, longerUnused () left skipped⟩

theorem envelope_accepts (accepted : form.accepts body = true) :
    (Body.envelope form).accepts (Body.inEnvelope body) = true := by
  obtain ⟨left, blank, passed, _⟩ := scan_in_envelope accepted
  have passedData : scanData [Body.dataField] [form] (2 * body.length + 26) (body ++ [125]) =
      .ok () (left ++ [125]) := passed
  exact (record_accepts_iff passedData blank).2 rfl

/-- A record that does not know the data of an envelope takes it if it needs no field. -/
theorem record_accepts_unknown_iff (accepted : form.accepts body = true)
    (unknown : fieldFor? fields forms "data" = none) :
    (Form.record name fields forms).accepts (Body.inEnvelope body) = true ↔
      lackingField? fields forms [] = none := by
  obtain ⟨left, blank, _, passed⟩ := scan_in_envelope accepted
  have skipped : scanData fields forms (2 * body.length + 26) (body ++ [125]) =
      .ok () (left ++ [125]) := by
    rw [scanData, unknown]
    exact passed
  have seen : dataSeen fields forms = [] := by
    rw [dataSeen, unknown]
    rfl
  rw [record_accepts_iff skipped blank, seen]

theorem list_refuses (item : Form) (body : List UInt8) :
    (Form.list item).accepts (Body.inEnvelope body) = false := by
  rw [Bool.eq_false_iff]
  intro accepted
  obtain ⟨rest, scanned, _⟩ := accepts_iff.1 accepted
  rw [scan, placed_eq_ok, Body.inEnvelope_eq, peekValue_bind_of_mark rfl rfl] at scanned
  exact otherKind_ne_ok scanned

end Form

end LoadChart
