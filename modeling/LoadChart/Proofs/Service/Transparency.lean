import LoadChart.Proofs.Json.ReaderExtension
import LoadChart.Proofs.Json.Written
import LoadChart.Proofs.Service.Envelope

/-!
# Transparency of envelopes

Resources, assignments and comparisons are read from an envelope as from the body in it.  A
histogram and a leveling result need no field and ignore the fields they do not know, so they are
read from the envelope itself, and what is in it is lost.
-/

namespace LoadChart

namespace Json

theorem readValue?_space (fuel : Nat) (letters : List Char) :
    readValue? (fuel + 1) (' ' :: letters) = readValue? (fuel + 1) letters := by
  have same : skipSpace (' ' :: letters) = skipSpace letters := rfl
  rw [readValue?, readValue?, same]

theorem readValue?_of_brace_quote (fuel : Nat) (letters : List Char) :
    readValue? (fuel + 1) ('\x7b' :: '"' :: letters) =
      (readMembers? fuel ('"' :: letters)).map fun (members, rest) =>
        (ofMembers members, rest) := by
  rw [readValue?_of_begun rfl]
  rfl

theorem readMembers?_data (fuel : Nat) (letters : List Char) :
    readMembers? (fuel + 1) ('"' :: 'd' :: 'a' :: 't' :: 'a' :: '"' :: ':' :: letters) =
      (readValue? fuel letters).bind fun (value, rest) =>
        readBehindMember? fuel (some "data", value) rest := by
  rw [readMembers?_of_quote rfl]
  rfl

theorem readBehindMember?_brace {rest : List Char} (blank : skipSpace rest = []) (fuel : Nat)
    (member : Option String × Json) :
    readBehindMember? fuel member (rest ++ ['\x7d']) = some ([member], []) := by
  rw [readBehindMember?, skipSpace_closed, blank]
  rfl

theorem ofLetters?_eq_some {letters : List Char} {value : Json} :
    ofLetters? letters = some value ↔
      ∃ rest, readValue? (letters.length + 1) letters = some (value, rest) ∧
        skipSpace rest = [] := by
  unfold ofLetters?
  constructor
  · intro found
    split at found
    next value rest foundValue =>
      split at found
      next blank =>
        cases found
        exact ⟨rest, foundValue, List.isEmpty_iff.1 blank⟩
      · cases found
    · cases found
  · rintro ⟨rest, foundValue, blank⟩
    rw [foundValue]
    exact if_pos (List.isEmpty_iff.2 blank)

theorem ofLetters?_envelope {letters : List Char} {value : Json}
    (found : ofLetters? letters = some value) :
    ofLetters? (Body.envelopeBegin ++ letters ++ ['\x7d']) = some (.object [("data", value)]) := by
  obtain ⟨rest, foundValue, blank⟩ := ofLetters?_eq_some.1 found
  have length : (Body.envelopeBegin ++ letters ++ ['\x7d']).length = letters.length + 10 := by
    simp [Body.envelopeBegin]
  have inside : readValue? (letters.length + 9) (' ' :: (letters ++ ['\x7d'])) =
      some (value, rest ++ ['\x7d']) := by
    rw [readValue?_space]
    exact (Closes.of_le (by omega)).value foundValue
  refine ofLetters?_eq_some.2 ⟨[], ?_, rfl⟩
  calc
    readValue? ((Body.envelopeBegin ++ letters ++ ['\x7d']).length + 1)
        (Body.envelopeBegin ++ letters ++ ['\x7d'])
      = (readMembers? (letters.length + 10) ('"' :: 'd' :: 'a' :: 't' :: 'a' :: '"' :: ':' :: ' ' ::
          (letters ++ ['\x7d']))).map fun (members, rest) => (ofMembers members, rest) := by
      rw [length]
      exact readValue?_of_brace_quote _ _
    _ = some (ofMembers [(some "data", value)], []) := by
      rw [readMembers?_data, inside]
      exact congrArg (Option.map _) (readBehindMember?_brace blank _ _)

end Json

def Histogram.unfilled : Histogram where
  points := []
  peak := 0
  peakDay := none
  average := 0
  overallocated := 0
  available := 0
  assigned := 0

def LevelingResult.unfilled : LevelingResult where
  success := false
  shifts := []
  iterations := 0
  remaining := 0
  newFinish := none
  extension := 0
  milliseconds := 0
  warnings := []
  threads := none
  ownMetrics := none

namespace Json

theorem enveloped?_data {α : Type} (read : Json → Option α) (value : Json) :
    Body.enveloped? read (.object [("data", value)]) = read value := rfl

theorem histogram?_data (value : Json) :
    histogram? (.object [("data", value)]) = some .unfilled := rfl

theorem levelingResult?_data (value : Json) :
    levelingResult? (.object [("data", value)]) = some .unfilled := rfl

end Json

namespace Body

variable {α : Type} {form : Form} {read : Json → Option α} {body : List UInt8} {value : α}

theorem ofText?_inEnvelope {json : Json} (found : Json.ofText? (textOfBytes body) = some json) :
    Json.ofText? (textOfBytes (inEnvelope body)) = some (.object [("data", json)]) := by
  have letters : (textOfBytes (inEnvelope body)).toList =
      envelopeBegin ++ (textOfBytes body).toList ++ ['\x7d'] := by
    change lettersOf (encode envelopeBegin ++ body ++ [125]) = _
    rw [lettersOf_brace, lettersOf_encode]
    rfl
  rw [Json.ofText?, letters]
  exact Json.ofLetters?_envelope found

def bare? (form : Form) (read : Json → Option α) (body : List UInt8) : Option α :=
  if form.accepts body then (Json.ofText? (textOfBytes body)).bind read else none

theorem bare?_eq_some :
    bare? form read body = some value ↔
      form.accepts body = true ∧
        ∃ json, Json.ofText? (textOfBytes body) = some json ∧ read json = some value := by
  unfold bare?
  split
  next accepted => simp [accepted, Option.bind_eq_some_iff]
  next refused => simp [refused]

theorem bare?_encode {letters : List Char} {json : Json}
    (accepted : form.accepts (encode letters) = true)
    (found : Json.ofLetters? letters = some json) (readJson : read json = some value) :
    bare? form read (encode letters) = some value := by
  have same : (textOfBytes (encode letters)).toList = letters := by
    have decoded := lettersOf_encode letters []
    rw [List.append_nil] at decoded
    exact decoded.trans (List.append_nil letters)
  refine bare?_eq_some.2 ⟨accepted, json, ?_, readJson⟩
  rw [Json.ofText?, same, found]

def written (json : Json) : List UInt8 := encode (Json.writeIndented 0 json)

theorem bare?_written {json : Json} (plain : json.IsPlain)
    (accepted : form.accepts (written json) = true) (readJson : read json = some value) :
    bare? form read (written json) = some value := by
  have found := Json.ofText?_indentedText plain
  rw [Json.ofText?, Json.indentedText, String.toList_ofList] at found
  exact bare?_encode accepted found readJson

theorem read?_eq_of_accepted (accepted : form.accepts body = true) :
    read? form read body = (Json.ofText? (textOfBytes body)).bind read :=
  if_pos accepted

theorem read?_of_bare? (bare : bare? form read body = some value) :
    read? form read body = some value := by
  obtain ⟨accepted, json, found, readJson⟩ := bare?_eq_some.1 bare
  rw [read?_eq_of_accepted accepted, found]
  exact readJson

/-- Where a form does not take the envelope for a value, the body in it is read. -/
theorem read?_inEnvelope_of_refused (bare : bare? form read body = some value)
    (refused : form.accepts (inEnvelope body) = false) :
    read? form read (inEnvelope body) = some value := by
  obtain ⟨accepted, json, found, readJson⟩ := bare?_eq_some.1 bare
  have notBare : ¬form.accepts (inEnvelope body) = true := by simp [refused]
  rw [read?, if_neg notBare, if_pos (Form.envelope_accepts accepted), ofText?_inEnvelope found]
  exact (Json.enveloped?_data read json).trans readJson

/-- Where a form takes the envelope for a value, it is this value that is read. -/
theorem read?_inEnvelope_of_accepted (bare : bare? form read body = some value)
    (taken : form.accepts (inEnvelope body) = true) {unfilled : α}
    (ignored : ∀ json, read (.object [("data", json)]) = some unfilled) :
    read? form read (inEnvelope body) = some unfilled := by
  obtain ⟨_, json, found, _⟩ := bare?_eq_some.1 bare
  rw [read?_eq_of_accepted taken, ofText?_inEnvelope found]
  exact ignored json

/-- A body with a value is read as this value, as it is and in an envelope. -/
def IsTransparent (form : Form) (read : Json → Option α) (body : List UInt8) (value : α) : Prop :=
  read? form read body = some value ∧ read? form read (inEnvelope body) = some value

theorem isTransparent_of_refused (bare : bare? form read body = some value)
    (refused : form.accepts (inEnvelope body) = false) : IsTransparent form read body value :=
  ⟨read?_of_bare? bare, read?_inEnvelope_of_refused bare refused⟩

/-- A record that takes the envelope for itself is told apart from what is in it, unless nothing
is told of it. -/
theorem isTransparent_iff_of_accepted (bare : bare? form read body = some value)
    (taken : form.accepts (inEnvelope body) = true) {unfilled : α}
    (ignored : ∀ json, read (.object [("data", json)]) = some unfilled) :
    IsTransparent form read body value ↔ value = unfilled := by
  have enveloped := read?_inEnvelope_of_accepted bare taken ignored
  constructor
  · rintro ⟨_, same⟩
    rw [enveloped] at same
    exact (Option.some.inj same).symm
  · rintro rfl
    exact ⟨read?_of_bare? bare, enveloped⟩

theorem levelingComparison_refuses (accepted : Form.levelingComparison.accepts body = true) :
    Form.levelingComparison.accepts (inEnvelope body) = false := by
  rw [Bool.eq_false_iff]
  intro taken
  have lacking := (Form.record_accepts_unknown_iff accepted rfl).1 taken
  cases lacking

theorem histogram_accepts (accepted : Form.histogram.accepts body = true) :
    Form.histogram.accepts (inEnvelope body) = true :=
  (Form.record_accepts_unknown_iff accepted rfl).2 rfl

theorem levelingResult_accepts (accepted : Form.levelingResult.accepts body = true) :
    Form.levelingResult.accepts (inEnvelope body) = true :=
  (Form.record_accepts_unknown_iff accepted rfl).2 rfl

/-- Envelopes are transparent for resources, assignments and comparisons.  A histogram and a
leveling result in an envelope are read as ones of which nothing is told, so for them envelopes are
transparent only where nothing is told without the envelope either. -/
theorem isTransparent_unless_told (body : List UInt8) :
    (∀ value, bare? Form.resources (Json.list? Json.resource?) body = some value →
      IsTransparent Form.resources (Json.list? Json.resource?) body value) ∧
    (∀ value, bare? Form.assignments (Json.list? Json.assignmentRecord?) body = some value →
      IsTransparent Form.assignments (Json.list? Json.assignmentRecord?) body value) ∧
    (∀ value, bare? Form.levelingComparison Json.levelingComparison? body = some value →
      IsTransparent Form.levelingComparison Json.levelingComparison? body value) ∧
    (∀ value, bare? Form.histogram Json.histogram? body = some value →
      read? Form.histogram Json.histogram? (inEnvelope body) = some .unfilled ∧
        (IsTransparent Form.histogram Json.histogram? body value ↔ value = .unfilled)) ∧
    ∀ value, bare? Form.levelingResult Json.levelingResult? body = some value →
      read? Form.levelingResult Json.levelingResult? (inEnvelope body) = some .unfilled ∧
        (IsTransparent Form.levelingResult Json.levelingResult? body value ↔
          value = .unfilled) := by
  refine ⟨?_, ?_, ?_, ?_, ?_⟩
  · intro value bare
    exact isTransparent_of_refused bare (Form.list_refuses Form.resource body)
  · intro value bare
    exact isTransparent_of_refused bare (Form.list_refuses Form.assignmentRecord body)
  · intro value bare
    exact isTransparent_of_refused bare (levelingComparison_refuses (bare?_eq_some.1 bare).1)
  · intro value bare
    have taken := histogram_accepts (bare?_eq_some.1 bare).1
    exact ⟨read?_inEnvelope_of_accepted bare taken Json.histogram?_data,
      isTransparent_iff_of_accepted bare taken Json.histogram?_data⟩
  · intro value bare
    have taken := levelingResult_accepts (bare?_eq_some.1 bare).1
    exact ⟨read?_inEnvelope_of_accepted bare taken Json.levelingResult?_data,
      isTransparent_iff_of_accepted bare taken Json.levelingResult?_data⟩

def welderJson : Json :=
  .array [.object
    [("id", .string "00000000-0000-0000-0000-000000000001"), ("code", .string "W1"),
      ("name", .string "Welder"), ("resourceType", .string "LABOR")]]

/-- One assignment of the resource, from Monday to Friday. -/
def weldingJson : Json :=
  .array [.object
    [("id", .string "00000000-0000-0000-0000-000000000002"),
      ("activityId", .string "00000000-0000-0000-0000-000000000003"),
      ("resourceId", .string "00000000-0000-0000-0000-000000000001"),
      ("startDate", .string "2027-05-03"), ("finishDate", .string "2027-05-07")]]

def weldingStart : Day := ⟨740469, by decide, by decide⟩

def weldingFinish : Day := ⟨740473, by decide, by decide⟩

def welding : AssignmentRecord :=
  ⟨⟨2⟩, ⟨3⟩, ⟨1⟩, 1, some weldingStart, some weldingFinish, none⟩

theorem list?_weldingJson : Json.list? Json.assignmentRecord? weldingJson = some [welding] := by
  have start : Json.day? (.string "2027-05-03") = some weldingStart := by decide +kernel
  have finish : Json.day? (.string "2027-05-07") = some weldingFinish := by decide +kernel
  calc
    Json.list? Json.assignmentRecord? weldingJson
      = (((Json.day? (.string "2027-05-03")).map some).bind fun start =>
          ((Json.day? (.string "2027-05-07")).map some).bind fun finish =>
            some ⟨⟨2⟩, ⟨3⟩, ⟨1⟩, 1, start, finish, none⟩).bind fun record => some [record] := rfl
    _ = some [welding] := by
      rw [start, finish]
      rfl

def comparedJson : Json :=
  .object
    [("serial", .object [("activitiesShifted", .integer 2), ("scheduleExtensionDays", .integer 3)]),
      ("parallel", .object [("activitiesShifted", .integer 2)]),
      ("recommendation", .string "parallel")]

def peakJson : Json :=
  .object [("peakUtilization", .integer 150), ("overallocatedDays", .integer 1)]

def peaking : Histogram :=
  { Histogram.unfilled with peak := Json.floatOfInteger 150, overallocated := 1 }

/-- A result that tells only its success. -/
def successJson : Json := .object [("success", .bool true)]

def succeeded : LevelingResult := { LevelingResult.unfilled with success := true }

theorem bare?_successJson :
    bare? Form.levelingResult Json.levelingResult? (written successJson) = some succeeded :=
  bare?_written (by simp [successJson]) (by decide +kernel) rfl

/-- A resource, an assignment and a comparison keep what is told of them, and a histogram and a
result lose it. -/
theorem isTransparent_unless_told_filled :
    IsTransparent Form.resources (Json.list? Json.resource?) (written welderJson)
        [.ofCode ⟨1⟩ "W1" "Welder" .labor] ∧
      IsTransparent Form.assignments (Json.list? Json.assignmentRecord?) (written weldingJson)
        [welding] ∧
      IsTransparent Form.levelingComparison Json.levelingComparison? (written comparedJson)
        ⟨⟨0, 2, 3, 0⟩, ⟨0, 2, 0, 0⟩, "parallel"⟩ ∧
      (bare? Form.histogram Json.histogram? (written peakJson) = some peaking ∧
        read? Form.histogram Json.histogram? (inEnvelope (written peakJson)) = some .unfilled) ∧
      bare? Form.levelingResult Json.levelingResult? (written successJson) = some succeeded ∧
        read? Form.levelingResult Json.levelingResult? (inEnvelope (written successJson)) =
          some .unfilled := by
  have resources : bare? Form.resources (Json.list? Json.resource?) (written welderJson) =
      some [.ofCode ⟨1⟩ "W1" "Welder" .labor] :=
    bare?_written (by simp [welderJson]) (by decide +kernel) rfl
  have assignments : bare? Form.assignments (Json.list? Json.assignmentRecord?)
      (written weldingJson) = some [welding] :=
    bare?_written (by simp [weldingJson]) (by decide +kernel) list?_weldingJson
  have comparison : bare? Form.levelingComparison Json.levelingComparison? (written comparedJson) =
      some ⟨⟨0, 2, 3, 0⟩, ⟨0, 2, 0, 0⟩, "parallel"⟩ :=
    bare?_written (by simp [comparedJson, Json.maxWord, powerOfTwo]) (by decide +kernel) rfl
  have histogram : bare? Form.histogram Json.histogram? (written peakJson) = some peaking :=
    bare?_written (by simp [peakJson, Json.maxWord, powerOfTwo]) (by decide +kernel) rfl
  obtain ⟨ofResources, _⟩ := isTransparent_unless_told (written welderJson)
  obtain ⟨_, ofAssignments, _⟩ := isTransparent_unless_told (written weldingJson)
  obtain ⟨_, _, ofComparison, _⟩ := isTransparent_unless_told (written comparedJson)
  obtain ⟨_, _, _, ofHistogram, _⟩ := isTransparent_unless_told (written peakJson)
  obtain ⟨_, _, _, _, ofResult⟩ := isTransparent_unless_told (written successJson)
  exact ⟨ofResources _ resources, ofAssignments _ assignments, ofComparison _ comparison,
    ⟨histogram, (ofHistogram _ histogram).1⟩, bare?_successJson, (ofResult _ bare?_successJson).1⟩

/-- The success that a result tells is lost in an envelope. -/
theorem levelingResult_not_isTransparent :
    bare? Form.levelingResult Json.levelingResult? (written successJson) = some succeeded ∧
      read? Form.levelingResult Json.levelingResult? (inEnvelope (written successJson)) =
        some .unfilled ∧
      ¬IsTransparent Form.levelingResult Json.levelingResult? (written successJson) succeeded := by
  have taken := levelingResult_accepts (bare?_eq_some.1 bare?_successJson).1
  refine ⟨bare?_successJson,
    read?_inEnvelope_of_accepted bare?_successJson taken Json.levelingResult?_data, ?_⟩
  rw [isTransparent_iff_of_accepted bare?_successJson taken Json.levelingResult?_data]
  intro same
  cases congrArg LevelingResult.success same

end Body

end LoadChart
