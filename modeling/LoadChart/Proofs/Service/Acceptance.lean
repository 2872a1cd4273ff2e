import LoadChart.Proofs.Service.ScannedForm
import LoadChart.Proofs.Service.Transparency
import LoadChart.Service.Answer

/-!
# Accepted bodies

A body that is accepted for a value of a form is read as one.  Bytes that belong to no character may
stand in what is passed over; they do not lead the reader astray.
-/

namespace LoadChart

namespace Identifier

theorem isSome_ofText?_of_refusal? {text : String} (accepted : refusal? text = none) :
    (ofText? text).isSome = true := by
  unfold refusal? at accepted
  split at accepted
  next found => rw [found]; rfl
  · cases accepted

end Identifier

theorem exceptBind_eq_ok {α β ε : Type} {first : Except ε α} {next : α → Except ε β} {value : β} :
    first.bind next = .ok value ↔ ∃ middle, first = .ok middle ∧ next middle = .ok value := by
  cases first with
  | error refusal => simp [Except.bind]
  | ok middle => simp [Except.bind]

namespace Day

theorem readHyphen?_of_behindHyphen {letters rest : List Char}
    (read : behindHyphen letters = .ok rest) :
    readHyphen? (trimBlankStart letters) = some rest := by
  unfold behindHyphen at read
  split at read
  · cases read
  next letter left begins =>
    split at read
    next hyphen =>
      cases read
      rw [begins, hyphen]
      rfl
    · cases read

theorem readYear?_of_yearOrRefusal {letters rest : List Char} {year : Int}
    (read : yearOrRefusal letters = .ok (year, rest)) : readYear? letters = some (year, rest) := by
  unfold yearOrRefusal at read
  split at read
  next found =>
    dsimp only at read
    split at read
    · cases read
      exact found
    · cases read
  · split at read <;> cases read

theorem readShortNumber?_of_shortNumberOrRefusal {most number : Nat} {letters rest : List Char}
    (read : shortNumberOrRefusal most letters = .ok (number, rest)) :
    readShortNumber? letters = some (number, rest) := by
  unfold shortNumberOrRefusal at read
  split at read
  next found =>
    split at read
    · cases read
      exact found
    · cases read
  · cases read

theorem ofText?_of_ofTextOrRefusal {text : String} {day : Day}
    (read : ofTextOrRefusal text = .ok day) : ofText? text = some day := by
  obtain ⟨⟨year, behindYear⟩, yearRead, read⟩ := exceptBind_eq_ok.1 read
  obtain ⟨monthLetters, firstHyphen, read⟩ := exceptBind_eq_ok.1 read
  obtain ⟨⟨month, behindMonth⟩, monthRead, read⟩ := exceptBind_eq_ok.1 read
  obtain ⟨dayLetters, secondHyphen, read⟩ := exceptBind_eq_ok.1 read
  obtain ⟨⟨number, rest⟩, dayRead, read⟩ := exceptBind_eq_ok.1 read
  dsimp only at read
  split at read
  · cases read
  next ended =>
    split at read
    next found =>
      cases read
      rw [ofText?, readWith?, readYear?_of_yearOrRefusal yearRead]
      dsimp only [Option.bind_eq_bind, Option.bind_some]
      rw [readHyphen?_of_behindHyphen firstHyphen]
      dsimp only [Option.bind_some]
      rw [readShortNumber?_of_shortNumberOrRefusal monthRead]
      dsimp only [Option.bind_some]
      rw [readHyphen?_of_behindHyphen secondHyphen]
      dsimp only [Option.bind_some]
      rw [readShortNumber?_of_shortNumberOrRefusal dayRead]
      dsimp only [Option.bind_some]
      rw [if_pos (by simpa using ended), found]
    · cases read

theorem isSome_ofText?_of_refusal? {text : String} (accepted : refusal? text = none) :
    (ofText? text).isSome = true := by
  unfold refusal? at accepted
  split at accepted
  next found =>
    rw [ofText?_of_ofTextOrRefusal found]
    rfl
  · cases accepted

end Day

namespace Form

open Json

theorem reads_identifier : Reads identifier identifier? := by
  intro value fits
  cases fits with
  | string flawless =>
      exact Identifier.isSome_ofText?_of_refusal? (Option.map_eq_none_iff.1 flawless)

theorem reads_day : Reads day day? := by
  intro value fits
  cases fits with
  | string flawless =>
      exact Day.isSome_ofText?_of_refusal? (Option.map_eq_none_iff.1 flawless)

theorem reads_category : Reads category category? := by
  intro value fits
  obtain ⟨word, known, found⟩ := word?_of_fits fits
  unfold category?
  rw [found]
  simp only [List.mem_cons, List.not_mem_nil, or_false] at known
  rcases known with rfl | rfl | rfl | rfl | rfl | rfl <;> rfl

theorem reads_workCalendar : Reads workCalendar workCalendar? := by
  refine reads_record ⟨by decide, by decide, rfl⟩ fun record fit => ?_
  refine isSome_bind (fit.defaulted? rfl _ (reads_set reads_natural32)) fun _ => ?_
  refine isSome_bind (fit.defaulted? rfl _ (reads_set reads_day)) fun _ => ?_
  rfl

theorem reads_resource : Reads resource resource? := by
  refine reads_record ⟨by decide, by decide, rfl⟩ fun record fit => ?_
  refine isSome_bind (fit.required? rfl rfl reads_identifier) fun _ => ?_
  refine isSome_bind (fit.required? rfl rfl reads_string) fun _ => ?_
  refine isSome_bind (fit.required? rfl rfl reads_string) fun _ => ?_
  refine isSome_bind (fit.required? rfl rfl reads_category) fun _ => ?_
  refine isSome_bind (fit.defaulted? rfl _ reads_float) fun _ => ?_
  refine isSome_bind (fit.defaulted? rfl _ (reads_set reads_identifier)) fun _ => ?_
  refine isSome_bind (fit.optional? rfl reads_workCalendar) fun _ => ?_
  rfl

theorem reads_activity : Reads activity activity? := by
  refine reads_record ⟨by decide, by decide, rfl⟩ fun record fit => ?_
  refine isSome_bind (fit.defaulted? rfl _ reads_string) fun _ => ?_
  refine isSome_bind (fit.defaulted? rfl _ reads_string) fun _ => ?_
  refine isSome_bind (fit.defaulted? rfl _ reads_flag) fun _ => ?_
  refine isSome_bind (fit.optional? rfl reads_day) fun _ => ?_
  refine isSome_bind (fit.optional? rfl reads_day) fun _ => ?_
  refine isSome_bind (fit.optional? rfl reads_float) fun _ => ?_
  rfl

theorem reads_assignmentRecord : Reads assignmentRecord assignmentRecord? := by
  refine reads_record ⟨by decide, by decide, rfl⟩ fun record fit => ?_
  refine isSome_bind (fit.required? rfl rfl reads_identifier) fun _ => ?_
  refine isSome_bind (fit.required? rfl rfl reads_identifier) fun _ => ?_
  refine isSome_bind (fit.required? rfl rfl reads_identifier) fun _ => ?_
  refine isSome_bind (fit.defaulted? rfl _ reads_float) fun _ => ?_
  refine isSome_bind (fit.optional? rfl reads_day) fun _ => ?_
  refine isSome_bind (fit.optional? rfl reads_day) fun _ => ?_
  refine isSome_bind (fit.optional? rfl reads_activity) fun _ => ?_
  rfl

theorem reads_utilizationPoint : Reads utilizationPoint utilizationPoint? := by
  refine reads_record ⟨by decide, by decide, rfl⟩ fun record fit => ?_
  refine isSome_bind (fit.required? rfl rfl reads_day) fun _ => ?_
  refine isSome_bind (fit.required? rfl rfl reads_float) fun _ => ?_
  refine isSome_bind (fit.required? rfl rfl reads_float) fun _ => ?_
  refine isSome_bind (fit.required? rfl rfl reads_float) fun _ => ?_
  refine isSome_bind (fit.required? rfl rfl reads_flag) fun _ => ?_
  rfl

theorem reads_histogram : Reads histogram histogram? := by
  refine reads_record ⟨by decide, by decide, rfl⟩ fun record fit => ?_
  refine isSome_bind (fit.defaulted? rfl _ (reads_list reads_utilizationPoint)) fun _ => ?_
  refine isSome_bind (fit.defaulted? rfl _ reads_float) fun _ => ?_
  refine isSome_bind (fit.optional? rfl reads_day) fun _ => ?_
  refine isSome_bind (fit.defaulted? rfl _ reads_float) fun _ => ?_
  refine isSome_bind (fit.defaulted? rfl _ reads_natural32) fun _ => ?_
  refine isSome_bind (fit.defaulted? rfl _ reads_float) fun _ => ?_
  refine isSome_bind (fit.defaulted? rfl _ reads_float) fun _ => ?_
  rfl

theorem reads_shift : Reads shift shift? := by
  refine reads_record ⟨by decide, by decide, rfl⟩ fun record fit => ?_
  refine isSome_bind (fit.required? rfl rfl reads_identifier) fun _ => ?_
  refine isSome_bind (fit.defaulted? rfl _ reads_string) fun _ => ?_
  refine isSome_bind (fit.defaulted? rfl _ reads_string) fun _ => ?_
  refine isSome_bind (fit.required? rfl rfl reads_day) fun _ => ?_
  refine isSome_bind (fit.required? rfl rfl reads_day) fun _ => ?_
  refine isSome_bind (fit.required? rfl rfl reads_day) fun _ => ?_
  refine isSome_bind (fit.required? rfl rfl reads_day) fun _ => ?_
  refine isSome_bind (fit.required? rfl rfl reads_integer64) fun _ => ?_
  refine isSome_bind (fit.defaulted? rfl _ reads_string) fun _ => ?_
  rfl

theorem reads_metrics : Reads metrics metrics? := by
  refine reads_record ⟨by decide, by decide, rfl⟩ fun record fit => ?_
  refine isSome_bind (fit.defaulted? rfl _ reads_float) fun _ => ?_
  refine isSome_bind (fit.defaulted? rfl _ reads_natural32) fun _ => ?_
  refine isSome_bind (fit.defaulted? rfl _ reads_integer64) fun _ => ?_
  refine isSome_bind (fit.defaulted? rfl _ reads_natural32) fun _ => ?_
  rfl

theorem reads_levelingResult : Reads levelingResult levelingResult? := by
  refine reads_record ⟨by decide, by decide, rfl⟩ fun record fit => ?_
  refine isSome_bind (fit.defaulted? rfl _ reads_flag) fun _ => ?_
  refine isSome_bind (fit.defaulted? rfl _ (reads_list reads_shift)) fun _ => ?_
  refine isSome_bind (fit.defaulted? rfl _ reads_natural32) fun _ => ?_
  refine isSome_bind (fit.defaulted? rfl _ reads_natural32) fun _ => ?_
  refine isSome_bind (fit.optional? rfl reads_day) fun _ => ?_
  refine isSome_bind (fit.defaulted? rfl _ reads_integer64) fun _ => ?_
  refine isSome_bind (fit.defaulted? rfl _ reads_float) fun _ => ?_
  refine isSome_bind (fit.defaulted? rfl _ (reads_list reads_string)) fun _ => ?_
  refine isSome_bind (fit.optional? rfl reads_natural32) fun _ => ?_
  refine isSome_bind (fit.optional? rfl reads_metrics) fun _ => ?_
  rfl

theorem reads_levelingComparison : Reads levelingComparison levelingComparison? := by
  refine reads_record ⟨by decide, by decide, rfl⟩ fun record fit => ?_
  refine isSome_bind (fit.required? rfl rfl reads_metrics) fun _ => ?_
  refine isSome_bind (fit.required? rfl rfl reads_metrics) fun _ => ?_
  refine isSome_bind (fit.required? rfl rfl reads_string) fun _ => ?_
  rfl

theorem reads_envelope {α : Type} {form : Form} {read : Json → Option α}
    (needed : form.isOptional = false) (reads : Reads form read) :
    Reads (Body.envelope form) (Body.enveloped? read) :=
  reads_record ⟨by decide, by decide, rfl⟩ fun _ fit => fit.required? rfl needed reads

end Form

namespace Body

variable {α : Type} {form : Form} {read : Json → Option α}

/-- A body that is accepted for a form is read as a value that fits it. -/
theorem exists_fits_of_accepts {body : List UInt8} (accepted : form.accepts body = true) :
    ∃ value, Json.ofText? (textOfBytes body) = some value ∧ form.Fits value := by
  obtain ⟨rest, scanned, blank⟩ := Form.accepts_iff.1 accepted
  obtain ⟨value, fits, reads⟩ := (FormReads.all _).value form body () rest scanned
  refine ⟨value, reads.ofLetters? ?_, fits⟩
  rw [skipSpace_lettersOf]
  exact congrArg lettersOf blank

theorem isSome_ofText?_bind (reads : form.Reads read) {body : List UInt8}
    (accepted : form.accepts body = true) :
    ((Json.ofText? (textOfBytes body)).bind read).isSome = true := by
  obtain ⟨value, found, fits⟩ := exists_fits_of_accepts accepted
  rw [found]
  exact reads value fits

/-- A body has a value as it is exactly if it is accepted. -/
theorem isSome_bare?_eq_accepts (reads : form.Reads read) (body : List UInt8) :
    (bare? form read body).isSome = form.accepts body := by
  unfold bare?
  split
  next accepted => rw [isSome_ofText?_bind reads accepted, accepted]
  next refused => rw [eq_false_of_ne_true refused]; rfl

/-- A body is read exactly if it is accepted as it is or in an envelope. -/
theorem isSome_read?_eq_accepts (needed : form.isOptional = false) (reads : form.Reads read)
    (body : List UInt8) :
    (read? form read body).isSome = (form.accepts body || (envelope form).accepts body) := by
  unfold read?
  split
  next accepted => rw [isSome_ofText?_bind reads accepted, accepted, Bool.true_or]
  next refused =>
    rw [eq_false_of_ne_true refused, Bool.false_or]
    split
    next accepted =>
      rw [isSome_ofText?_bind (Form.reads_envelope needed reads) accepted, accepted]
    next refusedToo => rw [eq_false_of_ne_true refusedToo]; rfl

/-- Resources, assignments, comparisons, histograms and leveling results have a value exactly if
they are accepted, so what is said of a value that a body has is said of every accepted body. -/
theorem isSome_bare?_forms (body : List UInt8) :
    (bare? Form.resources (Json.list? Json.resource?) body).isSome = Form.resources.accepts body ∧
    (bare? Form.assignments (Json.list? Json.assignmentRecord?) body).isSome =
      Form.assignments.accepts body ∧
    (bare? Form.levelingComparison Json.levelingComparison? body).isSome =
      Form.levelingComparison.accepts body ∧
    (bare? Form.histogram Json.histogram? body).isSome = Form.histogram.accepts body ∧
    (bare? Form.levelingResult Json.levelingResult? body).isSome =
      Form.levelingResult.accepts body :=
  ⟨isSome_bare?_eq_accepts (Form.reads_list Form.reads_resource) body,
    isSome_bare?_eq_accepts (Form.reads_list Form.reads_assignmentRecord) body,
    isSome_bare?_eq_accepts Form.reads_levelingComparison body,
    isSome_bare?_eq_accepts Form.reads_histogram body,
    isSome_bare?_eq_accepts Form.reads_levelingResult body⟩

theorem exists_faultText?_of_refused {body : List UInt8} (refused : form.accepts body = false) :
    ∃ text, form.faultText? body = some text := by
  unfold Form.accepts at refused
  unfold Form.faultText?
  split at refused
  · cases refused
  · exact ⟨_, rfl⟩

theorem exists_faultText?_of_unread (needed : form.isOptional = false) (reads : form.Reads read)
    {body : List UInt8} (unread : read? form read body = none) :
    ∃ text, form.faultText? body = some text := by
  have refused := isSome_read?_eq_accepts needed reads body
  rw [unread, Option.isSome_none, eq_comm, Bool.or_eq_false_iff] at refused
  exact exists_faultText?_of_refused refused.1

end Body

namespace Call

open Body Form

variable {call : Call} {body : String}

theorem refusalText_of_unread {α : Type} {form : Form} {read : Json → Option α}
    {answer : α → Answer} (wanted : call.form? = some form) (needed : form.isOptional = false)
    (reads : form.Reads read)
    (undecoded : (read? form read body.toUTF8.toList).map answer = none) :
    ∃ form, call.form? = some form ∧
      form.faultText? body.toUTF8.toList = some (call.refusalText body) := by
  obtain ⟨text, told⟩ :=
    exists_faultText?_of_unread needed reads (Option.map_eq_none_iff.1 undecoded)
  refine ⟨form, wanted, ?_⟩
  rw [refusalText, wanted, Option.bind_some, told]
  rfl

/-- Where the body of a response with success is not decoded, its first fault against the form that
it should have is told. -/
theorem refusalText_of_undecoded (undecoded : call.decode? body.toUTF8.toList = none) :
    ∃ form, call.form? = some form ∧
      form.faultText? body.toUTF8.toList = some (call.refusalText body) := by
  cases call with
  | listResources program =>
      exact refusalText_of_unread rfl rfl (reads_list reads_resource) undecoded
  | listAssignments resource =>
      exact refusalText_of_unread rfl rfl (reads_list reads_assignmentRecord) undecoded
  | histogram resource range granularity =>
      exact refusalText_of_unread rfl rfl reads_histogram undecoded
  | leveling request program options shifts =>
      cases request with
      | apply => cases undecoded
      | compare => exact refusalText_of_unread rfl rfl reads_levelingComparison undecoded
      | preview => exact refusalText_of_unread rfl rfl reads_levelingResult undecoded
      | runSerial => exact refusalText_of_unread rfl rfl reads_levelingResult undecoded
      | runParallel => exact refusalText_of_unread rfl rfl reads_levelingResult undecoded
  | deleteAssignment assignment => cases undecoded

end Call

end LoadChart
