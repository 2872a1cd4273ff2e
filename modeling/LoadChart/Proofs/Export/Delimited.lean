import LoadChart.Export

/-!
# Delimited text that is read again

A reader that follows one letter after the other takes a text apart into records of fields.  It
accepts the written forms of records and nothing else: a field has quotes exactly if it needs them.
-/

namespace LoadChart

namespace Delimited

/-- Where a reader stands: in front of a field, in a field without quotes, between quotes, or behind
a quote, which ends the field unless it is the first of two. -/
inductive Place where
  | start
  | plain
  | quoted
  | closed
deriving DecidableEq

/-- What is read from a place on: the rest of the field, the fields behind it in its record, and the
records behind that one. -/
structure Remainder where
  field : List Char
  fields : List (List Char)
  records : List (List (List Char))

namespace Remainder

def push (letter : Char) (found : Remainder) : Remainder :=
  { found with field := letter :: found.field }

def behindField (found : Remainder) : Remainder := ⟨[], found.field :: found.fields, found.records⟩

def behindRecord (found : Remainder) : Remainder :=
  ⟨[], [], (found.field :: found.fields) :: found.records⟩

end Remainder

def readFrom? (place : Place) : List Char → Option Remainder
  | [] => none
  | letter :: rest =>
      if place = .quoted then
        if letter = '"' then readFrom? .closed rest
        else (readFrom? .quoted rest).map (.push letter)
      else if letter = ';' then (readFrom? .start rest).map .behindField
      else if letter = '\n' then
        if rest = [] then some ⟨[], [], []⟩ else (readFrom? .start rest).map .behindRecord
      else if letter = '"' then
        if place = .start then
          (readFrom? .quoted rest).filter fun found => found.field.any needsQuotes
        else if place = .closed then (readFrom? .quoted rest).map (.push '"')
        else none
      else if place = .closed ∨ letter = '\r' then none
      else (readFrom? .plain rest).map (.push letter)

def readRecords? (letters : List Char) : Option (List (List (List Char))) :=
  if letters = [] then some []
  else (readFrom? .start letters).map fun found => (found.field :: found.fields) :: found.records

def readText? (text : String) : Option (List (List String)) :=
  (readRecords? text.toList).map fun records => records.map (·.map String.ofList)

variable {place : Place} {letter : Char} {rest : List Char}

theorem readFrom?_quote (rest : List Char) :
    readFrom? .quoted ('"' :: rest) = readFrom? .closed rest := by
  rw [readFrom?, if_pos rfl, if_pos rfl]

theorem readFrom?_inQuotes (noQuote : letter ≠ '"') (rest : List Char) :
    readFrom? .quoted (letter :: rest) = (readFrom? .quoted rest).map (.push letter) := by
  rw [readFrom?, if_pos rfl, if_neg noQuote]

theorem readFrom?_opening (rest : List Char) :
    readFrom? .start ('"' :: rest) =
      (readFrom? .quoted rest).filter fun found => found.field.any needsQuotes := by
  rw [readFrom?, if_neg (by decide), if_neg (by decide), if_neg (by decide), if_pos rfl, if_pos rfl]

theorem readFrom?_secondQuote (rest : List Char) :
    readFrom? .closed ('"' :: rest) = (readFrom? .quoted rest).map (.push '"') := by
  rw [readFrom?, if_neg (by decide), if_neg (by decide), if_neg (by decide), if_pos rfl,
    if_neg (by decide), if_pos rfl]

theorem readFrom?_separator (outside : place ≠ .quoted) (rest : List Char) :
    readFrom? place (';' :: rest) = (readFrom? .start rest).map .behindField := by
  rw [readFrom?, if_neg outside, if_pos rfl]

theorem readFrom?_lineFeed (outside : place ≠ .quoted) (rest : List Char) :
    readFrom? place ('\n' :: rest) = (readRecords? rest).map fun records => ⟨[], [], records⟩ := by
  rw [readFrom?, if_neg outside, if_neg (by decide), if_pos rfl, readRecords?]
  split
  · rfl
  · rw [Option.map_map]
    rfl

theorem readFrom?_letter (inField : place = .start ∨ place = .plain)
    (plain : needsQuotes letter = false) (rest : List Char) :
    readFrom? place (letter :: rest) = (readFrom? .plain rest).map (.push letter) := by
  simp only [needsQuotes, Bool.or_eq_false_iff, beq_eq_false_iff_ne] at plain
  obtain ⟨⟨⟨noSeparator, noQuote⟩, noReturn⟩, noFeed⟩ := plain
  rcases inField with rfl | rfl
  all_goals
    rw [readFrom?, if_neg (by decide), if_neg noSeparator, if_neg noFeed, if_neg noQuote,
      if_neg (by simp [noReturn])]

/-- A mark that ends a field. -/
def IsMark (letter : Char) : Prop := letter = ';' ∨ letter = '\n'

theorem IsMark.readFrom?_eq (mark : IsMark letter) (outside : place ≠ .quoted) (rest : List Char) :
    readFrom? place (letter :: rest) = readFrom? .start (letter :: rest) := by
  rcases mark with rfl | rfl
  · rw [readFrom?_separator outside, readFrom?_separator (by decide)]
  · rw [readFrom?_lineFeed outside, readFrom?_lineFeed (by decide)]

theorem IsMark.field_eq_nil (mark : IsMark letter) {found : Remainder}
    (read : readFrom? .start (letter :: rest) = some found) : found.field = [] := by
  rcases mark with rfl | rfl
  · rw [readFrom?_separator (by decide)] at read
    obtain ⟨_, _, rfl⟩ := Option.map_eq_some_iff.1 read
    rfl
  · rw [readFrom?_lineFeed (by decide)] at read
    obtain ⟨_, _, rfl⟩ := Option.map_eq_some_iff.1 read
    rfl

def Remainder.pushAll (letters : List Char) (found : Remainder) : Remainder :=
  { found with field := letters ++ found.field }

theorem readFrom?_doubleQuotes (field rest : List Char) :
    readFrom? .quoted (doubleQuotes field ++ '"' :: rest) =
      (readFrom? .closed rest).map (.pushAll field) := by
  induction field with
  | nil =>
      rw [doubleQuotes, List.nil_append, readFrom?_quote]
      exact Option.map_id'.symm
  | cons letter others induction =>
      rw [doubleQuotes]
      split
      next quote =>
        rw [List.cons_append, List.cons_append, readFrom?_quote, readFrom?_secondQuote, induction,
          Option.map_map, quote]
        rfl
      next noQuote =>
        rw [List.cons_append, readFrom?_inQuotes noQuote, induction, Option.map_map]
        rfl

theorem readFrom?_plain {field : List Char} (plain : field.any needsQuotes = false)
    (inField : place = .start ∨ place = .plain) (mark : IsMark letter) (rest : List Char) :
    readFrom? place (field ++ letter :: rest) =
      (readFrom? .start (letter :: rest)).map (.pushAll field) := by
  induction field generalizing place with
  | nil =>
      have outside : place ≠ .quoted := by
        rcases inField with rfl | rfl <;> decide
      rw [List.nil_append, mark.readFrom?_eq outside]
      exact Option.map_id'.symm
  | cons own others induction =>
      rw [List.any_cons, Bool.or_eq_false_iff] at plain
      rw [List.cons_append, readFrom?_letter inField plain.1, induction plain.2 (Or.inr rfl),
        Option.map_map]
      rfl

theorem readFrom?_writeField (field : List Char) (mark : IsMark letter) (rest : List Char) :
    readFrom? .start (writeField field ++ letter :: rest) =
      (readFrom? .start (letter :: rest)).map (.pushAll field) := by
  unfold writeField
  split
  next needed =>
    rw [List.cons_append, List.cons_append, List.append_assoc, List.singleton_append,
      readFrom?_opening, readFrom?_doubleQuotes, mark.readFrom?_eq (by decide)]
    cases read : readFrom? .start (letter :: rest) with
    | none => rfl
    | some found =>
        have whole : (found.pushAll field).field = field := by
          rw [Remainder.pushAll, mark.field_eq_nil read, List.append_nil]
        rw [Option.map_some, Option.filter_some, whole, if_pos needed]
  next unneeded =>
    exact readFrom?_plain (Bool.eq_false_iff.2 unneeded) (Or.inl rfl) mark rest

theorem readFrom?_writeRecord (field : List Char) (fields : List (List Char)) (rest : List Char) :
    readFrom? .start (writeRecord (field :: fields) ++ rest) =
      (readRecords? rest).map fun records => ⟨field, fields, records⟩ := by
  induction fields generalizing field with
  | nil =>
      rw [writeRecord, List.append_assoc, List.singleton_append,
        readFrom?_writeField field (Or.inr rfl), readFrom?_lineFeed (by decide), Option.map_map]
      congr 1
      funext records
      exact congrArg (Remainder.mk · [] records) (List.append_nil field)
  | cons next others induction =>
      rw [writeRecord, List.append_assoc, List.cons_append,
        readFrom?_writeField field (Or.inl rfl), readFrom?_separator (by decide), induction,
        Option.map_map, Option.map_map]
      congr 1
      funext records
      exact congrArg (Remainder.mk · (next :: others) records) (List.append_nil field)

theorem writeRecord_ne_nil (record : List (List Char)) : writeRecord record ≠ [] := by
  cases record with
  | nil => simp [writeRecord]
  | cons field fields => cases fields <;> simp [writeRecord]

theorem readRecords?_writeRecords {records : List (List (List Char))} (notEmpty : [] ∉ records) :
    readRecords? (writeRecords records) = some records := by
  induction records with
  | nil => rfl
  | cons record others induction =>
      rw [List.mem_cons, not_or] at notEmpty
      obtain ⟨field, fields, rfl⟩ := List.exists_cons_of_ne_nil (Ne.symm notEmpty.1)
      have letters : writeRecords ((field :: fields) :: others) =
          writeRecord (field :: fields) ++ writeRecords others := List.flatMap_cons
      rw [readRecords?, letters, if_neg (by simp [writeRecord_ne_nil]), readFrom?_writeRecord,
        induction notEmpty.2]
      rfl

theorem readText?_writeRecords {records : List (List String)} (notEmpty : [] ∉ records) :
    readText? (String.ofList (writeRecords (records.map (·.map String.toList)))) =
      some records := by
  have noneEmpty : [] ∉ records.map (·.map String.toList) := by
    intro empty
    obtain ⟨record, member, same⟩ := List.mem_map.1 empty
    exact notEmpty (List.map_eq_nil_iff.1 same ▸ member)
  rw [readText?, String.toList_ofList, readRecords?_writeRecords noneEmpty]
  simp [Function.comp_def]

def Remainder.tail (found : Remainder) : List Char :=
  (found.fields.flatMap fun field => ';' :: writeField field) ++ '\n' :: writeRecords found.records

/-- From a place on some letters are the written form of what is read.  Behind a quote they are so
together with that quote. -/
def Remainder.IsWritten (found : Remainder) (letters : List Char) : Place → Prop
  | .start => letters = writeField found.field ++ found.tail
  | .plain => found.field.any needsQuotes = false ∧ letters = found.field ++ found.tail
  | .quoted => letters = doubleQuotes found.field ++ '"' :: found.tail
  | .closed => '"' :: letters = doubleQuotes found.field ++ '"' :: found.tail

theorem writeRecord_cons (field : List Char) (fields : List (List Char)) :
    writeRecord (field :: fields) =
      writeField field ++ ((fields.flatMap fun field => ';' :: writeField field) ++ ['\n']) := by
  induction fields generalizing field with
  | nil => rfl
  | cons next others induction => rw [writeRecord, induction]; simp

theorem writeRecords_behindRecord (found : Remainder) :
    writeRecords ((found.field :: found.fields) :: found.records) =
      writeField found.field ++ found.tail := by
  have letters : writeRecords ((found.field :: found.fields) :: found.records) =
      writeRecord (found.field :: found.fields) ++ writeRecords found.records := List.flatMap_cons
  rw [letters, writeRecord_cons, Remainder.tail]
  simp

namespace Remainder.IsWritten

variable {found : Remainder}

theorem of_tail (outside : place ≠ .quoted) (ended : found.field = []) :
    found.IsWritten found.tail place := by
  cases place with
  | quoted => exact absurd rfl outside
  | start | plain | closed => simp [IsWritten, ended, writeField, doubleQuotes]

theorem behindField (outside : place ≠ .quoted) (written : found.IsWritten rest .start) :
    found.behindField.IsWritten (';' :: rest) place := by
  have letters : rest = writeField found.field ++ found.tail := written
  have tail : ';' :: rest = found.behindField.tail := by
    rw [letters]
    simp [Remainder.tail, Remainder.behindField]
  exact tail ▸ .of_tail outside rfl

theorem behindRecord (outside : place ≠ .quoted) (written : found.IsWritten rest .start) :
    found.behindRecord.IsWritten ('\n' :: rest) place := by
  have letters : rest = writeField found.field ++ found.tail := written
  have tail : '\n' :: rest = found.behindRecord.tail := by
    rw [letters, ← writeRecords_behindRecord]
    rfl
  exact tail ▸ .of_tail outside rfl

theorem inQuotes (noQuote : letter ≠ '"') (written : found.IsWritten rest .quoted) :
    (found.push letter).IsWritten (letter :: rest) .quoted := by
  have letters : rest = doubleQuotes found.field ++ '"' :: found.tail := written
  change letter :: rest = doubleQuotes (letter :: found.field) ++ '"' :: found.tail
  rw [doubleQuotes, if_neg noQuote, List.cons_append, ← letters]

theorem opening (needed : found.field.any needsQuotes = true)
    (written : found.IsWritten rest .quoted) : found.IsWritten ('"' :: rest) .start := by
  have letters : rest = doubleQuotes found.field ++ '"' :: found.tail := written
  change '"' :: rest = writeField found.field ++ found.tail
  rw [writeField, if_pos needed, letters]
  simp

theorem secondQuote (written : found.IsWritten rest .quoted) :
    (found.push '"').IsWritten ('"' :: rest) .closed := by
  have letters : rest = doubleQuotes found.field ++ '"' :: found.tail := written
  change '"' :: '"' :: rest = doubleQuotes ('"' :: found.field) ++ '"' :: found.tail
  rw [doubleQuotes, if_pos rfl, letters]
  rfl

theorem push (inField : place = .start ∨ place = .plain) (plain : needsQuotes letter = false)
    (written : found.IsWritten rest .plain) :
    (found.push letter).IsWritten (letter :: rest) place := by
  obtain ⟨plainRest, letters⟩ := written
  have allPlain : (found.push letter).field.any needsQuotes = false := by
    change (letter :: found.field).any needsQuotes = false
    rw [List.any_cons, plain, plainRest]
    rfl
  have whole : letter :: rest = (found.push letter).field ++ (found.push letter).tail := by
    rw [letters]
    rfl
  rcases inField with rfl | rfl
  · change letter :: rest = writeField (found.push letter).field ++ (found.push letter).tail
    rw [writeField, if_neg (by simp [allPlain]), whole]
  · exact ⟨allPlain, whole⟩

end Remainder.IsWritten

/-- Outside quotes, what is read of a letter that neither ends a field nor is a quote. -/
theorem readFrom?_letter_eq_some (outside : place ≠ .quoted) (noMark : ¬IsMark letter)
    (noQuote : letter ≠ '"') {found : Remainder}
    (read : readFrom? place (letter :: rest) = some found) :
    (place = .start ∨ place = .plain) ∧ needsQuotes letter = false ∧
      ∃ inner, readFrom? .plain rest = some inner ∧ inner.push letter = found := by
  obtain ⟨noSeparator, noFeed⟩ := not_or.1 noMark
  rw [readFrom?, if_neg outside, if_neg noSeparator, if_neg noFeed, if_neg noQuote] at read
  split at read
  · cases read
  next ordinary =>
    obtain ⟨notClosed, noReturn⟩ := not_or.1 ordinary
    refine ⟨?_, ?_, Option.map_eq_some_iff.1 read⟩
    · cases place with
      | start => exact Or.inl rfl
      | plain => exact Or.inr rfl
      | quoted => exact absurd rfl outside
      | closed => exact absurd rfl notClosed
    · simp [needsQuotes, noSeparator, noFeed, noQuote, noReturn]

theorem isWritten_of_readFrom? {letters : List Char} {found : Remainder}
    (read : readFrom? place letters = some found) :
    found.IsWritten letters place ∧ [] ∉ found.records := by
  induction letters generalizing place found with
  | nil => cases read
  | cons letter rest induction =>
      by_cases inside : place = .quoted
      · subst inside
        by_cases quote : letter = '"'
        · subst quote
          rw [readFrom?_quote] at read
          exact induction read
        · rw [readFrom?_inQuotes quote] at read
          obtain ⟨inner, innerRead, rfl⟩ := Option.map_eq_some_iff.1 read
          obtain ⟨written, notEmpty⟩ := induction innerRead
          exact ⟨written.inQuotes quote, notEmpty⟩
      by_cases separator : letter = ';'
      · subst separator
        rw [readFrom?_separator inside] at read
        obtain ⟨inner, innerRead, rfl⟩ := Option.map_eq_some_iff.1 read
        obtain ⟨written, notEmpty⟩ := induction innerRead
        exact ⟨written.behindField inside, notEmpty⟩
      by_cases feed : letter = '\n'
      · subst feed
        rw [readFrom?_lineFeed inside, readRecords?] at read
        split at read
        next ended =>
          cases read
          rw [ended]
          exact ⟨.of_tail inside rfl, List.not_mem_nil⟩
        · rw [Option.map_map] at read
          obtain ⟨inner, innerRead, rfl⟩ := Option.map_eq_some_iff.1 read
          obtain ⟨written, notEmpty⟩ := induction innerRead
          refine ⟨written.behindRecord inside, ?_⟩
          exact fun empty => (List.mem_cons.1 empty).elim (by simp) notEmpty
      by_cases quote : letter = '"'
      · subst quote
        cases place with
        | start =>
            rw [readFrom?_opening] at read
            obtain ⟨innerRead, needed⟩ := Option.filter_eq_some_iff.1 read
            obtain ⟨written, notEmpty⟩ := induction innerRead
            exact ⟨written.opening needed, notEmpty⟩
        | plain => cases read
        | quoted => exact absurd rfl inside
        | closed =>
            rw [readFrom?_secondQuote] at read
            obtain ⟨inner, innerRead, rfl⟩ := Option.map_eq_some_iff.1 read
            obtain ⟨written, notEmpty⟩ := induction innerRead
            exact ⟨written.secondQuote, notEmpty⟩
      obtain ⟨inField, plain, inner, innerRead, rfl⟩ :=
        readFrom?_letter_eq_some inside (not_or.2 ⟨separator, feed⟩) quote read
      obtain ⟨written, notEmpty⟩ := induction innerRead
      exact ⟨written.push inField plain, notEmpty⟩

/-- The reader accepts the written forms of records of at least one field, and reads the records. -/
theorem readRecords?_eq_some_iff {letters : List Char} {records : List (List (List Char))} :
    readRecords? letters = some records ↔ letters = writeRecords records ∧ [] ∉ records := by
  constructor
  · intro read
    rw [readRecords?] at read
    split at read
    next none =>
      cases read
      exact ⟨none, List.not_mem_nil⟩
    · obtain ⟨found, foundRead, rfl⟩ := Option.map_eq_some_iff.1 read
      obtain ⟨written, notEmpty⟩ := isWritten_of_readFrom? foundRead
      refine ⟨?_, fun empty => (List.mem_cons.1 empty).elim (by simp) notEmpty⟩
      rw [writeRecords_behindRecord]
      exact written
  · rintro ⟨rfl, notEmpty⟩
    exact readRecords?_writeRecords notEmpty

end Delimited

end LoadChart
