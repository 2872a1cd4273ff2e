import LoadChart.Proofs.Json.Fits
import LoadChart.Proofs.Service.ScannedValue

/-!
# Values of forms that are passed over

A value of a form that is passed over among the bytes of a body is read from their letters, up to
the same place, as one that fits the form.
-/

namespace LoadChart

namespace Body

open Scan (markOf Ensures trim)
open Scan.Ensures
open Json (ReadsAs skipSpace readString? readValue? readArray? readItems? readBehindItem?
  readObject? readMembers? readBehindName? readBehindMember?)

variable {fuel : Nat} {form : Form} {byte : UInt8} {bytes left rest : List UInt8}

/-- A step passes over a value with a property where one is read. -/
def PassesValue (scan : Scan Unit) (fits : Json → Prop) : Prop :=
  ∀ bytes, Ensures scan bytes fun _ rest =>
    ∃ value, fits value ∧ ReadsBytes readValue? bytes value rest

theorem PassesValue.placed {scan : Scan Unit} {fits : Json → Prop}
    (passes : PassesValue scan fits) : PassesValue (Scan.placed scan) fits :=
  fun bytes => Ensures.placed (passes bytes)

theorem scanFlag_fits : PassesValue Form.scanFlag Form.flag.Fits := by
  refine fun bytes => peekValue_bind fun byte left trimmed => ?_
  have letters := skipSpace_lettersOf bytes
  rw [trimmed] at letters
  split
  · refine (word_ensures rfl).mono fun _ rest same => ?_
    exact ⟨_, .flag true, .isTrue (letters.trans same)⟩
  · refine (word_ensures rfl).mono fun _ rest same => ?_
    exact ⟨_, .flag false, .isFalse (letters.trans same)⟩
  · exact otherKind _

/-- A number is found as a value. -/
inductive IsFound : FoundValue → Json → Prop where
  | integer (value : Int) : IsFound (.integer value) (.integer value)
  | float (value : Float) : IsFound (.float value) (.float value)

theorem foundNumber_ensures :
    Ensures Scan.foundNumber bytes fun found rest =>
      ∃ value, IsFound found value ∧
        Json.readNumber? (lettersOf bytes) = some (value, lettersOf rest) := by
  refine number_ensures.bind fun value left read => ?_
  split
  · exact Ensures.pure ⟨_, .integer _, read.1⟩
  · exact Ensures.pure ⟨_, .float _, read.1⟩
  · exact stop _

theorem scanNumber_fits {wanted : String} {flaw? : FoundValue → Option Flaw}
    (fits : ∀ found value, IsFound found value → flaw? found = none → form.Fits value) :
    PassesValue (Form.scanNumber wanted flaw?) form.Fits := by
  refine fun bytes => peekValue_bind fun byte left trimmed => ?_
  split
  next numeric =>
    refine foundNumber_ensures.bind fun found behind own => ?_
    obtain ⟨value, isFound, read⟩ := own
    have small := small_of_begins numeric
    rw [lettersOf_mark rfl small] at read
    split
    · exact stopSomewhere _
    next flawless =>
      exact Ensures.pure ⟨value, fits found value isFound flawless,
        .number (skipSpace_of_trim trimmed rfl small) numeric read⟩
  · exact otherKind _

theorem fits_float {found : FoundValue} {value : Json} (isFound : IsFound found value) :
    Form.float.Fits value := by
  cases isFound with
  | integer value => exact .integer value
  | float value => exact .float value

theorem fits_whole {low high : Int} {name : String} (found : FoundValue) (value : Json)
    (isFound : IsFound found value) (flawless : Form.wholeFlaw? low high name found = none) :
    (Form.whole low high name).Fits value := by
  cases isFound with
  | integer value =>
      simp only [Form.wholeFlaw?] at flawless
      split at flawless
      next bounds => exact .whole bounds.1 bounds.2
      · cases flawless
  | float value => cases flawless

/-- A string without a flaw is passed over where one is read. -/
theorem scanString_ensures {wanted : String} {flaw? : String → Option Flaw} :
    Ensures (Form.scanString wanted flaw?) bytes fun _ rest =>
      ∃ text behind, flaw? text = none ∧ skipSpace (lettersOf bytes) = '"' :: behind ∧
        readString? behind = some (some text, lettersOf rest) ∧
        (lettersOf rest).length < behind.length := by
  refine peekValue_bind fun byte left trimmed => ?_
  split
  next quote =>
    refine string_ensures.bind fun text behind own => ?_
    split
    · exact stopSomewhere _
    next flawless =>
      exact Ensures.pure ⟨text, _, flawless, skipSpace_of_trim trimmed quote (by decide), own⟩
  · exact otherKind _

theorem scanString_fits {wanted : String} {flaw? : String → Option Flaw} :
    PassesValue (Form.scanString wanted flaw?) (Form.string wanted flaw?).Fits := by
  refine fun bytes => scanString_ensures.mono fun _ rest own => ?_
  obtain ⟨text, behind, flawless, quote, read, shorter⟩ := own
  exact ⟨.string text, .string flawless, .string quote read shorter⟩

theorem scanName_ensures {words : List String} :
    Ensures (Form.scanName words) bytes fun _ rest =>
      ∃ word behind, word ∈ words ∧ skipSpace (lettersOf bytes) = '"' :: behind ∧
        readString? behind = some (some word, lettersOf rest) ∧
        (lettersOf rest).length < behind.length := by
  refine placed (scanString_ensures.mono fun _ rest own => ?_)
  obtain ⟨word, behind, known, own⟩ := own
  refine ⟨word, behind, ?_, own⟩
  by_contra unknown
  rw [if_neg (by simpa using unknown)] at known
  cases known

theorem scanNull_ensures :
    Ensures Form.scanNull bytes fun _ rest => ReadsBytes readValue? bytes .null rest := by
  refine placed (peekValue_bind fun byte left trimmed => ?_)
  have letters := skipSpace_lettersOf bytes
  rw [trimmed] at letters
  split
  · exact (word_ensures rfl).mono fun _ rest same => .null (letters.trans same)
  · exact otherKind _

/-- Behind the name of a word there is only its null. -/
theorem behindWord_ensures (word : String) :
    Ensures Form.behindWord bytes fun _ rest =>
      ReadsBytes (readBehindName? · (some word)) bytes [(some word, .null)] rest := by
  refine colon_ensures.bind fun _ left begun => scanNull_ensures.bind fun _ behind null => ?_
  refine peekMark_bind (fun _ => stop _) fun byte last trimmed => ?_
  split
  next brace =>
    have ended := skipSpace_of_trim trimmed (Option.some.inj brace) (by decide)
    exact skip (.behindName begun null (.behindMember_brace ended))
  · exact stop _
  · exact stop _

theorem wordMember_ensures (words : List String) :
    Ensures (Form.scanName words >>= fun _ => Form.behindWord) bytes fun _ rest =>
      ∃ word ∈ words, ReadsBytes readMembers? bytes [(some word, .null)] rest := by
  refine scanName_ensures.bind fun _ left own => ?_
  obtain ⟨word, behind, known, quote, read, shorter⟩ := own
  exact (behindWord_ensures word).mono fun _ rest others =>
    ⟨word, known, .readMembers? quote read shorter others⟩

theorem scanWord_fits {words : List String} :
    PassesValue (Form.scanWord words) (Form.word words).Fits := by
  refine fun bytes => peekValue_bind fun byte left trimmed => ?_
  have letters := skipSpace_lettersOf bytes
  rw [trimmed] at letters
  split
  next quote =>
    refine scanName_ensures.mono fun _ rest own => ?_
    obtain ⟨word, behind, known, quote, read, shorter⟩ := own
    rw [← letters, Json.ReadsAs.skipSpace_twice] at quote
    exact ⟨.string word, .word known, .string quote read shorter⟩
  next brace =>
    refine skip_bind (peekMark_bind (fun _ => stopAtNext _) fun byte next inside => ?_)
    refine mono (wordMember_ensures words) fun _ rest own => ?_
    obtain ⟨word, known, members⟩ := own
    rw [← inside, ReadsBytes, ← skipSpace_lettersOf] at members
    refine ⟨.object [(word, .null)], .named known, ?_⟩
    exact .object (skipSpace_of_trim trimmed brace (by decide))
      (.readObject? members.readMembers?_trimmed)
  · exact stopAtNext _

theorem listEnd_ensures :
    Ensures Scan.listEnd bytes fun _ rest =>
      skipSpace (lettersOf bytes) = ']' :: lettersOf rest := by
  refine peekMark_bind (fun _ => stopAtNext _) fun byte left trimmed => ?_
  split
  next bracket => exact skip (skipSpace_of_trim trimmed (Option.some.inj bracket) (by decide))
  · refine skip_bind (peekMark_bind (fun _ => stopAtNext _) fun _ _ _ => ?_)
    split <;> exact stopAtNext _
  · exact stopAtNext _
  · contradiction

theorem objectEnd_ensures :
    Ensures Scan.objectEnd bytes fun _ rest =>
      skipSpace (lettersOf bytes) = '\x7d' :: lettersOf rest := by
  refine peekMark_bind (fun _ => stopAtNext _) fun byte left trimmed => ?_
  split
  next brace => exact skip (skipSpace_of_trim trimmed (Option.some.inj brace) (by decide))
  · exact stopAtNext _
  · exact stopAtNext _
  · contradiction

/-- Before the first item of a list only blanks are passed over. -/
theorem hasItem_first :
    Ensures (Scan.hasItem true) bytes fun isMore rest =>
      lettersOf rest = skipSpace (lettersOf bytes) ∧
        (isMore = false → ∃ left, skipSpace (lettersOf bytes) = ']' :: left) := by
  refine peekMark_bind (fun _ => stopAtNext _) fun byte left trimmed => ?_
  have same := skipSpace_lettersOf bytes
  rw [trimmed] at same
  split
  · contradiction
  next bracket =>
    exact Ensures.pure ⟨same.symm, fun _ =>
      ⟨_, skipSpace_of_trim trimmed (Option.some.inj bracket) (by decide)⟩⟩
  · exact Ensures.pure ⟨same.symm, fun isNot => absurd isNot (by decide)⟩

/-- Before another item of a list a comma is passed over. -/
theorem hasItem_next :
    Ensures (Scan.hasItem false) bytes fun isMore rest =>
      (isMore = true → ∃ left, skipSpace (lettersOf bytes) = ',' :: left ∧
        lettersOf rest = skipSpace left) ∧
      (isMore = false → lettersOf rest = skipSpace (lettersOf bytes) ∧
        ∃ left, skipSpace (lettersOf bytes) = ']' :: left) := by
  refine peekMark_bind (fun _ => stopAtNext _) fun byte left trimmed => ?_
  have same := skipSpace_lettersOf bytes
  rw [trimmed] at same
  split
  · contradiction
  next bracket =>
    exact Ensures.pure ⟨fun isMore => absurd isMore (by decide), fun _ => ⟨same.symm,
      _, skipSpace_of_trim trimmed (Option.some.inj bracket) (by decide)⟩⟩
  next mark _ sameMark =>
    obtain rfl := Option.some.inj sameMark
    rw [if_neg (by decide)]
    split
    next comma =>
      have begun := skipSpace_of_trim trimmed comma (by decide)
      refine skip_bind (peekValue_bind fun next behind inside => ?_)
      split
      · exact stopAtNext _
      · refine Ensures.pure ⟨fun _ => ⟨_, begun, ?_⟩, fun isNot => absurd isNot (by decide)⟩
        rw [skipSpace_lettersOf, inside]
    · exact stopAtNext _

/-- A step passes over the items of a list, up to its end. -/
def PassesItems (items : Scan Unit) (all : List Json → Prop) : Prop :=
  ∀ bytes, Ensures (items >>= fun _ => Scan.listEnd) bytes fun _ rest =>
    ∃ items, all items ∧ ReadsBytes readArray? bytes (.array items) rest

/-- A step passes over the items of a list behind one of them, up to its end. -/
def PassesMoreItems (items : Scan Unit) (all : List Json → Prop) : Prop :=
  ∀ before bytes, Ensures (items >>= fun _ => Scan.listEnd) bytes fun _ rest =>
    ∃ items, all items ∧ ReadsBytes (readBehindItem? · before) bytes (before :: items) rest

/-- A step passes over no items at the bracket of a list. -/
def PassesNoItems (done : Scan Unit) (all : List Json → Prop) : Prop :=
  ∀ bytes left, skipSpace (lettersOf bytes) = ']' :: left →
    Ensures (done >>= fun _ => Scan.listEnd) bytes fun _ rest => all [] ∧ left = lettersOf rest

section Items

variable {item more done : Scan Unit} {fits : Json → Prop} {good all : List Json → Prop}

theorem item_bind (value : PassesValue item fits) (behind : PassesMoreItems more good)
    (cons : ∀ own items, fits own → good items → all (own :: items)) :
    Ensures ((do item; more) >>= fun _ => Scan.listEnd) bytes fun _ rest =>
      ∃ items, all items ∧ ReadsBytes readItems? bytes items rest := by
  rw [bind_assoc]
  refine (value bytes).bind fun _ left first => ?_
  obtain ⟨own, fitsOwn, first⟩ := first
  refine (behind own left).mono fun _ rest others => ?_
  obtain ⟨items, goodItems, others⟩ := others
  exact ⟨own :: items, cons own items fitsOwn goodItems, .readItems? first others⟩

/-- The items of a list, of a form each or the fields of a record, are its first and more. -/
theorem firstItem_bind (value : PassesValue item fits) (behind : PassesMoreItems more good)
    (cons : ∀ own items, fits own → good items → all (own :: items))
    (ended : PassesNoItems done all) :
    PassesItems (do if ← Scan.hasItem true then do { item; more } else done) all := by
  intro bytes
  rw [bind_assoc]
  refine hasItem_first.bind fun isMore left first => ?_
  obtain ⟨same, bracket⟩ := first
  cases isMore with
  | true =>
      refine (item_bind value behind cons).mono fun _ rest others => ?_
      obtain ⟨items, allItems, others⟩ := others
      rw [ReadsBytes, same] at others
      exact ⟨items, allItems, .readArray? others.readItems?_trimmed⟩
  | false =>
      obtain ⟨more, closing⟩ := bracket rfl
      have still : skipSpace (lettersOf left) = ']' :: more := by
        rw [same, Json.ReadsAs.skipSpace_twice, closing]
      refine (ended left more still).mono fun _ rest last => ?_
      obtain ⟨allNone, rfl⟩ := last
      exact ⟨[], allNone, .noItems closing⟩

theorem nextItem_bind (value : PassesValue item fits) (behind : PassesMoreItems more good)
    (cons : ∀ own items, fits own → good items → all (own :: items))
    (ended : PassesNoItems done all) :
    PassesMoreItems (do if ← Scan.hasItem false then do { item; more } else done) all := by
  intro before bytes
  rw [bind_assoc]
  refine hasItem_next.bind fun isMore left next => ?_
  obtain ⟨comma, bracket⟩ := next
  cases isMore with
  | true =>
      obtain ⟨inside, begun, same⟩ := comma rfl
      refine (item_bind value behind cons).mono fun _ rest others => ?_
      obtain ⟨items, allItems, others⟩ := others
      rw [ReadsBytes, same] at others
      exact ⟨items, allItems, .behindItem_comma begun others.readItems?_trimmed⟩
  | false =>
      obtain ⟨same, more, closing⟩ := bracket rfl
      have still : skipSpace (lettersOf left) = ']' :: more := by
        rw [same, Json.ReadsAs.skipSpace_twice, closing]
      refine (ended left more still).mono fun _ rest last => ?_
      obtain ⟨allNone, rfl⟩ := last
      exact ⟨[], allNone, .behindItem_bracket closing⟩

theorem noItem_of_bracket : PassesNoItems (pure ()) fun items => ∀ own ∈ items, fits own := by
  intro bytes letters bracket
  refine listEnd_ensures.mono fun _ rest closed => ⟨List.forall_mem_nil _, ?_⟩
  rw [bracket] at closed
  exact (List.cons.inj closed).2

end Items

/-- Before the first member of an object only blanks are passed over. -/
theorem hasMember_first :
    Ensures (Scan.hasMember true) bytes fun isMore rest =>
      lettersOf rest = skipSpace (lettersOf bytes) ∧
        (isMore = true → ∃ byte left, rest = byte :: left ∧
          skipSpace (lettersOf bytes) = '"' :: lettersOf left) := by
  refine peekMark_bind (fun _ => stopAtNext _) fun byte left trimmed => ?_
  have same := skipSpace_lettersOf bytes
  rw [trimmed] at same
  split
  · contradiction
  · exact Ensures.pure ⟨same.symm, fun isMore => absurd isMore (by decide)⟩
  next mark _ sameMark =>
    obtain rfl := Option.some.inj sameMark
    rw [if_pos rfl]
    split
    next quote =>
      exact Ensures.pure ⟨same.symm, fun _ =>
        ⟨byte, left, rfl, skipSpace_of_trim trimmed quote (by decide)⟩⟩
    · exact stopAtNext _

/-- Before another member of an object a comma is passed over. -/
theorem hasMember_next :
    Ensures (Scan.hasMember false) bytes fun isMore rest =>
      (isMore = true → ∃ byte left inside, rest = byte :: left ∧
        skipSpace (lettersOf bytes) = ',' :: inside ∧
          skipSpace inside = '"' :: lettersOf left) ∧
      (isMore = false → lettersOf rest = skipSpace (lettersOf bytes)) := by
  refine peekMark_bind (fun _ => stopAtNext _) fun byte left trimmed => ?_
  have same := skipSpace_lettersOf bytes
  rw [trimmed] at same
  split
  · contradiction
  · exact Ensures.pure ⟨fun isMore => absurd isMore (by decide), fun _ => same.symm⟩
  next mark _ sameMark =>
    obtain rfl := Option.some.inj sameMark
    rw [if_neg (by decide)]
    split
    next comma =>
      refine skip_bind (peekValue_bind fun next behind inside => ?_)
      split
      next quote =>
        exact Ensures.pure ⟨fun _ => ⟨next, behind, _, rfl,
          skipSpace_of_trim trimmed comma (by decide),
          skipSpace_of_trim inside quote (by decide)⟩, fun isNot => absurd isNot (by decide)⟩
      · exact stopAtNext _
      · exact stopAtNext _
    · exact stopAtNext _

/-- Members as they are read, each with a name. -/
def namedMembers (members : List (String × Json)) : List (Option String × Json) :=
  members.map fun member => (some member.1, member.2)

/-- A step passes over the members of an object, up to its end. -/
def PassesMembers (members : Scan Unit) (all : List (String × Json) → Prop) : Prop :=
  ∀ bytes, Ensures (members >>= fun _ => Scan.objectEnd) bytes fun _ rest =>
    ∃ members, all members ∧ ReadsBytes readObject? bytes (.object members) rest

/-- A step passes over the members of an object behind one of them, up to its end. -/
def PassesMoreMembers (members : Scan Unit) (all : List (String × Json) → Prop) : Prop :=
  ∀ name value bytes, Ensures (members >>= fun _ => Scan.objectEnd) bytes fun _ rest =>
    ∃ members, all members ∧ ReadsBytes (readBehindMember? · (some name, value)) bytes
      (namedMembers ((name, value) :: members)) rest

/-- A step passes over a member behind its name, and over those behind it. -/
def PassesNamed (member : String → Scan Unit) (all : List (String × Json) → Prop) : Prop :=
  ∀ name bytes, Ensures (member name >>= fun _ => Scan.objectEnd) bytes fun _ rest =>
    ∃ members, all members ∧
      ReadsBytes (readBehindName? · (some name)) bytes (namedMembers members) rest

/-- A step passes over no members at the brace of an object. -/
def PassesNoMembers (done : Scan Unit) (all : List (String × Json) → Prop) : Prop :=
  ∀ bytes, Ensures (done >>= fun _ => Scan.objectEnd) bytes fun _ rest =>
    all [] ∧ skipSpace (lettersOf bytes) = '\x7d' :: lettersOf rest

section Members

variable {member : String → Scan Unit} {done : Scan Unit} {all : List (String × Json) → Prop}

theorem member_bind {letters : List Char} (quote : skipSpace letters = '"' :: lettersOf left)
    (behind : PassesNamed member all) :
    Ensures ((do let name ← Scan.string; member name) >>= fun _ => Scan.objectEnd) (byte :: left)
      fun _ rest => ∃ members, all members ∧
        ReadsAs readMembers? letters (namedMembers members) (lettersOf rest) := by
  rw [bind_assoc]
  refine string_ensures.bind fun name left own => ?_
  obtain ⟨read, shorter⟩ := own
  refine (behind name left).mono fun _ rest others => ?_
  obtain ⟨members, allMembers, others⟩ := others
  exact ⟨members, allMembers, .readMembers? quote read shorter others⟩

theorem firstMember_bind (behind : PassesNamed member all) (ended : PassesNoMembers done all) :
    PassesMembers
      (do if ← Scan.hasMember true then do { let name ← Scan.string; member name } else done)
      all := by
  intro bytes
  rw [bind_assoc]
  refine hasMember_first.bind fun isMore left first => ?_
  obtain ⟨same, more⟩ := first
  cases isMore with
  | true =>
      obtain ⟨byte, inside, rfl, quote⟩ := more rfl
      refine (member_bind quote behind).mono fun _ rest others => ?_
      obtain ⟨members, allMembers, others⟩ := others
      refine ⟨members, allMembers, ?_⟩
      rw [← Json.ofMembers_map]
      exact .readObject? others
  | false =>
      refine (ended left).mono fun _ rest last => ?_
      obtain ⟨allNone, closing⟩ := last
      rw [same, Json.ReadsAs.skipSpace_twice] at closing
      exact ⟨[], allNone, .noMembers closing⟩

theorem nextMember_bind (behind : PassesNamed member all) (ended : PassesNoMembers done all) :
    PassesMoreMembers
      (do if ← Scan.hasMember false then do { let name ← Scan.string; member name } else done)
      all := by
  intro name value bytes
  rw [bind_assoc]
  refine hasMember_next.bind fun isMore left next => ?_
  obtain ⟨more, none⟩ := next
  cases isMore with
  | true =>
      obtain ⟨byte, inside, letters, rfl, comma, quote⟩ := more rfl
      refine (member_bind quote behind).mono fun _ rest others => ?_
      obtain ⟨members, allMembers, others⟩ := others
      exact ⟨members, allMembers, .behindMember_comma comma others⟩
  | false =>
      refine (ended left).mono fun _ rest last => ?_
      obtain ⟨allNone, closing⟩ := last
      rw [none rfl, Json.ReadsAs.skipSpace_twice] at closing
      exact ⟨[], allNone, .behindMember_brace closing⟩

end Members

/-- Values of forms, the items of a list, the fields of a record in an array and the members of a
record in an object fit where they are passed over, the last three with what ends them. -/
structure FormReads (fuel : Nat) : Prop where
  value : ∀ form, PassesValue (Form.scan fuel form) form.Fits
  firstItem : ∀ item,
    PassesItems (Form.scanItems fuel item true) fun items => ∀ own ∈ items, item.Fits own
  nextItem : ∀ item,
    PassesMoreItems (Form.scanItems fuel item false) fun items => ∀ own ∈ items, item.Fits own
  firstElement : ∀ wanted parts,
    PassesItems (Form.scanElements fuel wanted 0 parts) (Form.ElementsFit Form.Fits parts)
  nextElement : ∀ wanted count parts,
    PassesMoreItems (Form.scanElements fuel wanted (count + 1) parts)
      (Form.ElementsFit Form.Fits parts)
  firstMember : ∀ fields forms seen,
    PassesMembers (Form.scanMembers fuel fields forms seen true)
      (Form.MembersFit Form.Fits seen fields forms)
  nextMember : ∀ fields forms seen,
    PassesMoreMembers (Form.scanMembers fuel fields forms seen false)
      (Form.MembersFit Form.Fits seen fields forms)

namespace FormReads

theorem list (reads : FormReads fuel) (item : Form) :
    PassesValue (Form.scan (fuel + 1) (.list item)) (Form.list item).Fits := by
  refine fun bytes => placed (peekValue_bind fun byte left trimmed => ?_)
  split
  next bracket =>
    refine skip_bind (closedBy ((reads.firstItem item left).mono fun _ rest own => ?_))
    obtain ⟨items, all, own⟩ := own
    exact ⟨.array items, .list all, .array (skipSpace_of_trim trimmed bracket (by decide)) own⟩
  · exact otherKind _

theorem optional (reads : FormReads fuel) (inner : Form) :
    PassesValue (Form.scan (fuel + 1) (.optional inner)) (Form.optional inner).Fits := by
  intro bytes
  have given : Ensures (Form.scan fuel inner) (trim bytes) fun _ rest =>
      ∃ value, (Form.optional inner).Fits value ∧ ReadsBytes readValue? bytes value rest := by
    refine (reads.value inner (trim bytes)).mono fun _ rest own => ?_
    obtain ⟨value, fits, own⟩ := own
    rw [ReadsBytes, ← skipSpace_lettersOf] at own
    exact ⟨value, .given fits, own.readValue?_trimmed⟩
  refine peekMark_bind (fun empty => empty ▸ given) fun byte left trimmed => ?_
  split
  next null =>
    have letters := skipSpace_lettersOf bytes
    rw [trimmed] at letters
    refine (word_ensures rfl).mono fun _ rest same => ?_
    exact ⟨.null, .null inner, .null (letters.trans same)⟩
  · exact trimmed ▸ given

theorem record (reads : FormReads fuel) (name : String) (fields : List Json.Field)
    (forms : List Form) :
    PassesValue (Form.scan (fuel + 1) (.record name fields forms))
      (Form.record name fields forms).Fits := by
  refine fun bytes => placed (peekValue_bind fun byte left trimmed => ?_)
  split
  next bracket =>
    refine skip_bind (closedBy ((reads.firstElement _ _ left).mono fun _ rest own => ?_))
    obtain ⟨items, fits, own⟩ := own
    exact ⟨.array items, .array fits, .array (skipSpace_of_trim trimmed bracket (by decide)) own⟩
  next brace =>
    refine skip_bind (closedBy ((reads.firstMember fields forms [] left).mono fun _ rest own => ?_))
    obtain ⟨members, fits, own⟩ := own
    exact ⟨.object members, .object fits,
      .object (skipSpace_of_trim trimmed brace (by decide)) own⟩
  · exact otherKind _

/-- A value is passed over by its form. -/
theorem scan (reads : FormReads fuel) (form : Form) :
    PassesValue (Form.scan (fuel + 1) form) form.Fits := by
  cases form with
  | flag => exact scanFlag_fits.placed
  | float => exact (scanNumber_fits fun _ _ isFound _ => fits_float isFound).placed
  | whole low high name => exact (scanNumber_fits fits_whole).placed
  | string wanted flaw? => exact scanString_fits.placed
  | word words => exact scanWord_fits
  | list item => exact reads.list item
  | optional inner => exact reads.optional inner
  | record name fields forms => exact reads.record name fields forms

/-- At its bracket an array has no more elements. -/
theorem noElement_of_bracket (reads : FormReads fuel) (wanted : String) (count : Nat)
    (field : Json.Field) (form : Form) (parts : List (Json.Field × Form)) :
    PassesNoItems
      (if field.mayBeMissing then Form.scanElements fuel wanted (count + 1) parts
        else Scan.stopSomewhere (.length count wanted))
      (Form.ElementsFit Form.Fits ((field, form) :: parts)) := by
  intro bytes letters bracket
  split
  next missing =>
    refine (reads.nextElement wanted count parts .null bytes).mono fun _ rest own => ?_
    obtain ⟨items, fits, own⟩ := own
    obtain ⟨sameItems, sameRest⟩ := own.unique (.behindItem_bracket bracket)
    obtain ⟨_, rfl⟩ := List.cons.inj sameItems
    cases fits with
    | ended others => exact ⟨.ended (List.forall_mem_cons.2 ⟨missing, others⟩), sameRest.symm⟩
  · exact stopSomewhere _

theorem scanMember (reads : FormReads fuel) (fields : List Json.Field) (forms : List Form)
    (seen : List String) :
    PassesNamed (Form.scanMember fuel fields forms seen)
      (Form.MembersFit Form.Fits seen fields forms) := by
  intro name bytes
  unfold Form.scanMember
  split
  next field form found =>
    dsimp only
    split
    · exact stopSomewhere _
    next fresh =>
      simp only [bind_assoc]
      refine colon_ensures.bind fun _ left begun => ?_
      refine (reads.value form left).bind fun _ behind own => ?_
      obtain ⟨value, fits, own⟩ := own
      refine (reads.nextMember fields forms _ name value behind).mono fun _ rest others => ?_
      obtain ⟨members, all, others⟩ := others
      exact ⟨_, .known found (by simpa using fresh) fits all, .behindName begun own others⟩
  next found =>
    simp only [bind_assoc]
    refine colon_ensures.bind fun _ left begun => ?_
    refine ((UnusedReads.all fuel).value left).bind fun _ behind own => ?_
    obtain ⟨value, own⟩ := own
    refine (reads.nextMember fields forms seen name value behind).mono fun _ rest others => ?_
    obtain ⟨members, all, others⟩ := others
    exact ⟨_, .unknown found all, .behindName begun own others⟩

theorem unlacking (fields : List Json.Field) (forms : List Form) (seen : List String) :
    PassesNoMembers (Form.unlacking fields forms seen)
      (Form.MembersFit Form.Fits seen fields forms) := by
  intro bytes
  unfold Form.unlacking
  split
  · exact stopSomewhere _
  next lacking => exact objectEnd_ensures.mono fun _ rest brace => ⟨.ended lacking, brace⟩

/-- One more turn of each. -/
theorem succ (reads : FormReads fuel) : FormReads (fuel + 1) where
  value := reads.scan
  firstItem := fun item =>
    firstItem_bind (reads.value item) (reads.nextItem item)
      (fun _ _ fits all => List.forall_mem_cons.2 ⟨fits, all⟩) noItem_of_bracket
  nextItem := fun item =>
    nextItem_bind (reads.value item) (reads.nextItem item)
      (fun _ _ fits all => List.forall_mem_cons.2 ⟨fits, all⟩) noItem_of_bracket
  firstElement := by
    intro wanted parts
    cases parts with
    | nil =>
        exact fun bytes => listEnd_ensures.mono fun _ rest bracket =>
          ⟨[], .ended (List.forall_mem_nil _), .noItems bracket⟩
    | cons part parts =>
        exact firstItem_bind (reads.value part.2) (reads.nextElement wanted 0 parts)
          (fun _ _ => .cons) (reads.noElement_of_bracket wanted 0 part.1 part.2 parts)
  nextElement := by
    intro wanted count parts
    cases parts with
    | nil =>
        exact fun before bytes => listEnd_ensures.mono fun _ rest bracket =>
          ⟨[], .ended (List.forall_mem_nil _), .behindItem_bracket bracket⟩
    | cons part parts =>
        exact nextItem_bind (reads.value part.2) (reads.nextElement wanted (count + 1) parts)
          (fun _ _ => .cons) (reads.noElement_of_bracket wanted (count + 1) part.1 part.2 parts)
  firstMember := by
    intro fields forms seen
    rw [Form.scanMembers_succ]
    exact firstMember_bind (reads.scanMember fields forms seen)
      (unlacking fields forms seen)
  nextMember := by
    intro fields forms seen
    rw [Form.scanMembers_succ]
    exact nextMember_bind (reads.scanMember fields forms seen)
      (unlacking fields forms seen)

theorem all (fuel : Nat) : FormReads fuel := by
  induction fuel with
  | zero =>
      exact ⟨fun _ _ => stopSomewhere _, fun _ _ => stopSomewhere _, fun _ _ _ => stopSomewhere _,
        fun _ _ _ => stopSomewhere _, fun _ _ _ _ _ => stopSomewhere _,
        fun _ _ _ _ => stopSomewhere _, fun _ _ _ _ _ _ => stopSomewhere _⟩
  | succ fuel reads => exact reads.succ

end FormReads

end Body

end LoadChart
