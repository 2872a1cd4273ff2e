import LoadChart.Proofs.Json.Reading
import LoadChart.Proofs.Service.ScannedNumber
import LoadChart.Proofs.Service.ScannedString

/-!
# Values that are passed over

A value that is not used is passed over among the bytes of a body where one is read from their
letters, up to the same place.  It may be one that stands for nothing.
-/

namespace LoadChart

namespace Body

open Scan (markOf Ensures trim)
open Scan.Ensures
open Json (ReadsAs skipSpace readValue? readArray? readItems? readBehindItem? readObject?
  readMembers? readBehindName? readBehindMember?)

variable {fuel : Nat} {letter : Char} {byte : UInt8} {bytes left rest : List UInt8}

theorem small_of_isSpace (letter : Char) (blank : Json.isSpace letter = true) :
    letter.toNat < 0x80 := by
  simp only [Json.isSpace, Bool.or_eq_true, beq_iff_eq] at blank
  rcases blank with ((rfl | rfl) | rfl) | rfl <;> decide

theorem skipSpace_lettersOf (bytes : List UInt8) :
    skipSpace (lettersOf bytes) = lettersOf (trim bytes) :=
  lettersOf_dropWhile small_of_isSpace bytes

theorem skipSpace_of_trim (trimmed : trim bytes = byte :: left) (mark : markOf byte = letter)
    (small : letter.toNat < 0x80) : skipSpace (lettersOf bytes) = letter :: lettersOf left := by
  rw [skipSpace_lettersOf, trimmed, lettersOf_mark mark small]

/-- A reader gives a value for the letters of some bytes, up to those of a rest. -/
abbrev ReadsBytes {α : Type} (read : Nat → List Char → Option (α × List Char))
    (bytes : List UInt8) (value : α) (rest : List UInt8) : Prop :=
  ReadsAs read (lettersOf bytes) value (lettersOf rest)

theorem word_ensures {letters : List Char}
    (small : (letters.all fun letter => letter.toNat < 0x80) = true) :
    Ensures (Scan.word letters) bytes fun _ rest =>
      lettersOf bytes = letters ++ lettersOf rest := by
  induction letters generalizing bytes with
  | nil => exact Ensures.pure rfl
  | cons letter letters induction =>
      rw [List.all_cons, Bool.and_eq_true_iff, decide_eq_true_eq] at small
      obtain ⟨own, others⟩ := small
      refine peek_bind (fun _ => stop _) fun byte left same => ?_
      subst same
      refine skip_bind ?_
      split
      next mark =>
        refine (induction others).mono fun _ rest same => ?_
        rw [lettersOf_mark mark own, same]
        rfl
      · exact stop _

theorem small_of_begins (numeric : letter = '-' ∨ isDigit letter = true) : letter.toNat < 0x80 := by
  rcases numeric with rfl | digit
  · decide
  · exact small_of_isDigit _ digit

theorem number_reads (trimmed : trim bytes = byte :: left)
    (numeric : markOf byte = '-' ∨ isDigit (markOf byte) = true) :
    Ensures (Scan.numberText false) (byte :: left) fun _ rest =>
      ∃ value, ReadsBytes readValue? bytes value rest := by
  refine numberText_ensures.mono fun _ rest found => ?_
  obtain ⟨number, found⟩ := found
  have small := small_of_begins numeric
  rw [lettersOf_mark rfl small] at found
  refine ⟨number.value, .number (skipSpace_of_trim trimmed rfl small) numeric ?_⟩
  rw [Json.readNumber?, found]
  rfl

/-- Values, the items of a list and the members of an object are read where they are passed over. -/
structure UnusedReads (fuel : Nat) : Prop where
  value : ∀ bytes, Ensures (Scan.unused fuel) bytes fun _ rest =>
    ∃ value, ReadsBytes readValue? bytes value rest
  items : ∀ bytes, Ensures (Scan.unusedItems fuel) bytes fun _ rest =>
    ∃ items, ReadsBytes readItems? bytes items rest
  members : ∀ bytes, Ensures (Scan.unusedMembers fuel) bytes fun _ rest =>
    ∃ members, ReadsBytes readMembers? bytes members rest

namespace UnusedReads

theorem behindItem (reads : UnusedReads fuel) (item : Json) :
    Ensures (Scan.behindItem fuel) bytes fun _ rest =>
      ∃ items, ReadsBytes (readBehindItem? · item) bytes items rest := by
  refine peekMark_bind (fun _ => stopAtNext _) fun byte left trimmed => ?_
  split
  next comma =>
    have begun := skipSpace_of_trim trimmed (Option.some.inj comma) (by decide)
    refine skip_bind ((reads.items left).mono fun _ rest found => ?_)
    obtain ⟨items, found⟩ := found
    exact ⟨_, .behindItem_comma begun found⟩
  next bracket =>
    have begun := skipSpace_of_trim trimmed (Option.some.inj bracket) (by decide)
    exact skip ⟨_, .behindItem_bracket begun⟩
  · exact stopAtNext _
  · contradiction

theorem behindMember (reads : UnusedReads fuel) (name? : Option String) (value : Json) :
    Ensures (Scan.behindMember fuel) bytes fun _ rest =>
      ∃ members, ReadsBytes (readBehindMember? · (name?, value)) bytes members rest := by
  refine peekMark_bind (fun _ => stopAtNext _) fun byte left trimmed => ?_
  split
  next comma =>
    have begun := skipSpace_of_trim trimmed (Option.some.inj comma) (by decide)
    refine skip_bind ((reads.members left).mono fun _ rest found => ?_)
    obtain ⟨members, found⟩ := found
    exact ⟨_, .behindMember_comma begun found⟩
  next brace =>
    have begun := skipSpace_of_trim trimmed (Option.some.inj brace) (by decide)
    exact skip ⟨_, .behindMember_brace begun⟩
  · exact stopAtNext _
  · contradiction

end UnusedReads

theorem colon_ensures :
    Ensures Scan.colon bytes fun _ rest => skipSpace (lettersOf bytes) = ':' :: lettersOf rest := by
  refine peekMark_bind (fun _ => stopAtNext _) fun byte left trimmed => ?_
  split
  next colon => exact skip (skipSpace_of_trim trimmed (Option.some.inj colon) (by decide))
  · exact stopAtNext _
  · contradiction

namespace UnusedReads

theorem behindName (reads : UnusedReads fuel) (name? : Option String) :
    Ensures (Scan.behindName fuel) bytes fun _ rest =>
      ∃ members, ReadsBytes (readBehindName? · name?) bytes members rest := by
  refine colon_ensures.bind fun _ left begun => ?_
  refine (reads.value left).bind fun _ behind own => ?_
  obtain ⟨value, own⟩ := own
  refine (reads.behindMember name? value).mono fun _ rest others => ?_
  obtain ⟨members, others⟩ := others
  exact ⟨members, .behindName begun own others⟩

theorem named (reads : UnusedReads fuel) :
    Ensures (Scan.named (Scan.behindName fuel)) bytes fun _ rest =>
      ∃ members, ReadsBytes readMembers? bytes members rest := by
  refine peekMark_bind (fun _ => stopAtNext _) fun byte left trimmed => ?_
  split
  next quote =>
    have begun := skipSpace_of_trim trimmed (Option.some.inj quote) (by decide)
    refine unusedString_ensures.bind fun _ behind own => ?_
    obtain ⟨name?, own, shorter⟩ := own
    refine (reads.behindName name?).mono fun _ rest others => ?_
    obtain ⟨members, others⟩ := others
    exact ⟨members, .readMembers? begun own shorter others⟩
  · exact stopAtNext _
  · contradiction

theorem behindBracket (reads : UnusedReads fuel) :
    Ensures (Scan.peekMark >>= Scan.behindBracket fuel) bytes fun _ rest =>
      ∃ value, ReadsBytes readArray? bytes value rest := by
  refine peekMark_bind (fun _ => stopAtNext _) fun byte left trimmed => ?_
  by_cases bracket : markOf byte = ']'
  · rw [bracket]
    exact skip ⟨_, .noItems (skipSpace_of_trim trimmed bracket (by decide))⟩
  · rw [Scan.behindBracket_of_ne bracket]
    refine (reads.items _).mono fun _ rest found => ?_
    obtain ⟨items, found⟩ := found
    rw [← trimmed, ReadsBytes, ← skipSpace_lettersOf] at found
    exact ⟨_, .readArray? found.readItems?_trimmed⟩

theorem behindBrace (reads : UnusedReads fuel) :
    Ensures (Scan.peekMark >>= Scan.behindBrace fuel) bytes fun _ rest =>
      ∃ value, ReadsBytes readObject? bytes value rest := by
  refine peekMark_bind (fun _ => stopAtNext _) fun byte left trimmed => ?_
  by_cases brace : markOf byte = '\x7d'
  · rw [brace]
    exact skip ⟨_, .noMembers (skipSpace_of_trim trimmed brace (by decide))⟩
  · rw [Scan.behindBrace_of_ne brace]
    refine (reads.members _).mono fun _ rest found => ?_
    obtain ⟨members, found⟩ := found
    rw [← trimmed, ReadsBytes, ← skipSpace_lettersOf] at found
    exact ⟨_, .readObject? found.readMembers?_trimmed⟩

/-- A value is passed over by its first mark. -/
theorem unused (reads : UnusedReads fuel) :
    Ensures (Scan.unused (fuel + 1)) bytes fun _ rest =>
      ∃ value, ReadsBytes readValue? bytes value rest := by
  unfold Scan.unused
  refine peekValue_bind fun byte left trimmed => ?_
  have letters := skipSpace_lettersOf bytes
  rw [trimmed] at letters
  split
  · refine (word_ensures rfl).mono fun _ rest same => ?_
    exact ⟨_, .null (letters.trans same)⟩
  · refine (word_ensures rfl).mono fun _ rest same => ?_
    exact ⟨_, .isTrue (letters.trans same)⟩
  · refine (word_ensures rfl).mono fun _ rest same => ?_
    exact ⟨_, .isFalse (letters.trans same)⟩
  next quote =>
    refine unusedString_ensures.mono fun _ rest found => ?_
    obtain ⟨text?, found, shorter⟩ := found
    exact ⟨_, .string (skipSpace_of_trim trimmed quote (by decide)) found shorter⟩
  next bracket =>
    refine skip_bind (reads.behindBracket.mono fun _ rest found => ?_)
    obtain ⟨value, found⟩ := found
    exact ⟨value, .array (skipSpace_of_trim trimmed bracket (by decide)) found⟩
  next brace =>
    refine skip_bind (reads.behindBrace.mono fun _ rest found => ?_)
    obtain ⟨value, found⟩ := found
    exact ⟨value, .object (skipSpace_of_trim trimmed brace (by decide)) found⟩
  · split
    next numeric => exact number_reads trimmed numeric
    · exact stopAtNext _

theorem succ (reads : UnusedReads fuel) : UnusedReads (fuel + 1) where
  value := fun _ => reads.unused
  items := fun _ => by
    rw [Scan.unusedItems_succ]
    refine (reads.value _).bind fun _ left own => ?_
    obtain ⟨item, own⟩ := own
    refine (reads.behindItem item).mono fun _ rest others => ?_
    obtain ⟨items, others⟩ := others
    exact ⟨items, .readItems? own others⟩
  members := fun _ => by
    rw [Scan.unusedMembers_succ]
    exact reads.named

theorem all (fuel : Nat) : UnusedReads fuel := by
  induction fuel with
  | zero => exact ⟨fun _ => stopSomewhere _, fun _ => stopSomewhere _, fun _ => stopSomewhere _⟩
  | succ fuel reads => exact reads.succ

end UnusedReads

end Body

end LoadChart
