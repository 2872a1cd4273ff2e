import LoadChart.Proofs.Json.Outcome
import LoadChart.Proofs.Json.ReaderExtension
import LoadChart.Proofs.Service.Letters

/-!
# Numbers that are scanned

A number that is passed over among the bytes of a body is read from their letters, up to the same
place.  The value that is taken for it while it is passed over is the one that is read.
-/

namespace LoadChart

namespace Body

open Scan (markOf Ensures)
open Scan.Ensures
open Json (readWhole? readFraction? readExponent? readExponentDigits? readSigned? readUnsigned?
  readNumberText? readNumber?)

variable {isUsed negative : Bool} {byte : UInt8} {bytes left rest : List UInt8}

/-- The first letter of some bytes is a given ASCII letter exactly if the first byte is. -/
theorem exists_lettersOf_cons (byte : UInt8) (rest : List UInt8) :
    ∃ letter others, lettersOf (byte :: rest) = letter :: others ∧
      ∀ mark : Char, mark.toNat < 0x80 → (letter = mark ↔ markOf byte = mark) := by
  by_cases small : byte.toNat < 0x80
  · exact ⟨_, _, lettersOf_small small rest, fun _ _ => Iff.rfl⟩
  · obtain ⟨letter, others, same, large⟩ := exists_lettersOf_large (Nat.not_lt.1 small) rest
    refine ⟨letter, others, same, fun mark markSmall => ⟨?_, ?_⟩⟩
    · rintro rfl
      exact absurd markSmall (Nat.not_lt.2 large)
    · rintro rfl
      rw [Scan.toNat_markOf] at markSmall
      exact absurd markSmall small

theorem small_of_isDigit (letter : Char) (digit : isDigit letter = true) :
    letter.toNat < 0x80 := by
  have bounds := Bool.and_eq_true_iff.1 digit
  have high := of_decide_eq_true bounds.2
  omega

theorem small_of_isNumeric (letter : Char) (numeric : Scan.isNumeric letter = true) :
    letter.toNat < 0x80 := by
  rcases Bool.or_eq_true_iff.1 numeric with digit | mark
  · exact small_of_isDigit letter digit
  · simp only [List.contains_eq_mem, List.mem_cons, List.not_mem_nil, or_false,
      decide_eq_true_eq] at mark
    rcases mark with rfl | rfl | rfl | rfl | rfl <;> decide

theorem drop_takeWhile {α : Type} (test : α → Bool) (items : List α) :
    items.drop (items.takeWhile test).length = items.dropWhile test := by
  have split := List.takeWhile_append_dropWhile (p := test) (l := items)
  calc
    items.drop (items.takeWhile test).length
      = (items.takeWhile test ++ items.dropWhile test).drop (items.takeWhile test).length := by
      rw [split]
    _ = items.dropWhile test := List.drop_left

theorem lettersOf_behindDigits (bytes : List UInt8) :
    lettersOf (bytes.drop (bytes.takeWhile (isDigit ∘ markOf)).length) =
      (lettersOf bytes).drop ((lettersOf bytes).takeWhile isDigit).length := by
  rw [drop_takeWhile, drop_takeWhile, lettersOf_dropWhile small_of_isDigit]

theorem digits_bind {α : Type} {next : Nat → Scan α} {post : α → List UInt8 → Prop}
    (behind : Ensures (next (bytes.takeWhile (isDigit ∘ markOf)).length)
      (bytes.drop (bytes.takeWhile (isDigit ∘ markOf)).length) post) :
    Ensures (Scan.digits >>= next) bytes post := behind

theorem digits_ensures {post : Unit → List UInt8 → Prop}
    (holds : post () (bytes.drop (bytes.takeWhile (isDigit ∘ markOf)).length)) :
    Ensures (discard Scan.digits) bytes post := by
  rintro _ _ ⟨⟩
  exact holds

theorem takeWhile_isDigit_eq_nil (noDigit : isDigit (markOf byte) = false) :
    (lettersOf (byte :: rest)).takeWhile isDigit = [] := by
  rw [lettersOf_takeWhile small_of_isDigit, List.takeWhile_cons_of_neg (by simp [noDigit])]
  rfl

theorem readWhole?_zero {letters : List Char} (ends : letters.takeWhile isDigit = []) :
    readWhole? ('0' :: letters) = some (['0'], letters) := by
  have digits : ('0' :: letters).takeWhile isDigit = ['0'] := by
    rw [List.takeWhile_cons_of_pos (by decide), ends]
  rw [readWhole?, digits]
  rfl

theorem readWhole?_digit {letter : Char} (digit : isDigit letter = true) (notZero : letter ≠ '0')
    (letters : List Char) :
    readWhole? (letter :: letters) =
      some ((letter :: letters).takeWhile isDigit,
        (letter :: letters).drop ((letter :: letters).takeWhile isDigit).length) := by
  rw [readWhole?, List.takeWhile_cons_of_pos digit]
  split
  next none => cases none
  next zero => exact absurd (List.cons.inj zero).1 notZero
  · rfl

theorem wholePart_ensures :
    Ensures (Scan.wholePart isUsed) bytes fun _ rest =>
      ∃ digits, readWhole? (lettersOf bytes) = some (digits, lettersOf rest) := by
  refine peek_bind (fun _ => stop _) fun byte left same => ?_
  subst same
  split
  · contradiction
  next zero =>
    rw [lettersOf_mark (Option.some.inj zero) (by decide)]
    refine skip_bind (peek_bind (fun empty => pure ?_) fun next behind same => ?_)
    · subst empty
      exact ⟨['0'], rfl⟩
    · subst same
      split
      · exact stopAtNext _
      next noDigit =>
        exact pure ⟨['0'], readWhole?_zero (takeWhile_isDigit_eq_nil (by simpa using noDigit))⟩
  next letter notZero same =>
    obtain rfl := Option.some.inj same
    split
    next digit =>
      have letters := lettersOf_mark rfl (small_of_isDigit _ digit) left
      have read := readWhole?_digit digit notZero (lettersOf left)
      rw [← letters, ← lettersOf_behindDigits] at read
      exact digits_ensures ⟨_, read⟩
    · exact skip_bind (stop _)

theorem length_takeWhile_isDigit (bytes : List UInt8) :
    ((lettersOf bytes).takeWhile isDigit).length =
      (bytes.takeWhile (isDigit ∘ markOf)).length := by
  rw [lettersOf_takeWhile small_of_isDigit, List.length_map]

theorem fractionPart_ensures :
    Ensures (Scan.fractionPart isUsed) bytes fun _ rest =>
      ∃ digits, readFraction? (lettersOf bytes) = some (digits, lettersOf rest) := by
  refine peek_bind (fun empty => ?_) fun byte left same => ?_
  · subst empty
    exact Ensures.pure ⟨none, rfl⟩
  subst same
  split
  next point =>
    rw [lettersOf_mark (Option.some.inj point) (by decide), Json.readFraction?_point]
    refine skip_bind (digits_bind ?_)
    split
    · exact peek_bind (fun _ => by split <;> exact stopAtNext _) fun _ _ _ => stopAtNext _
    next some? =>
      rw [← length_takeWhile_isDigit, List.length_eq_zero_iff] at some?
      rw [if_neg (by simpa using some?), ← lettersOf_behindDigits]
      exact Ensures.pure ⟨_, rfl⟩
  next noPoint =>
    obtain ⟨letter, others, same, marks⟩ := exists_lettersOf_cons byte left
    rw [same]
    have different : letter ≠ '.' := fun point =>
      noPoint (congrArg some ((marks '.' (by decide)).1 point))
    refine Ensures.pure ⟨none, ?_⟩
    rw [same]
    exact Json.readFraction?_of_ne different others

theorem exponentDigits_ensures :
    Ensures (Scan.exponentDigits isUsed) bytes fun _ rest =>
      ∃ exponent, readExponentDigits? negative (lettersOf bytes) =
        some (exponent, lettersOf rest) := by
  refine peek_bind (fun _ => stop _) fun byte left same => ?_
  subst same
  dsimp only
  split
  next digit =>
    have some? : ¬((lettersOf (byte :: left)).takeWhile isDigit).isEmpty = true := by
      rw [lettersOf_mark rfl (small_of_isDigit _ digit), List.takeWhile_cons_of_pos digit]
      exact Bool.false_ne_true
    have read : readExponentDigits? negative (lettersOf (byte :: left)) =
        some (some (negative, (lettersOf (byte :: left)).takeWhile isDigit),
          (lettersOf (byte :: left)).drop
            ((lettersOf (byte :: left)).takeWhile isDigit).length) := if_neg some?
    rw [← lettersOf_behindDigits] at read
    exact digits_ensures ⟨_, read⟩
  · exact skip_bind (stop _)

/-- The digits of an exponent are read behind the sign that is passed over before them. -/
theorem signed_ensures (next : UInt8) (behind : List UInt8) :
    Ensures
      (if (some (markOf next)).any fun letter => decide (letter = '+' ∨ letter = '-') then do
          Scan.skip
          Scan.exponentDigits isUsed
        else Scan.exponentDigits isUsed)
      (next :: behind) fun _ rest =>
        ∃ exponent, readSigned? (lettersOf (next :: behind)) = some (exponent, lettersOf rest) := by
  split
  next signed =>
    rcases of_decide_eq_true signed with plus | minus
    · rw [lettersOf_mark plus (by decide)]
      exact skip_bind exponentDigits_ensures
    · rw [lettersOf_mark minus (by decide)]
      exact skip_bind exponentDigits_ensures
  next unsigned =>
    obtain ⟨letter, others, same, marks⟩ := exists_lettersOf_cons next behind
    have different : letter ≠ '-' ∧ letter ≠ '+' := by
      refine ⟨fun minus => unsigned ?_, fun plus => unsigned ?_⟩
      · exact decide_eq_true (Or.inr ((marks '-' (by decide)).1 minus))
      · exact decide_eq_true (Or.inl ((marks '+' (by decide)).1 plus))
    have read : readSigned? (lettersOf (next :: behind)) =
        readExponentDigits? false (lettersOf (next :: behind)) := by
      rw [same]
      exact Json.readSigned?_of_ne different.1 different.2 others
    rw [read]
    exact exponentDigits_ensures

theorem exponentPart_ensures :
    Ensures (Scan.exponentPart isUsed) bytes fun _ rest =>
      ∃ exponent, readExponent? (lettersOf bytes) = some (exponent, lettersOf rest) := by
  refine peek_bind (fun empty => ?_) fun byte left same => ?_
  · subst empty
    exact Ensures.pure ⟨none, rfl⟩
  subst same
  obtain ⟨letter, others, same, marks⟩ := exists_lettersOf_cons byte left
  split
  next marked =>
    have isExponent := of_decide_eq_true marked
    have letters : lettersOf (byte :: left) = markOf byte :: lettersOf left := by
      rcases isExponent with small | capital
      · exact lettersOf_mark rfl (by rw [small]; decide) left
      · exact lettersOf_mark rfl (by rw [capital]; decide) left
    rw [letters, Json.readExponent?_cons, if_pos isExponent]
    refine skip_bind (peek_bind (fun _ => ?_) fun next behind same => ?_)
    · rintro _ _ ⟨⟩
    · subst same
      exact signed_ensures next behind
  next unmarked =>
    have different : ¬(letter = 'e' ∨ letter = 'E') := by
      rintro (small | capital)
      · exact unmarked (decide_eq_true (Or.inl ((marks 'e' (by decide)).1 small)))
      · exact unmarked (decide_eq_true (Or.inr ((marks 'E' (by decide)).1 capital)))
    refine Ensures.pure ⟨none, ?_⟩
    rw [same, Json.readExponent?_cons, if_neg different]

theorem unsignedText_ensures :
    Ensures (Scan.unsignedText isUsed) bytes fun _ rest =>
      ∃ number, readUnsigned? negative (lettersOf bytes) = some (number, lettersOf rest) := by
  refine wholePart_ensures.bind fun _ left foundWhole => ?_
  refine fractionPart_ensures.bind fun _ behind foundFraction => ?_
  refine exponentPart_ensures.mono fun _ rest foundExponent => ?_
  obtain ⟨whole, foundWhole⟩ := foundWhole
  obtain ⟨fraction, foundFraction⟩ := foundFraction
  obtain ⟨exponent, foundExponent⟩ := foundExponent
  refine ⟨⟨negative, whole, fraction, exponent⟩, ?_⟩
  rw [readUnsigned?, foundWhole]
  dsimp only [Option.bind_eq_bind, Option.bind_some]
  rw [foundFraction]
  dsimp only [Option.bind_some]
  rw [foundExponent]
  rfl

theorem numberText_ensures :
    Ensures (Scan.numberText isUsed) bytes fun _ rest =>
      ∃ number, readNumberText? (lettersOf bytes) = some (number, lettersOf rest) := by
  refine peek_bind (fun empty => ?_) fun byte left same => ?_
  · subst empty
    exact wholePart_ensures.bind fun _ _ found => absurd found (by rintro ⟨_, ⟨⟩⟩)
  subst same
  split
  next minus =>
    rw [lettersOf_mark (Option.some.inj minus) (by decide)]
    exact skip_bind unsignedText_ensures
  next noMinus =>
    obtain ⟨letter, others, same, marks⟩ := exists_lettersOf_cons byte left
    have read : readNumberText? (lettersOf (byte :: left)) =
        readUnsigned? false (lettersOf (byte :: left)) := by
      rw [same]
      exact Json.readNumberText?_of_ne
        (fun minus => noMinus (congrArg some ((marks '-' (by decide)).1 minus))) others
    rw [read]
    exact unsignedText_ensures

theorem numberOf_ensures (letters : List Char) :
    Ensures (Scan.numberOf letters) bytes fun value rest =>
      bytes = rest ∧ value ≠ .unreadable ∧
        ∃ behind, readNumber? letters = some (value, behind) := by
  unfold Scan.numberOf
  split
  · exact stop _
  · exact stop _
  next value behind readable found =>
    exact Ensures.pure ⟨rfl, readable, behind, found⟩

/-- What follows the letters of which numbers are made is no part of a number. -/
theorem readNumber?_of_takeWhile {letters behind : List Char} {value : Json}
    (found : readNumber? (letters.takeWhile Scan.isNumeric) = some (value, behind)) :
    ∃ more, readNumber? letters = some (value, more) := by
  have split := List.takeWhile_append_dropWhile (p := Scan.isNumeric) (l := letters)
  cases ends : letters.dropWhile Scan.isNumeric with
  | nil =>
      rw [ends, List.append_nil] at split
      rw [split] at found
      exact ⟨behind, found⟩
  | cons last more =>
      have noNumber : Scan.isNumeric last = false := by
        have first := List.head?_dropWhile_not Scan.isNumeric letters
        rw [ends] at first
        simpa using first
      rw [← split, ends]
      exact ⟨_, Json.readNumber?_append noNumber found⟩

/-- A number that is used has the value of the one that is read. -/
theorem number_ensures :
    Ensures Scan.number bytes fun value rest =>
      readNumber? (lettersOf bytes) = some (value, lettersOf rest) ∧ value ≠ .unreadable := by
  intro value rest passed
  rw [Scan.number_eq] at passed
  obtain ⟨_, left, passedText, valued⟩ := Scan.bind_eq_ok.1 passed
  obtain ⟨number, foundText⟩ := numberText_ensures () left passedText
  obtain ⟨rfl, readable, behind, found⟩ := numberOf_ensures _ value rest valued
  rw [← lettersOf_takeWhile small_of_isNumeric] at found
  obtain ⟨more, found⟩ := readNumber?_of_takeWhile found
  have whole : readNumber? (lettersOf bytes) = some (number.value, lettersOf left) := by
    rw [readNumber?, foundText]
    rfl
  rw [whole] at found ⊢
  cases found
  exact ⟨rfl, readable⟩

end Body

end LoadChart
