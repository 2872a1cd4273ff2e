import LoadChart.Proofs.Json.Steps

/-!
# Passing over what could be used

A text that is read as a value of some form is also passed over where no value is wanted, and to the
same place.  Strings need care: a surrogate pair is one character of a string that is used, and two
escapes of one that is not.
-/

namespace LoadChart

namespace Scan

variable {α β γ δ : Type}

/-- Where `first` passes over a part of some bytes, `second` passes over the same part. -/
def PassedBy (first : Scan α) (second : Scan β) (bytes : List UInt8) : Prop :=
  ∀ value rest, first bytes = .ok value rest → ∃ other, second bytes = .ok other rest

namespace PassedBy

variable {first : Scan α} {second : Scan β} {bytes : List UInt8}

theorem refl (scan : Scan α) (bytes : List UInt8) : PassedBy scan scan bytes :=
  fun value _ passed => ⟨value, passed⟩

theorem bind {next : α → Scan γ} {next' : β → Scan δ} (step : PassedBy first second bytes)
    (rest : ∀ value other left, PassedBy (next value) (next' other) left) :
    PassedBy (first >>= next) (second >>= next') bytes := by
  intro value final passed
  obtain ⟨middle, left, passedFirst, passedNext⟩ := bind_eq_ok.1 passed
  obtain ⟨other, passedSecond⟩ := step middle left passedFirst
  obtain ⟨last, passedLast⟩ := rest middle other left value final passedNext
  exact ⟨last, bind_eq_ok.2 ⟨other, left, passedSecond, passedLast⟩⟩

theorem pure (value : α) (other : β) : PassedBy (pure value) (pure other) bytes := by
  rintro _ _ ⟨⟩
  exact ⟨other, rfl⟩

theorem stop (flaw : Flaw) : PassedBy (stop flaw : Scan α) second bytes := by
  rintro _ _ ⟨⟩

theorem stopAtNext (flaw : Flaw) : PassedBy (stopAtNext flaw : Scan α) second bytes := by
  rintro _ _ ⟨⟩

theorem stopSomewhere (flaw : Flaw) : PassedBy (stopSomewhere flaw : Scan α) second bytes := by
  rintro _ _ ⟨⟩

theorem placed (step : PassedBy first second bytes) : PassedBy (placed first) second bytes :=
  fun value rest passed => step value rest (placed_eq_ok.1 passed)

theorem closedBy {close : Scan Unit}
    (step : PassedBy (first >>= fun _ => close) second bytes) :
    PassedBy (closedBy first close) second bytes := by
  intro value rest passed
  obtain ⟨left, passedFirst, closed⟩ := closedBy_eq_ok.1 passed
  exact step () rest (bind_eq_ok.2 ⟨value, left, passedFirst, closed⟩)

theorem skip_bind {next : Unit → Scan α} {next' : Unit → Scan β} {byte : UInt8}
    {rest : List UInt8} (after : PassedBy (next ()) (next' ()) rest) :
    PassedBy (skip >>= next) (skip >>= next') (byte :: rest) := after

theorem peek_bind {next : Option Char → Scan α} {next' : Option Char → Scan β}
    (onEnd : PassedBy (next none) (next' none) [])
    (onByte : ∀ byte rest,
      PassedBy (next (some (markOf byte))) (next' (some (markOf byte))) (byte :: rest)) :
    PassedBy (peek >>= next) (peek >>= next') bytes := by
  intro value final passed
  cases bytes with
  | nil => exact onEnd value final passed
  | cons byte rest => exact onByte byte rest value final passed

theorem bind_same {scan : Scan γ} {next : γ → Scan α} {next' : γ → Scan β}
    (rest : ∀ value left, PassedBy (next value) (next' value) left) :
    PassedBy (scan >>= next) (scan >>= next') bytes := by
  intro value final passed
  obtain ⟨middle, left, passedFirst, passedNext⟩ := bind_eq_ok.1 passed
  obtain ⟨last, passedLast⟩ := rest middle left value final passedNext
  exact ⟨last, bind_eq_ok.2 ⟨middle, left, passedFirst, passedLast⟩⟩

theorem wholePart : PassedBy (wholePart true) (wholePart false) bytes := by
  refine peek_bind (stop _) fun byte rest => ?_
  split
  · contradiction
  · exact refl _ _
  · exact refl _ _

theorem fractionPart : PassedBy (fractionPart true) (fractionPart false) bytes := by
  refine peek_bind (pure _ _) fun byte rest => ?_
  split
  · refine skip_bind (bind_same fun count left => ?_)
    split
    · refine peek_bind (stopAtNext _) fun byte rest => stopAtNext _
    · exact pure _ _
  · exact pure _ _

theorem exponentDigits : PassedBy (exponentDigits true) (exponentDigits false) bytes :=
  peek_bind (stop _) fun _ _ => refl _ _

theorem exponentPart : PassedBy (exponentPart true) (exponentPart false) bytes := by
  refine peek_bind (pure _ _) fun byte rest => ?_
  split
  · refine skip_bind (peek_bind exponentDigits fun byte rest => ?_)
    dsimp only
    split
    · exact skip_bind exponentDigits
    · exact exponentDigits
  · exact pure _ _

theorem unsignedText : PassedBy (unsignedText true) (unsignedText false) bytes :=
  bind wholePart fun _ _ _ => bind fractionPart fun _ _ _ => exponentPart

theorem numberText : PassedBy (numberText true) (numberText false) bytes := by
  refine peek_bind unsignedText fun byte rest => ?_
  split
  · exact skip_bind unsignedText
  · exact unsignedText

theorem bind_test {next : α → Scan γ} (step : PassedBy first second bytes)
    (test : ∀ value left, PassedBy (next value) (Pure.pure () : Scan Unit) left) :
    PassedBy (first >>= next) second bytes := by
  intro value final passed
  obtain ⟨middle, left, passedFirst, tested⟩ := bind_eq_ok.1 passed
  obtain ⟨_, still⟩ := test middle left value final tested
  obtain ⟨_, rfl⟩ := pure_eq_ok.1 still
  exact step middle left passedFirst

theorem numberOf (letters : List Char) :
    PassedBy (numberOf letters) (Pure.pure () : Scan Unit) bytes := by
  unfold Scan.numberOf
  split
  · exact stop _
  · exact stop _
  · exact pure _ _

theorem number : PassedBy number (Scan.numberText false) bytes := by
  intro value rest passed
  rw [number_eq] at passed
  exact bind_test numberText (fun _ _ => numberOf _) value rest passed

end PassedBy

theorem not_control_of_mark {byte : UInt8} (mark : markOf byte = '\\') : ¬byte < 0x20 := by
  have number := toNat_markOf byte
  rw [mark] at number
  rw [UInt8.lt_iff_toNat_lt, ← number]
  decide

theorem escapeLetter_eq_ok {letter : Char} {bytes rest : List UInt8} :
    escapeLetter letter bytes = .ok () rest ↔
      ∃ byte, bytes = byte :: rest ∧ markOf byte = letter := by
  cases bytes with
  | nil =>
      constructor
      · rintro ⟨⟩
      · rintro ⟨_, ⟨⟩, _⟩
  | cons byte left =>
      have unfolded : escapeLetter letter (byte :: left) =
          (if markOf byte ≠ letter then stop .unfinishedEscape else pure () : Scan Unit) left := rfl
      rw [unfolded]
      by_cases same : markOf byte = letter
      · rw [if_neg (not_not_intro same)]
        constructor
        · rintro ⟨⟩
          exact ⟨byte, rfl, same⟩
        · rintro ⟨_, ⟨⟩, _⟩
          rfl
      · rw [if_pos same]
        constructor
        · rintro ⟨⟩
        · rintro ⟨_, ⟨⟩, equal⟩
          exact absurd equal same

/-- Behind its first letter an escape in a string that is used is one unit, or the two of a
surrogate pair. -/
theorem escapedCharacter_used {bytes rest : List UInt8} {value : Char}
    (passed : escapedCharacter true bytes = .ok value rest) :
    ∃ leading left, escapedUnit bytes = .ok leading left ∧
      (left = rest ∨ ∃ slash letter behind trailing, left = slash :: letter :: behind ∧
        markOf slash = '\\' ∧ markOf letter = 'u' ∧ escapedUnit behind = .ok trailing rest) := by
  obtain ⟨leading, left, passedUnit, passed⟩ := bind_eq_ok.1 passed
  refine ⟨leading, left, passedUnit, ?_⟩
  dsimp only at passed
  split at passed
  · cases passed
    exact Or.inl rfl
  split at passed
  · cases passed
    exact Or.inl rfl
  split at passed
  · cases passed
  obtain ⟨_, afterSlash, slashPassed, behindSlash⟩ := bind_eq_ok.1 passed
  obtain ⟨_, afterLetter, letterPassed, behindLetter⟩ := bind_eq_ok.1 behindSlash
  obtain ⟨trailing, final, trailingPassed, ended⟩ := bind_eq_ok.1 behindLetter
  obtain ⟨slash, rfl, slashMark⟩ := escapeLetter_eq_ok.1 slashPassed
  obtain ⟨letter, rfl, letterMark⟩ := escapeLetter_eq_ok.1 letterPassed
  split at ended
  · cases ended
  · obtain ⟨_, rfl⟩ := pure_eq_ok.1 ended
    exact Or.inr ⟨slash, letter, afterLetter, trailing, rfl, slashMark, letterMark, trailingPassed⟩

theorem escape_eq (isUsed : Bool) (byte : UInt8) (rest : List UInt8) :
    escape isUsed (byte :: rest) =
      (if markOf byte = 'u' then do return String.utf8EncodeChar (← escapedCharacter isUsed)
      else
        match Json.escapedLetter? (markOf byte) with
        | some value => return String.utf8EncodeChar value
        | none => stop .invalidEscape : Scan (List UInt8)) rest := rfl

theorem escape_unit {byte : UInt8} {bytes rest : List UInt8} {value : Nat}
    (mark : markOf byte = 'u') (passed : escapedUnit bytes = .ok value rest) :
    escape false (byte :: bytes) = .ok (String.utf8EncodeChar default) rest := by
  rw [escape_eq, if_pos mark]
  refine bind_eq_ok.2 ⟨default, rest, ?_, rfl⟩
  exact bind_eq_ok.2 ⟨value, rest, passed, rfl⟩

/-- An escape in a string that is used is one escape, or the two of a surrogate pair. -/
theorem escape_used {bytes rest value : List UInt8} (passed : escape true bytes = .ok value rest) :
    (∃ other, escape false bytes = .ok other rest ∧ rest.length < bytes.length) ∨
      ∃ other slash left trailing, escape false bytes = .ok other (slash :: left) ∧
        markOf slash = '\\' ∧ escape false left = .ok trailing rest ∧
        rest.length < left.length ∧ left.length + 1 < bytes.length := by
  cases bytes with
  | nil => cases passed
  | cons byte bytes =>
      have whole := passed
      rw [escape_eq] at passed
      split at passed
      next unit =>
        obtain ⟨character, _, passedCharacter, ⟨⟩⟩ := bind_eq_ok.1 passed
        obtain ⟨leading, left, passedUnit, alternatives⟩ := escapedCharacter_used passedCharacter
        have first := escape_unit unit passedUnit
        obtain ⟨_, _, _, _, rfl, _⟩ := escapedUnit_eq_ok.1 passedUnit
        rcases alternatives with rfl | pair
        · exact Or.inl ⟨_, first, by simp only [List.length_cons]; omega⟩
        · obtain ⟨slash, letter, behind, trailing, rfl, mark, unitMark, second⟩ := pair
          have secondPassed := escape_unit unitMark second
          obtain ⟨_, _, _, _, rfl, _⟩ := escapedUnit_eq_ok.1 second
          exact Or.inr ⟨_, slash, _, _, first, mark, secondPassed,
            by simp only [List.length_cons]; omega, by simp only [List.length_cons]; omega⟩
      next other =>
        have same : escape false (byte :: bytes) = escape true (byte :: bytes) := by
          rw [escape_eq, escape_eq, if_neg other, if_neg other]
        refine Or.inl ⟨value, same.trans whole, ?_⟩
        cases found : Json.escapedLetter? (markOf byte) with
        | none =>
            rw [found] at passed
            cases passed
        | some letter =>
            rw [found] at passed
            cases passed
            simp

/-- A string that is used is passed over where it is not, with fuel for every byte. -/
theorem stringBytes_unused {fuel : Nat} {bytes rest value : List UInt8}
    (passed : stringBytes true fuel bytes = .ok value rest) {enough : Nat}
    (long : bytes.length < enough) :
    ∃ other, stringBytes false enough bytes = .ok other rest := by
  induction fuel generalizing bytes value enough with
  | zero => cases passed
  | succ fuel induction =>
      obtain ⟨enough, rfl⟩ : ∃ less, enough = less + 1 := ⟨enough - 1, by omega⟩
      cases bytes with
      | nil => cases passed
      | cons byte bytes =>
          have longer : bytes.length < enough := by simpa using long
          obtain ⟨printable, ended | escaped | plain⟩ := stringBytes_cases passed
          · obtain ⟨quote, rfl, rfl⟩ := ended
            exact ⟨[], stringBytes_of_quote printable quote⟩
          · obtain ⟨slash, character, left, tail, passedEscape, passedTail, rfl⟩ := escaped
            rcases escape_used passedEscape with one | two
            · obtain ⟨own, first, shorter⟩ := one
              obtain ⟨others, passedOthers⟩ :=
                induction passedTail (Nat.lt_trans shorter longer)
              exact ⟨own ++ others, stringBytes_of_escape printable slash first passedOthers⟩
            · -- The second escape of a pair is one more turn of a string that is not used.
              obtain ⟨own, mark, behind, pair, first, isSlash, second, shorter, short⟩ := two
              obtain ⟨further, rfl⟩ : ∃ less, enough = less + 1 := ⟨enough - 1, by omega⟩
              have room : left.length < further := by omega
              obtain ⟨others, passedOthers⟩ := induction passedTail room
              have secondPassed : stringBytes false (further + 1) (mark :: behind) =
                  .ok (pair ++ others) rest :=
                stringBytes_of_escape (not_control_of_mark isSlash) isSlash second passedOthers
              exact ⟨own ++ (pair ++ others),
                stringBytes_of_escape printable slash first secondPassed⟩
          · obtain ⟨noQuote, noEscape, tail, passedTail, rfl⟩ := plain
            obtain ⟨others, passedOthers⟩ := induction passedTail longer
            exact ⟨byte :: others,
              stringBytes_of_letter printable noQuote noEscape passedOthers⟩

namespace PassedBy

variable {bytes : List UInt8}

theorem textOf (letters : List UInt8) :
    PassedBy (textOf letters) (Pure.pure () : Scan Unit) bytes := by
  unfold Scan.textOf
  split
  · exact pure _ _
  · exact stop _

theorem string : PassedBy string unusedString bytes := by
  intro value rest passed
  cases bytes with
  | nil => cases passed
  | cons byte bytes =>
      have read : PassedBy (stringBytes true (bytes.length + 1))
          (discard (stringBytes false (bytes.length + 1))) bytes := by
        intro letters left passedBytes
        obtain ⟨other, passedOther⟩ := stringBytes_unused passedBytes (Nat.lt_succ_self _)
        have unusedPassed :
            (stringBytes false (bytes.length + 1) >>= fun _ => Pure.pure ()) bytes = .ok () left :=
          bind_eq_ok.2 ⟨other, left, passedOther, rfl⟩
        exact ⟨(), unusedPassed⟩
      rw [string_cons] at passed
      rw [unusedString_cons]
      exact bind_test read (fun letters _ => textOf letters) value rest passed

theorem unflawed (flaw? : Option Flaw) :
    PassedBy (unflawed flaw?) (Pure.pure () : Scan Unit) bytes := by
  cases flaw? with
  | none => exact refl _ _
  | some flaw => exact stopSomewhere _

end PassedBy

end Scan

end LoadChart
