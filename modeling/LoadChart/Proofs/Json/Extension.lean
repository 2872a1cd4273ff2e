import LoadChart.Proofs.Json.ReaderExtension
import LoadChart.Proofs.Json.Steps

/-!
# Scanning with more behind

A step that passes over a text passes over the same part of it when a closing brace and more text
follow, or nothing, if it has more fuel.  No value of JSON goes on with such a brace, so this holds
even of numbers, whose end is only seen by what comes next.
-/

namespace LoadChart

namespace Scan

variable {α β : Type}

/-- Nothing, or what begins with a closing brace. -/
class Closed (tail : List UInt8) : Prop where
  eq_nil_or_cons : tail = [] ∨ ∃ more, tail = 125 :: more

instance : Closed [] := ⟨Or.inl rfl⟩

instance (more : List UInt8) : Closed (125 :: more) := ⟨Or.inr ⟨more, rfl⟩⟩

theorem dropWhile_append_closed {test : Char → Bool} (stops : test '\x7d' = false)
    (bytes tail : List UInt8) [closed : Closed tail] :
    (bytes ++ tail).dropWhile (test ∘ markOf) = bytes.dropWhile (test ∘ markOf) ++ tail := by
  rcases closed.eq_nil_or_cons with rfl | ⟨more, rfl⟩
  · rw [List.append_nil, List.append_nil]
  · have stopsByte : (test ∘ markOf) 125 = false := stops
    exact dropWhile_append_cons stopsByte bytes more

theorem takeWhile_append_closed {test : Char → Bool} (stops : test '\x7d' = false)
    (bytes tail : List UInt8) [closed : Closed tail] :
    (bytes ++ tail).takeWhile (test ∘ markOf) = bytes.takeWhile (test ∘ markOf) := by
  rcases closed.eq_nil_or_cons with rfl | ⟨more, rfl⟩
  · rw [List.append_nil]
  · have stopsByte : (test ∘ markOf) 125 = false := stops
    exact takeWhile_append_cons stopsByte bytes more

/-- What `first` passes over in some bytes, `second` passes over with a tail behind them. -/
def Extends (tail : List UInt8) (first second : Scan α) (bytes : List UInt8) : Prop :=
  ∀ value rest, first bytes = .ok value rest → second (bytes ++ tail) = .ok value (rest ++ tail)

namespace Extends

variable {tail : List UInt8} {first second : Scan α} {bytes : List UInt8}

theorem bind {next next' : α → Scan β} (step : Extends tail first second bytes)
    (rest : ∀ value left, Extends tail (next value) (next' value) left) :
    Extends tail (first >>= next) (second >>= next') bytes := by
  intro value final passed
  obtain ⟨middle, left, passedFirst, passedNext⟩ := bind_eq_ok.1 passed
  exact bind_eq_ok.2
    ⟨middle, left ++ tail, step middle left passedFirst, rest middle left value final passedNext⟩

theorem pure (value : α) : Extends tail (pure value) (pure value) bytes := by
  rintro _ _ ⟨⟩
  rfl

theorem stop (flaw : Flaw) : Extends tail (stop flaw) second bytes := by
  rintro _ _ ⟨⟩

theorem stopAtNext (flaw : Flaw) : Extends tail (stopAtNext flaw) second bytes := by
  rintro _ _ ⟨⟩

theorem stopSomewhere (flaw : Flaw) : Extends tail (stopSomewhere flaw) second bytes := by
  rintro _ _ ⟨⟩

theorem otherKind (wanted : String) {second : Scan α} :
    Extends tail (otherKind wanted) second bytes :=
  fun _ _ passed => absurd passed otherKind_ne_ok

theorem placed (step : Extends tail first second bytes) :
    Extends tail (placed first) (placed second) bytes := by
  intro value rest passed
  exact placed_eq_ok.2 (step value rest (placed_eq_ok.1 passed))

theorem closedBy {close close' : Scan Unit} (step : Extends tail first second bytes)
    (closing : ∀ left, Extends tail close close' left) :
    Extends tail (closedBy first close) (closedBy second close') bytes := by
  intro value final passed
  obtain ⟨left, passedFirst, closed⟩ := closedBy_eq_ok.1 passed
  exact closedBy_eq_ok.2 ⟨_, step value left passedFirst, closing left () final closed⟩

theorem skip {byte : UInt8} {rest : List UInt8} :
    Extends tail Scan.skip Scan.skip (byte :: rest) := by
  rintro _ _ ⟨⟩
  rfl

theorem skip_bind {next next' : Unit → Scan β} {byte : UInt8} {rest : List UInt8}
    (after : Extends tail (next ()) (next' ()) rest) :
    Extends tail (Scan.skip >>= next) (Scan.skip >>= next') (byte :: rest) := after

theorem numberOf (letters : List Char) :
    Extends tail (numberOf letters) (numberOf letters) bytes := by
  unfold Scan.numberOf
  split
  · exact stop _
  · exact stop _
  · exact pure _

theorem escapedUnit : Extends tail escapedUnit escapedUnit bytes := by
  intro value rest passed
  obtain ⟨first, second, third, fourth, rfl, found⟩ := escapedUnit_eq_ok.1 passed
  exact escapedUnit_eq_ok.2 ⟨first, second, third, fourth, rfl, found⟩

theorem textOf (letters : List UInt8) : Extends tail (textOf letters) (textOf letters) bytes := by
  unfold Scan.textOf
  split
  · exact pure _
  · exact stop _

theorem unflawed (flaw? : Option Flaw) : Extends tail (unflawed flaw?) (unflawed flaw?) bytes := by
  cases flaw? with
  | none => exact pure _
  | some flaw => exact stopSomewhere _

variable [closed : Closed tail]

theorem peek_bind {next next' : Option Char → Scan β}
    (onEnd : Extends tail (next none) (next' none) [])
    (onBrace : Extends tail (next none) (next' (some '\x7d')) [])
    (onByte : ∀ byte rest,
      Extends tail (next (some (markOf byte))) (next' (some (markOf byte))) (byte :: rest)) :
    Extends tail (peek >>= next) (peek >>= next') bytes := by
  intro value final passed
  cases bytes with
  | nil =>
      rcases closed.eq_nil_or_cons with rfl | ⟨more, rfl⟩
      · exact onEnd value final passed
      · exact onBrace value final passed
  | cons byte rest => exact onByte byte rest value final passed

theorem peekMark_bind {next next' : Option Char → Scan β}
    (onEnd : Extends tail (next none) (next' none) [])
    (onBrace : Extends tail (next none) (next' (some '\x7d')) [])
    (onByte : ∀ byte rest,
      Extends tail (next (some (markOf byte))) (next' (some (markOf byte))) (byte :: rest)) :
    Extends tail (peekMark >>= next) (peekMark >>= next') bytes := by
  intro value final passed
  rw [peekMark_bind_eq] at passed ⊢
  rw [dropWhile_append_closed rfl]
  exact peek_bind onEnd onBrace onByte value final passed

theorem peekValue_bind {next next' : Char → Scan β}
    (onByte : ∀ byte rest, Extends tail (next (markOf byte)) (next' (markOf byte)) (byte :: rest)) :
    Extends tail (peekValue >>= next) (peekValue >>= next') bytes := by
  unfold peekValue
  simp only [bind_assoc]
  exact peekMark_bind (stopAtNext _) (stopAtNext _) onByte

theorem word (letters : List Char) : Extends tail (word letters) (word letters) bytes := by
  induction letters generalizing bytes with
  | nil => exact pure ()
  | cons letter letters induction =>
      unfold Scan.word
      refine peek_bind (stop _) (stop _) fun byte rest => skip_bind ?_
      split
      · exact induction
      · exact stop _

theorem digits : Extends tail digits digits bytes := by
  rintro _ _ ⟨⟩
  have count : ((bytes ++ tail).takeWhile (isDigit ∘ markOf)).length =
      (bytes.takeWhile (isDigit ∘ markOf)).length :=
    congrArg List.length (takeWhile_append_closed rfl bytes tail)
  have within : (bytes.takeWhile (isDigit ∘ markOf)).length ≤ bytes.length :=
    (List.takeWhile_sublist _).length_le
  calc
    Scan.digits (bytes ++ tail)
      = .ok ((bytes ++ tail).takeWhile (isDigit ∘ markOf)).length
          ((bytes ++ tail).drop ((bytes ++ tail).takeWhile (isDigit ∘ markOf)).length) := rfl
    _ = _ := by rw [count, List.drop_append_of_le_length within]

theorem discard_digits : Extends tail (discard Scan.digits) (discard Scan.digits) bytes := by
  exact bind digits fun _ _ => pure ()

theorem wholePart (isUsed : Bool) : Extends tail (wholePart isUsed) (wholePart isUsed) bytes := by
  unfold Scan.wholePart
  refine peek_bind (stop _) (stop _) fun byte rest => ?_
  split
  · contradiction
  · refine skip_bind (peek_bind (pure ()) (pure ()) fun byte rest => ?_)
    split
    · exact stopAtNext _
    · exact pure ()
  · split
    · exact discard_digits
    · exact skip_bind (stop _)

theorem fractionPart (isUsed : Bool) :
    Extends tail (fractionPart isUsed) (fractionPart isUsed) bytes := by
  unfold Scan.fractionPart
  refine peek_bind (pure ()) (pure ()) fun byte rest => ?_
  split
  · refine skip_bind (bind digits fun count left => ?_)
    split
    · refine peek_bind (stopAtNext _) (stopAtNext _) fun byte rest => stopAtNext _
    · exact pure ()
  · exact pure ()

theorem exponentDigits (isUsed : Bool) :
    Extends tail (exponentDigits isUsed) (exponentDigits isUsed) bytes := by
  unfold Scan.exponentDigits
  refine peek_bind (stop _) (stop _) fun byte rest => ?_
  dsimp only
  split
  · exact discard_digits
  · exact skip_bind (stop _)

theorem exponentPart (isUsed : Bool) :
    Extends tail (exponentPart isUsed) (exponentPart isUsed) bytes := by
  unfold Scan.exponentPart
  refine peek_bind (pure ()) (pure ()) fun byte rest => ?_
  split
  · refine skip_bind (peek_bind (exponentDigits isUsed) (exponentDigits isUsed) fun byte rest => ?_)
    dsimp only
    split
    · exact skip_bind (exponentDigits isUsed)
    · exact exponentDigits isUsed
  · exact pure ()

theorem unsignedText (isUsed : Bool) :
    Extends tail (unsignedText isUsed) (unsignedText isUsed) bytes :=
  bind (wholePart isUsed) fun _ _ => bind (fractionPart isUsed) fun _ _ => exponentPart isUsed

theorem numberText (isUsed : Bool) :
    Extends tail (numberText isUsed) (numberText isUsed) bytes := by
  unfold Scan.numberText
  refine peek_bind (unsignedText isUsed) (unsignedText isUsed) fun byte rest => ?_
  split
  · exact skip_bind (unsignedText isUsed)
  · exact unsignedText isUsed

theorem number : Extends tail number number bytes := by
  intro value rest passed
  rw [number_eq] at passed ⊢
  rw [takeWhile_append_closed rfl]
  exact bind (numberText true) (fun _ _ => numberOf _) value rest passed

theorem peekInString_bind {β : Type} {next next' : Char → Scan β}
    (onByte : ∀ byte rest, Extends tail (next (markOf byte)) (next' (markOf byte)) (byte :: rest)) :
    Extends tail (peekInString >>= next) (peekInString >>= next') bytes := by
  unfold Scan.peekInString
  simp only [bind_assoc]
  exact peek_bind (stop _) (stop _) onByte

theorem escapeLetter (letter : Char) :
    Extends tail (escapeLetter letter) (escapeLetter letter) bytes := by
  refine peekInString_bind fun byte rest => skip_bind ?_
  split
  · exact stop _
  · exact pure ()

theorem escapedCharacter (isUsed : Bool) :
    Extends tail (escapedCharacter isUsed) (escapedCharacter isUsed) bytes := by
  refine bind escapedUnit fun leading left => ?_
  dsimp only
  split
  · exact pure _
  split
  · exact pure _
  split
  · exact stop _
  refine bind (escapeLetter _) fun _ _ => bind (escapeLetter _) fun _ _ =>
    bind escapedUnit fun trailing left => ?_
  split
  · exact stop _
  · exact pure _

theorem escape (isUsed : Bool) : Extends tail (escape isUsed) (escape isUsed) bytes := by
  refine peekInString_bind fun byte rest => skip_bind ?_
  split
  · exact bind (escapedCharacter isUsed) fun _ _ => pure _
  · split
    · exact pure _
    · exact stop _

theorem stringBytes (isUsed : Bool) {fuel more : Nat} (enough : fuel ≤ more) :
    Extends tail (stringBytes isUsed fuel) (stringBytes isUsed more) bytes := by
  induction fuel generalizing more bytes with
  | zero => exact stop _
  | succ fuel induction =>
      obtain ⟨more, rfl⟩ : ∃ less, more = less + 1 := ⟨more - 1, by omega⟩
      have further : ∀ bytes,
          Extends tail (Scan.stringBytes isUsed fuel) (Scan.stringBytes isUsed more) bytes :=
        fun _ => induction (Nat.le_of_succ_le_succ enough)
      intro value final passed
      cases bytes with
      | nil => cases passed
      | cons byte bytes =>
          obtain ⟨printable, ended | escaped | plain⟩ := stringBytes_cases passed
          · obtain ⟨quote, rfl, rfl⟩ := ended
            exact stringBytes_of_quote printable quote
          · obtain ⟨slash, own, left, others, passedEscape, passedOthers, rfl⟩ := escaped
            exact stringBytes_of_escape printable slash
              (escape isUsed own left passedEscape) (further left others final passedOthers)
          · obtain ⟨noQuote, noEscape, others, passedOthers, rfl⟩ := plain
            exact stringBytes_of_letter printable noQuote noEscape
              (further bytes others final passedOthers)

theorem unusedString : Extends tail unusedString unusedString bytes := by
  intro value final passed
  cases bytes with
  | nil => cases passed
  | cons byte bytes =>
      have longer : bytes.length + 1 ≤ (bytes ++ tail).length + 1 := by simp
      rw [unusedString_cons] at passed
      rw [List.cons_append, unusedString_cons]
      exact bind (stringBytes false longer) (fun _ _ => pure ()) value final passed

theorem string : Extends tail string string bytes := by
  intro value final passed
  cases bytes with
  | nil => cases passed
  | cons byte bytes =>
      have longer : bytes.length + 1 ≤ (bytes ++ tail).length + 1 := by simp
      rw [string_cons] at passed
      rw [List.cons_append, string_cons]
      exact bind (stringBytes true longer) (fun letters _ => textOf letters) value final passed

theorem listEnd : Extends tail listEnd listEnd bytes := by
  unfold Scan.listEnd
  refine peekMark_bind (stopAtNext _) (stopAtNext _) fun byte rest => ?_
  split
  · exact skip
  · refine skip_bind (peekMark_bind (stopAtNext _) (stopAtNext _) fun byte rest => ?_)
    · split
      · exact stopAtNext _
      · exact stopAtNext _
  · exact stopAtNext _
  · exact stopAtNext _

theorem objectEnd : Extends tail objectEnd objectEnd bytes := by
  unfold Scan.objectEnd
  refine peekMark_bind (stopAtNext _) (stopAtNext _) fun byte rest => ?_
  split
  · exact skip
  · exact stopAtNext _
  · exact stopAtNext _
  · exact stopAtNext _

theorem hasItem (isFirst : Bool) : Extends tail (hasItem isFirst) (hasItem isFirst) bytes := by
  unfold Scan.hasItem
  refine peekMark_bind (stopAtNext _) (stopAtNext _) fun byte rest => ?_
  split
  · exact stopAtNext _
  · exact pure _
  split
  · exact pure _
  split
  · refine skip_bind (peekValue_bind fun byte rest => ?_)
    split
    · exact stopAtNext _
    · exact pure _
  · exact stopAtNext _

theorem hasMember (isFirst : Bool) :
    Extends tail (hasMember isFirst) (hasMember isFirst) bytes := by
  unfold Scan.hasMember
  refine peekMark_bind (stopAtNext _) (stopAtNext _) fun byte rest => ?_
  split
  · exact stopAtNext _
  · exact pure _
  split
  · split
    · exact pure _
    · exact stopAtNext _
  split
  · refine skip_bind (peekValue_bind fun byte rest => ?_)
    split
    · exact pure _
    · exact stopAtNext _
    · exact stopAtNext _
  · exact stopAtNext _

theorem colon : Extends tail colon colon bytes := by
  unfold Scan.colon
  refine peekMark_bind (stopAtNext _) (stopAtNext _) fun byte rest => ?_
  split
  · exact skip
  · exact stopAtNext _
  · exact stopAtNext _

theorem named {next next' : Scan Unit} (behind : ∀ left, Extends tail next next' left) :
    Extends tail (named next) (named next') bytes := by
  unfold Scan.named
  refine peekMark_bind (stopAtNext _) (stopAtNext _) fun byte rest => ?_
  split
  · exact bind unusedString fun _ _ => behind _
  · exact stopAtNext _
  · exact stopAtNext _

end Extends

/-- More fuel goes over values that are not used, the items of a list and the members of an object
with a tail behind. -/
structure UnusedExtends (tail : List UInt8) (fuel more : Nat) : Prop where
  value : ∀ bytes, Extends tail (unused fuel) (unused more) bytes
  items : ∀ bytes, Extends tail (unusedItems fuel) (unusedItems more) bytes
  members : ∀ bytes, Extends tail (unusedMembers fuel) (unusedMembers more) bytes

namespace Extends

variable {tail bytes : List UInt8} [Closed tail] {fuel more : Nat}

theorem unused (longer : UnusedExtends tail fuel more) :
    Extends tail (unused (fuel + 1)) (unused (more + 1)) bytes := by
  unfold Scan.unused
  refine peekValue_bind fun byte rest => ?_
  split
  · exact word _
  · exact word _
  · exact word _
  · exact unusedString
  · refine skip_bind (peekMark_bind (stopAtNext _) (stopAtNext _) fun byte rest => ?_)
    split
    · exact skip
    · exact longer.items _
    · exact stopAtNext _
  · refine skip_bind (peekMark_bind (stopAtNext _) (stopAtNext _) fun byte rest => ?_)
    split
    · exact skip
    · exact longer.members _
    · exact stopAtNext _
  · split
    · exact numberText false
    · exact stopAtNext _

theorem behindItem (longer : UnusedExtends tail fuel more) :
    Extends tail (behindItem fuel) (behindItem more) bytes := by
  refine peekMark_bind (stopAtNext _) (stopAtNext _) fun byte rest => ?_
  split
  · exact skip_bind (longer.items _)
  · exact skip
  · exact stopAtNext _
  · exact stopAtNext _

theorem behindMember (longer : UnusedExtends tail fuel more) :
    Extends tail (behindMember fuel) (behindMember more) bytes := by
  refine peekMark_bind (stopAtNext _) (stopAtNext _) fun byte rest => ?_
  split
  · exact skip_bind (longer.members _)
  · exact skip
  · exact stopAtNext _
  · exact stopAtNext _

theorem behindName (longer : UnusedExtends tail fuel more) :
    Extends tail (behindName fuel) (behindName more) bytes :=
  bind colon fun _ left => bind (longer.value left) fun _ _ => behindMember longer

end Extends

namespace UnusedExtends

variable {tail : List UInt8} [Closed tail] {fuel more : Nat}

theorem succ (longer : UnusedExtends tail fuel more) :
    UnusedExtends tail (fuel + 1) (more + 1) where
  value := fun _ => .unused longer
  items := by
    intro bytes
    rw [unusedItems_succ, unusedItems_succ]
    exact .bind (longer.value bytes) fun _ _ => .behindItem longer
  members := by
    intro bytes
    rw [unusedMembers_succ, unusedMembers_succ]
    exact .named fun _ => .behindName longer

theorem of_le (enough : fuel ≤ more) : UnusedExtends tail fuel more := by
  induction fuel generalizing more with
  | zero => exact ⟨fun _ => .stopSomewhere _, fun _ => .stopSomewhere _, fun _ => .stopSomewhere _⟩
  | succ fuel induction =>
      obtain ⟨more, rfl⟩ : ∃ less, more = less + 1 := ⟨more - 1, by omega⟩
      exact (induction (Nat.le_of_succ_le_succ enough)).succ

end UnusedExtends

end Scan

end LoadChart
