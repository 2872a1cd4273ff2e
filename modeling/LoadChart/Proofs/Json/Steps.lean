import LoadChart.Json.Form
import Mathlib.Data.List.DropRight

/-!
# Steps of scanning

When a step of scanning succeeds, and names for the parts of the steps that are taken in turn.
-/

namespace LoadChart

namespace Scan

variable {α β : Type}

theorem toNat_markOf (byte : UInt8) : (markOf byte).toNat = byte.toNat := by
  have small := byte.toNat_lt
  have valid : byte.toNat.isValidChar := Or.inl (by omega)
  rw [markOf, Char.ofNat, dif_pos valid]
  rfl

theorem bind_eq_ok {first : Scan α} {next : α → Scan β} {bytes rest : List UInt8} {value : β} :
    (first >>= next) bytes = .ok value rest ↔
      ∃ middle left, first bytes = .ok middle left ∧ next middle left = .ok value rest := by
  change EStateM.bind first next bytes = _ ↔ _
  unfold EStateM.bind
  cases first bytes with
  | ok middle left =>
      constructor
      · intro passed
        exact ⟨middle, left, rfl, passed⟩
      · rintro ⟨_, _, ⟨⟩, passed⟩
        exact passed
  | error fault left => simp

theorem bind_of_ok {first : Scan α} {bytes rest : List UInt8} {value : α}
    (passed : first bytes = .ok value rest) (next : α → Scan β) :
    (first >>= next) bytes = next value rest := by
  change EStateM.bind first next bytes = _
  rw [EStateM.bind, passed]

theorem get_bind (next : List UInt8 → Scan β) (bytes : List UInt8) :
    (get >>= next) bytes = next bytes bytes := rfl

theorem pure_eq_ok {value other : α} {bytes rest : List UInt8} :
    (pure value : Scan α) bytes = .ok other rest ↔ value = other ∧ bytes = rest := by
  constructor
  · intro passed
    injection passed with same sameRest
    exact ⟨same, sameRest⟩
  · rintro ⟨rfl, rfl⟩
    rfl

theorem stop_ne_ok {flaw : Flaw} {bytes rest : List UInt8} {value : α} :
    stop flaw bytes ≠ .ok value rest := by
  rintro ⟨⟩

@[simp] theorem stop_bind (flaw : Flaw) (next : α → Scan β) : stop flaw >>= next = stop flaw := rfl

@[simp] theorem stopAtNext_bind (flaw : Flaw) (next : α → Scan β) :
    stopAtNext flaw >>= next = stopAtNext flaw := rfl

@[simp] theorem stopSomewhere_bind (flaw : Flaw) (next : α → Scan β) :
    stopSomewhere flaw >>= next = stopSomewhere flaw := rfl

theorem otherKind_ne_ok {wanted : String} {bytes rest : List UInt8} {value : α} :
    otherKind wanted bytes ≠ .ok value rest := by
  intro passed
  obtain ⟨_, _, _, stopped⟩ := bind_eq_ok.1 passed
  cases stopped

theorem placed_eq_ok {scan : Scan α} {bytes rest : List UInt8} {value : α} :
    placed scan bytes = .ok value rest ↔ scan bytes = .ok value rest := by
  unfold placed
  split
  next failed => simp [failed]
  · rfl

theorem closedBy_eq_ok {scan : Scan α} {close : Scan Unit} {bytes rest : List UInt8} {value : α} :
    closedBy scan close bytes = .ok value rest ↔
      ∃ left, scan bytes = .ok value left ∧ close left = .ok () rest := by
  unfold closedBy
  constructor
  · intro passed
    split at passed
    next found left passedFirst =>
      split at passed
      next closed =>
        cases passed
        exact ⟨left, passedFirst, closed⟩
      · cases passed
    · split at passed <;> cases passed
  · rintro ⟨left, passed, closed⟩
    rw [passed]
    dsimp only
    rw [closed]

/-- Looking at the next mark passes over blanks only. -/
theorem peekMark_bind_eq (next : Option Char → Scan β) (bytes : List UInt8) :
    (peekMark >>= next) bytes = (peek >>= next) (bytes.dropWhile (Json.isSpace ∘ markOf)) := rfl

theorem peekMark_bind_of_mark {next : Option Char → Scan α} {byte : UInt8} {letter : Char}
    (mark : markOf byte = letter) (visible : Json.isSpace letter = false) (rest : List UInt8) :
    (peekMark >>= next) (byte :: rest) = next (some letter) (byte :: rest) := by
  have stays : (byte :: rest).dropWhile (Json.isSpace ∘ markOf) = byte :: rest := by
    rw [List.dropWhile_cons_of_neg]
    simp [mark, visible]
  rw [peekMark_bind_eq, stays, ← mark]
  rfl

theorem peekValue_bind_of_mark {next : Char → Scan α} {byte : UInt8} {letter : Char}
    (mark : markOf byte = letter) (visible : Json.isSpace letter = false) (rest : List UInt8) :
    (peekValue >>= next) (byte :: rest) = next letter (byte :: rest) := by
  unfold peekValue
  rw [bind_assoc, peekMark_bind_of_mark mark visible]
  rfl

/-- A blank in front does not matter to what looks for the next mark. -/
theorem peekMark_bind_blank {byte : UInt8} (blank : Json.isSpace (markOf byte) = true)
    (next : Option Char → Scan α) (bytes : List UInt8) :
    (peekMark >>= next) (byte :: bytes) = (peekMark >>= next) bytes := by
  rw [peekMark_bind_eq, peekMark_bind_eq, List.dropWhile_cons_of_pos (by simpa using blank)]

theorem peekValue_bind_blank {byte : UInt8} (blank : Json.isSpace (markOf byte) = true)
    (next : Char → Scan α) (bytes : List UInt8) :
    (peekValue >>= next) (byte :: bytes) = (peekValue >>= next) bytes := by
  unfold peekValue
  rw [bind_assoc, peekMark_bind_blank blank]

/-- Blanks in front of a value may be passed over before. -/
theorem peekMark_peekValue (next : Char → Scan α) :
    (peekMark >>= fun _ => peekValue >>= next) = (peekValue >>= next) := by
  funext bytes
  unfold peekValue
  rw [bind_assoc, peekMark_bind_eq, peekMark_bind_eq]
  have again : ∀ next : Option Char → Scan α,
      (peekMark >>= next) (bytes.dropWhile (Json.isSpace ∘ markOf)) =
        (peek >>= next) (bytes.dropWhile (Json.isSpace ∘ markOf)) := by
    intro next
    rw [peekMark_bind_eq, List.dropWhile_idempotent]
  refine Eq.trans ?_ (again _)
  rfl

def exponentDigits (isUsed : Bool) : Scan Unit := do
  match ← peek with
  | none => stop (unfinishedNumber isUsed)
  | some letter =>
      if isDigit letter then discard digits
      else
        skip
        stop .invalidNumber

def unsignedText (isUsed : Bool) : Scan Unit := do
  wholePart isUsed
  fractionPart isUsed
  exponentPart isUsed

/-- The number that some letters are, if it is not too great. -/
def numberOf (letters : List Char) : Scan Json :=
  match Json.readNumber? letters with
  | some (.unreadable, _) | none => stop .numberOutOfRange
  | some (value, _) => return value

theorem number_eq (bytes : List UInt8) :
    number bytes =
      (numberText true >>= fun _ =>
        numberOf ((bytes.takeWhile (isNumeric ∘ markOf)).map markOf)) bytes := rfl

/-- The unit of an escape, if its digits are some. -/
def unitOf (value? : Option Nat) : Scan Nat :=
  match value? with
  | some value => return value
  | none => stop .invalidEscape

theorem escapedUnit_eq_ok {bytes rest : List UInt8} {value : Nat} :
    escapedUnit bytes = .ok value rest ↔
      ∃ first second third fourth, bytes = first :: second :: third :: fourth :: rest ∧
        Json.unitValue? (markOf first) (markOf second) (markOf third) (markOf fourth) =
          some value := by
  constructor
  · intro passed
    rcases bytes with _ | ⟨first, _ | ⟨second, _ | ⟨third, _ | ⟨fourth, left⟩⟩⟩⟩
    · cases passed
    · cases passed
    · cases passed
    · cases passed
    · refine ⟨first, second, third, fourth, ?_⟩
      change unitOf _ left = _ at passed
      cases found : Json.unitValue? (markOf first) (markOf second) (markOf third)
          (markOf fourth) with
      | none =>
          rw [found] at passed
          cases passed
      | some unit =>
          rw [found] at passed
          cases passed
          exact ⟨rfl, rfl⟩
  · rintro ⟨first, second, third, fourth, rfl, found⟩
    change unitOf _ rest = _
    rw [found]
    rfl

/-- The text of some bytes, if they are those of characters. -/
def textOf (bytes : List UInt8) : Scan String :=
  match String.fromUTF8? (ByteArray.mk bytes.toArray) with
  | some text => return text
  | none => stop .brokenText

theorem string_cons (byte : UInt8) (bytes : List UInt8) :
    string (byte :: bytes) = (stringBytes true (bytes.length + 1) >>= textOf) bytes := rfl

theorem unusedString_cons (byte : UInt8) (bytes : List UInt8) :
    unusedString (byte :: bytes) = discard (stringBytes false (bytes.length + 1)) bytes := rfl

/-- A byte that stands for itself in a string. -/
def IsPlain (byte : UInt8) : Prop := ¬byte < 0x20 ∧ markOf byte ≠ '"' ∧ markOf byte ≠ '\\'

instance (byte : UInt8) : Decidable (IsPlain byte) := inferInstanceAs (Decidable (_ ∧ _ ∧ _))

def behindByte (isUsed : Bool) (fuel : Nat) (byte : UInt8) : Scan (List UInt8) :=
  if markOf byte = '"' then return []
  else if markOf byte = '\\' then do
    let value ← escape isUsed
    return value ++ (← stringBytes isUsed fuel)
  else return byte :: (← stringBytes isUsed fuel)

section StringBytes

variable {isUsed : Bool} {fuel : Nat} {byte : UInt8} {bytes left rest value own others : List UInt8}

theorem stringBytes_eq_ok :
    stringBytes isUsed (fuel + 1) (byte :: bytes) = .ok value rest ↔
      ¬byte < 0x20 ∧ behindByte isUsed fuel byte bytes = .ok value rest := by
  rw [stringBytes, get_bind]
  by_cases control : byte < 0x20
  · cases isUsed <;> simp [control, stop_ne_ok, bind_eq_ok]
  · simp only [control, if_false, not_false_eq_true, true_and]
    rfl

theorem stringBytes_of_quote (printable : ¬byte < 0x20) (quote : markOf byte = '"') :
    stringBytes isUsed (fuel + 1) (byte :: bytes) = .ok [] bytes := by
  refine stringBytes_eq_ok.2 ⟨printable, ?_⟩
  rw [behindByte, if_pos quote]
  rfl

theorem stringBytes_of_escape (printable : ¬byte < 0x20) (slash : markOf byte = '\\')
    (escaped : escape isUsed bytes = .ok own left)
    (passed : stringBytes isUsed fuel left = .ok others rest) :
    stringBytes isUsed (fuel + 1) (byte :: bytes) = .ok (own ++ others) rest := by
  refine stringBytes_eq_ok.2 ⟨printable, ?_⟩
  rw [behindByte, if_neg (by rw [slash]; decide), if_pos slash]
  exact bind_eq_ok.2 ⟨own, left, escaped, bind_eq_ok.2 ⟨others, rest, passed, rfl⟩⟩

theorem stringBytes_of_letter (printable : ¬byte < 0x20) (noQuote : markOf byte ≠ '"')
    (noEscape : markOf byte ≠ '\\')
    (passed : stringBytes isUsed fuel bytes = .ok others rest) :
    stringBytes isUsed (fuel + 1) (byte :: bytes) = .ok (byte :: others) rest := by
  refine stringBytes_eq_ok.2 ⟨printable, ?_⟩
  rw [behindByte, if_neg noQuote, if_neg noEscape]
  exact bind_eq_ok.2 ⟨others, rest, passed, rfl⟩

/-- A byte of a string ends it, begins an escape or stands for itself. -/
theorem stringBytes_cases
    (passed : stringBytes isUsed (fuel + 1) (byte :: bytes) = .ok value rest) :
    ¬byte < 0x20 ∧
      ((markOf byte = '"' ∧ value = [] ∧ bytes = rest) ∨
        (markOf byte = '\\' ∧ ∃ own left others, escape isUsed bytes = .ok own left ∧
          stringBytes isUsed fuel left = .ok others rest ∧ value = own ++ others) ∨
        (markOf byte ≠ '"' ∧ markOf byte ≠ '\\' ∧
          ∃ others, stringBytes isUsed fuel bytes = .ok others rest ∧ value = byte :: others)) := by
  obtain ⟨printable, passed⟩ := stringBytes_eq_ok.1 passed
  refine ⟨printable, ?_⟩
  unfold behindByte at passed
  split at passed
  next quote =>
    obtain ⟨rfl, same⟩ := pure_eq_ok.1 passed
    exact Or.inl ⟨quote, rfl, same⟩
  next noQuote =>
    split at passed
    next slash =>
      obtain ⟨own, left, escaped, passed⟩ := bind_eq_ok.1 passed
      obtain ⟨others, _, passedOthers, ⟨⟩⟩ := bind_eq_ok.1 passed
      exact Or.inr (Or.inl ⟨slash, own, left, others, escaped, passedOthers, rfl⟩)
    next noEscape =>
      obtain ⟨others, _, passedOthers, ⟨⟩⟩ := bind_eq_ok.1 passed
      exact Or.inr (Or.inr ⟨noQuote, noEscape, others, passedOthers, rfl⟩)

end StringBytes

def unflawed : Option Flaw → Scan Unit
  | some flaw => stopSomewhere flaw
  | none => pure ()

/-- What goes on behind an item of a list that is not used. -/
def behindItem (fuel : Nat) : Scan Unit := do
  match ← peekMark with
  | some ',' =>
      skip
      unusedItems fuel
  | some ']' => skip
  | some _ => stopAtNext (.expected "`,` or `]`")
  | none => stopAtNext (.unfinished .list)

/-- What goes on behind a member of an object that is not used. -/
def behindMember (fuel : Nat) : Scan Unit := do
  match ← peekMark with
  | some ',' =>
      skip
      unusedMembers fuel
  | some '\x7d' => skip
  | some _ => stopAtNext (.expected "`,` or `\x7d`")
  | none => stopAtNext (.unfinished .object)

/-- What goes on behind the name of a member that is not used. -/
def behindName (fuel : Nat) : Scan Unit := do
  colon
  unused fuel
  behindMember fuel

/-- A name that is not used and what follows it. -/
def named (next : Scan Unit) : Scan Unit := do
  match ← peekMark with
  | some '"' =>
      unusedString
      next
  | some _ => stopAtNext .unquotedName
  | none => stopAtNext (.unfinished .object)

/-- What goes on behind the bracket that opens a list that is not used, by the next mark. -/
def behindBracket (fuel : Nat) : Option Char → Scan Unit
  | some ']' => skip
  | some _ => unusedItems fuel
  | none => stopAtNext (.unfinished .list)

/-- What goes on behind the brace that opens an object that is not used, by the next mark. -/
def behindBrace (fuel : Nat) : Option Char → Scan Unit
  | some '\x7d' => skip
  | some _ => unusedMembers fuel
  | none => stopAtNext (.unfinished .object)

theorem unusedItems_succ (fuel : Nat) :
    unusedItems (fuel + 1) = (do unused fuel; behindItem fuel) := by
  rw [unusedItems]
  rfl

theorem unusedMembers_succ (fuel : Nat) : unusedMembers (fuel + 1) = named (behindName fuel) := by
  rw [unusedMembers]
  refine bind_congr fun mark? => ?_
  cases mark? with
  | none => rfl
  | some mark =>
      by_cases quote : mark = '"'
      · subst quote
        rfl
      · -- No other mark begins a name, and both sides stop at it.
        simp

theorem named_of_quote {byte : UInt8} (mark : markOf byte = '"') (next : Scan Unit)
    (rest : List UInt8) : named next (byte :: rest) = (do unusedString; next) (byte :: rest) := by
  unfold named
  rw [peekMark_bind_of_mark mark rfl]
  rfl

theorem behindBracket_of_ne {letter : Char} (different : letter ≠ ']') (fuel : Nat) :
    behindBracket fuel (some letter) = unusedItems fuel := by
  unfold behindBracket
  split
  next same => exact absurd (Option.some.inj same) different
  · rfl
  · contradiction

theorem behindBrace_of_ne {letter : Char} (different : letter ≠ '\x7d') (fuel : Nat) :
    behindBrace fuel (some letter) = unusedMembers fuel := by
  unfold behindBrace
  split
  next same => exact absurd (Option.some.inj same) different
  · rfl
  · contradiction

theorem unused_blank {byte : UInt8} (blank : Json.isSpace (markOf byte) = true) (fuel : Nat)
    (bytes : List UInt8) : unused (fuel + 1) (byte :: bytes) = unused (fuel + 1) bytes := by
  unfold unused
  rw [peekValue_bind_blank blank]

end Scan

namespace Form

open Scan

/-- What goes on behind the name of the only member of an object that stands for a word. -/
def behindWord : Scan Unit := do
  colon
  scanNull
  match ← peekMark with
  | some '\x7d' => skip
  | some _ => stop (.expected "value")
  | none => stop (.unfinished .object)

def scanMember (fuel : Nat) (fields : List Json.Field) (forms : List Form) (seen : List String)
    (name : String) : Scan Unit :=
  match fieldFor? fields forms name with
  | some (field, form) => do
      if seen.contains field.name then stopSomewhere (.repeatedField field.name)
      colon
      scan fuel form
      scanMembers fuel fields forms (field.name :: seen) false
  | none => do
      colon
      unused fuel
      scanMembers fuel fields forms seen false

def unlacking (fields : List Json.Field) (forms : List Form) (seen : List String) : Scan Unit :=
  match lackingField? fields forms seen with
  | some field => stopSomewhere (.missingField field.name)
  | none => pure ()

theorem scanMembers_succ (fuel : Nat) (fields : List Json.Field) (forms : List Form)
    (seen : List String) (isFirst : Bool) :
    scanMembers (fuel + 1) fields forms seen isFirst = (do
      if ← hasMember isFirst then
        let name ← Scan.string
        scanMember fuel fields forms seen name
      else unlacking fields forms seen) := by
  rw [scanMembers]
  rfl

theorem scan_blank {byte : UInt8} (blank : Json.isSpace (markOf byte) = true) (fuel : Nat)
    (form : Form) (bytes : List UInt8) :
    scan (fuel + 1) form (byte :: bytes) = scan (fuel + 1) form bytes := by
  cases form <;>
    simp only [scan, placed, scanFlag, scanNumber, scanString, scanWord,
      peekValue_bind_blank blank, peekMark_bind_blank blank]

end Form

end LoadChart
