import LoadChart.Proofs.Json.Extension
import LoadChart.Proofs.Json.Unused

/-!
# Values of forms where none is wanted

A value of any form is passed over to the same place where no value is wanted.  A value that is not
used may need a little more fuel, since a form looks at words and their nulls at once.
-/

namespace LoadChart

namespace Scan

namespace PassedBy

variable {α β γ : Type} {first : Scan α} {second : Scan β} {bytes : List UInt8}

theorem peekMark_bind {next : Option Char → Scan α} {next' : Option Char → Scan β}
    (onEnd : PassedBy (next none) (next' none) [])
    (onByte : ∀ byte rest,
      PassedBy (next (some (markOf byte))) (next' (some (markOf byte))) (byte :: rest)) :
    PassedBy (peekMark >>= next) (peekMark >>= next') bytes := by
  intro value final passed
  rw [peekMark_bind_eq] at passed ⊢
  exact peek_bind onEnd onByte value final passed

theorem peekValue_bind {next : Char → Scan α} {next' : Char → Scan β}
    (onByte : ∀ byte rest, PassedBy (next (markOf byte)) (next' (markOf byte)) (byte :: rest)) :
    PassedBy (peekValue >>= next) (peekValue >>= next') bytes := by
  unfold peekValue
  simp only [bind_assoc]
  exact peekMark_bind (stopAtNext _) onByte

theorem otherKind (wanted : String) {second : Scan β} :
    PassedBy (Scan.otherKind wanted : Scan α) second bytes :=
  fun _ _ passed => absurd passed otherKind_ne_ok

theorem foundNumber : PassedBy foundNumber (Scan.numberText false) bytes := by
  refine bind_test number fun value left => ?_
  split
  · exact pure _ _
  · exact pure _ _
  · exact stop _

theorem scanFlag (fuel : Nat) : PassedBy Form.scanFlag (unused (fuel + 1)) bytes := by
  unfold unused
  refine peekValue_bind fun byte rest => ?_
  generalize markOf byte = letter
  split
  · exact refl _ _
  · exact refl _ _
  · exact otherKind _

theorem scanNumber (wanted : String) (flaw? : FoundValue → Option Flaw) (fuel : Nat) :
    PassedBy (Form.scanNumber wanted flaw?) (unused (fuel + 1)) bytes := by
  unfold unused
  refine peekValue_bind fun byte rest => ?_
  generalize markOf byte = letter
  split
  next isNumber =>
    have read : PassedBy (Scan.foundNumber >>= fun found => Scan.unflawed (flaw? found))
        (Scan.numberText false) (byte :: rest) :=
      bind_test foundNumber fun _ _ => unflawed _
    split
    · exact absurd isNumber (by decide)
    · exact absurd isNumber (by decide)
    · exact absurd isNumber (by decide)
    · exact absurd isNumber (by decide)
    · exact absurd isNumber (by decide)
    · exact absurd isNumber (by decide)
    · rw [if_pos isNumber]
      exact read
  · exact otherKind _

theorem scanString (wanted : String) (flaw? : String → Option Flaw) (fuel : Nat) :
    PassedBy (Form.scanString wanted flaw?) (unused (fuel + 1)) bytes := by
  unfold unused
  refine peekValue_bind fun byte rest => ?_
  generalize markOf byte = letter
  split
  · exact bind_test string fun _ _ => unflawed _
  · exact otherKind _

theorem of_extends {first second : Scan α} (step : Extends [] first second bytes) :
    PassedBy first second bytes := by
  intro value rest passed
  have extended := step value rest passed
  rw [List.append_nil, List.append_nil] at extended
  exact ⟨value, extended⟩

theorem trans {third : Scan γ} (step : PassedBy first second bytes)
    (next : PassedBy second third bytes) : PassedBy first third bytes := by
  intro value rest passed
  obtain ⟨other, passedSecond⟩ := step value rest passed
  exact next other rest passedSecond

theorem placed_bind {next : α → Scan γ}
    (step : PassedBy (first >>= next) second bytes) :
    PassedBy (Scan.placed first >>= next) second bytes := by
  intro value rest passed
  obtain ⟨middle, left, passedFirst, passedNext⟩ := bind_eq_ok.1 passed
  exact step value rest (bind_eq_ok.2 ⟨middle, left, placed_eq_ok.1 passedFirst, passedNext⟩)

theorem otherKind_bind (wanted : String) {next : α → Scan γ} {second : Scan β} :
    PassedBy (Scan.otherKind wanted >>= next) second bytes := by
  intro value rest passed
  obtain ⟨middle, left, passedFirst, _⟩ := bind_eq_ok.1 passed
  exact absurd passedFirst otherKind_ne_ok

/-- A value that must be there is a mark that comes next. -/
theorem peekValue_peekMark {next : Char → Scan α} {next' : Option Char → Scan β}
    (onByte : ∀ byte rest,
      PassedBy (next (markOf byte)) (next' (some (markOf byte))) (byte :: rest)) :
    PassedBy (peekValue >>= next) (peekMark >>= next') bytes := by
  unfold peekValue
  simp only [bind_assoc]
  exact peekMark_bind (stopAtNext _) onByte

theorem scanName_named {words : List String} {next : Unit → Scan α} {next' : Scan Unit}
    (behind : ∀ left, PassedBy (next ()) next' left) :
    PassedBy (Form.scanName words >>= next) (Scan.named next') bytes := by
  refine placed_bind ?_
  unfold Form.scanString
  simp only [bind_assoc]
  refine peekValue_peekMark fun byte rest => ?_
  generalize markOf byte = letter
  split
  · exact bind (bind_test string fun _ _ => unflawed _) fun _ _ left => behind left
  · exact otherKind_bind _

theorem scanNull (fuel : Nat) : PassedBy Form.scanNull (unused (fuel + 1)) bytes := by
  unfold unused
  refine placed (peekValue_bind fun byte rest => ?_)
  generalize markOf byte = letter
  split
  · exact refl _ _
  · exact otherKind _

theorem scanName_of_quote {words : List String} {byte : UInt8} {rest : List UInt8}
    (quote : markOf byte = '"') : PassedBy (Form.scanName words) unusedString (byte :: rest) := by
  intro value final passed
  have passedName := placed_eq_ok.1 passed
  unfold Form.scanString at passedName
  rw [peekValue_bind_of_mark quote rfl] at passedName
  exact bind_test string (fun _ _ => unflawed _) value final passedName

theorem behindWord (fuel : Nat) : PassedBy Form.behindWord (behindName (fuel + 1)) bytes := by
  refine bind_same fun _ left => bind (scanNull fuel) fun _ _ left =>
    peekMark_bind (stop _) fun byte rest => ?_
  generalize some (markOf byte) = mark?
  split
  · exact refl _ _
  · exact stop _
  · exact stop _

theorem scanWord (words : List String) (fuel : Nat) :
    PassedBy (Form.scanWord words) (unused (fuel + 3)) bytes := by
  unfold unused
  refine peekValue_bind fun byte rest => ?_
  generalize mark : markOf byte = letter
  split
  · exact scanName_of_quote mark
  · refine skip_bind (peekMark_bind (stopAtNext _) fun byte rest => ?_)
    have member : PassedBy (Form.scanName words >>= fun _ => Form.behindWord)
        (unusedMembers (fuel + 2)) (byte :: rest) := by
      rw [unusedMembers_succ]
      exact scanName_named fun left => behindWord fuel
    change PassedBy _ (behindBrace (fuel + 2) (some (markOf byte))) _
    intro value final passed
    by_cases closing : markOf byte = '\x7d'
    · obtain ⟨_, _, passedName, _⟩ := bind_eq_ok.1 passed
      have passedString := placed_eq_ok.1 passedName
      unfold Form.scanString at passedString
      rw [peekValue_bind_of_mark closing rfl] at passedString
      exact absurd passedString otherKind_ne_ok
    · rw [behindBrace_of_ne closing]
      exact member value final passed
  · exact stopAtNext _

/-- A value that is not used may be looked for behind the blanks in front of it. -/
theorem peekMark_unused (fuel : Nat) :
    PassedBy (peekMark >>= fun _ => unused fuel) (unused fuel) bytes := by
  cases fuel with
  | zero =>
      intro value final passed
      obtain ⟨_, _, _, impossible⟩ := bind_eq_ok.1 passed
      cases impossible
  | succ fuel =>
      unfold unused
      rw [peekMark_peekValue]
      exact refl _ _

theorem peekValue_unused {fuel : Nat} {next : Char → Scan α} {next' : Unit → Scan β}
    (onByte : ∀ byte rest, PassedBy (next (markOf byte)) (unused fuel >>= next') (byte :: rest)) :
    PassedBy (peekValue >>= next) (unused fuel >>= next') bytes := by
  have trimmed : PassedBy (peekValue >>= next)
      (peekMark >>= fun _ => unused fuel >>= next') bytes := peekValue_peekMark onByte
  rw [← bind_assoc] at trimmed
  exact trimmed.trans (bind (peekMark_unused fuel) fun _ _ _ => refl _ _)

theorem listEnd_of_bracket {byte : UInt8} {rest : List UInt8} (mark : markOf byte = ']') :
    PassedBy listEnd skip (byte :: rest) := by
  intro value final passed
  unfold listEnd at passed
  rw [peekMark_bind_of_mark mark rfl] at passed
  exact ⟨value, passed⟩

theorem objectEnd_of_brace {byte : UInt8} {rest : List UInt8} (mark : markOf byte = '\x7d') :
    PassedBy objectEnd skip (byte :: rest) := by
  intro value final passed
  unfold objectEnd at passed
  rw [peekMark_bind_of_mark mark rfl] at passed
  exact ⟨value, passed⟩

theorem unlacking_of_brace {fields : List Json.Field} {forms : List Form} {seen : List String}
    {byte : UInt8} {rest : List UInt8} (mark : markOf byte = '\x7d') :
    PassedBy (Form.unlacking fields forms seen >>= fun _ => objectEnd) skip (byte :: rest) := by
  unfold Form.unlacking
  split
  · exact stopSomewhere _
  · exact objectEnd_of_brace mark

/-- A list ends with a bracket only. -/
theorem listEnd_peekMark {next : Option Char → Scan Unit} (closing : next (some ']') = skip) :
    PassedBy listEnd (peekMark >>= next) bytes := by
  unfold listEnd
  refine peekMark_bind (stopAtNext _) fun byte rest => ?_
  generalize some (markOf byte) = mark?
  split
  · rw [closing]
    exact refl _ _
  · intro value final passed
    obtain ⟨_, _, _, behindComma⟩ := bind_eq_ok.1 passed
    obtain ⟨_, _, _, stopped⟩ := bind_eq_ok.1 behindComma
    split at stopped <;> cases stopped
  · exact stopAtNext _
  · exact stopAtNext _

theorem behindItem_of_bracket {byte : UInt8} {rest : List UInt8} (mark : markOf byte = ']')
    (fuel : Nat) : PassedBy (behindItem fuel) skip (byte :: rest) := by
  intro value final passed
  unfold behindItem at passed
  rw [peekMark_bind_of_mark mark rfl] at passed
  exact ⟨value, passed⟩

section Items

variable {fuel : Nat} {item more done : Scan Unit} {byte : UInt8} {rest : List UInt8}

theorem item_bind (value : ∀ bytes, PassedBy item (unused fuel) bytes)
    (behind : ∀ bytes, PassedBy (more >>= fun _ => listEnd) (behindItem fuel) bytes) :
    PassedBy ((do item; more) >>= fun _ => listEnd) (unusedItems (fuel + 1)) bytes := by
  rw [unusedItems_succ, bind_assoc]
  exact bind (value bytes) fun _ _ left => behind left

/-- The items of a list, of a form each or the fields of a record, up to its end. -/
theorem firstItem_bind (value : ∀ bytes, PassedBy item (unused fuel) bytes)
    (behind : ∀ bytes, PassedBy (more >>= fun _ => listEnd) (behindItem fuel) bytes)
    (ended : ∀ byte rest, markOf byte = ']' →
      PassedBy (done >>= fun _ => listEnd) skip (byte :: rest)) :
    PassedBy ((do if ← hasItem true then do { item; more } else done) >>= fun _ => listEnd)
      (peekMark >>= behindBracket (fuel + 1)) bytes := by
  unfold hasItem
  rw [bind_assoc, bind_assoc]
  refine peekMark_bind (stopAtNext _) fun byte rest => ?_
  generalize mark : markOf byte = letter
  by_cases closing : letter = ']'
  · subst closing
    exact ended byte rest mark
  · rw [behindBracket_of_ne closing]
    split
    · contradiction
    next same => exact absurd (Option.some.inj same) closing
    · exact item_bind value behind

/-- The items of a list behind one of them, up to its end. -/
theorem nextItem_bind (value : ∀ bytes, PassedBy item (unused fuel) bytes)
    (behind : ∀ bytes, PassedBy (more >>= fun _ => listEnd) (behindItem fuel) bytes)
    (ended : ∀ byte rest, markOf byte = ']' →
      PassedBy (done >>= fun _ => listEnd) skip (byte :: rest)) :
    PassedBy ((do if ← hasItem false then do { item; more } else done) >>= fun _ => listEnd)
      (behindItem (fuel + 1)) bytes := by
  unfold hasItem behindItem
  rw [bind_assoc, bind_assoc]
  refine peekMark_bind (stopAtNext _) fun byte rest => ?_
  generalize mark : markOf byte = letter
  by_cases closing : letter = ']'
  · subst closing
    exact ended byte rest mark
  by_cases comma : letter = ','
  · subst comma
    simp only [Bool.false_eq_true, if_true, if_false, bind_assoc]
    refine skip_bind ?_
    rw [unusedItems_succ]
    refine peekValue_unused fun byte rest => ?_
    split
    · exact stopAtNext _
    · simp only [pure_bind, if_true]
      rw [← unusedItems_succ]
      exact item_bind value behind
  · split
    · contradiction
    next same => exact absurd (Option.some.inj same) closing
    next sameMark =>
      cases sameMark
      simp only [Bool.false_eq_true, if_false, if_neg comma]
      exact stopAtNext _

end Items

section Members

variable {fuel : Nat} {member : String → Scan Unit} {done : Scan Unit}

theorem member_bind
    (behind : ∀ name bytes, PassedBy (member name >>= fun _ => objectEnd) (behindName fuel) bytes) :
    PassedBy ((do let name ← Scan.string; member name) >>= fun _ => objectEnd)
      (do unusedString; behindName fuel) bytes := by
  rw [bind_assoc]
  exact bind string fun name _ left => behind name left

theorem firstMember_bind
    (behind : ∀ name bytes, PassedBy (member name >>= fun _ => objectEnd) (behindName fuel) bytes)
    (ended : ∀ byte rest, markOf byte = '\x7d' →
      PassedBy (done >>= fun _ => objectEnd) skip (byte :: rest)) :
    PassedBy
      ((do if ← hasMember true then do { let name ← Scan.string; member name } else done) >>=
        fun _ => objectEnd)
      (peekMark >>= behindBrace (fuel + 1)) bytes := by
  unfold hasMember
  rw [bind_assoc, bind_assoc]
  refine peekMark_bind (stopAtNext _) fun byte rest => ?_
  generalize mark : markOf byte = letter
  by_cases closing : letter = '\x7d'
  · subst closing
    exact ended byte rest mark
  by_cases quote : letter = '"'
  · subst quote
    rw [behindBrace_of_ne (by decide)]
    intro value final passed
    rw [unusedMembers_succ, named_of_quote mark]
    exact member_bind behind value final passed
  · split
    · contradiction
    next same => exact absurd (Option.some.inj same) closing
    next sameMark =>
      cases sameMark
      simp only [if_true, if_neg quote]
      exact stopAtNext _

/-- The members of a record behind one of them, up to its end. -/
theorem nextMember_bind
    (behind : ∀ name bytes, PassedBy (member name >>= fun _ => objectEnd) (behindName fuel) bytes)
    (ended : ∀ byte rest, markOf byte = '\x7d' →
      PassedBy (done >>= fun _ => objectEnd) skip (byte :: rest)) :
    PassedBy
      ((do if ← hasMember false then do { let name ← Scan.string; member name } else done) >>=
        fun _ => objectEnd)
      (behindMember (fuel + 1)) bytes := by
  unfold hasMember behindMember
  rw [bind_assoc, bind_assoc]
  refine peekMark_bind (stopAtNext _) fun byte rest => ?_
  generalize mark : markOf byte = letter
  by_cases closing : letter = '\x7d'
  · subst closing
    exact ended byte rest mark
  by_cases comma : letter = ','
  · subst comma
    simp only [Bool.false_eq_true, if_true, if_false, bind_assoc]
    refine skip_bind ?_
    rw [unusedMembers_succ]
    unfold Scan.named
    refine peekValue_peekMark fun byte rest => ?_
    generalize markOf byte = letter
    split
    · exact member_bind behind
    · exact stopAtNext _
    · exact stopAtNext _
  · split
    · contradiction
    next same => exact absurd (Option.some.inj same) closing
    next sameMark =>
      cases sameMark
      simp only [Bool.false_eq_true, if_false, if_neg comma]
      exact stopAtNext _

end Members

end PassedBy

end Scan

open Scan

/-- Values of forms, the items of a list, the fields of a record in an array and the members of a
record in an object are passed over where no value is wanted, the last three with what ends them. -/
structure Form.ScanUnused (fuel : Nat) : Prop where
  value : ∀ form bytes, PassedBy (Form.scan fuel form) (unused (fuel + 3)) bytes
  firstItem : ∀ item bytes,
    PassedBy (Form.scanItems fuel item true >>= fun _ => listEnd)
      (peekMark >>= behindBracket (fuel + 3)) bytes
  nextItem : ∀ item bytes,
    PassedBy (Form.scanItems fuel item false >>= fun _ => listEnd) (behindItem (fuel + 3)) bytes
  firstElement : ∀ wanted parts bytes,
    PassedBy (Form.scanElements fuel wanted 0 parts >>= fun _ => listEnd)
      (peekMark >>= behindBracket (fuel + 3)) bytes
  nextElement : ∀ wanted count parts bytes,
    PassedBy (Form.scanElements fuel wanted (count + 1) parts >>= fun _ => listEnd)
      (behindItem (fuel + 3)) bytes
  firstMember : ∀ fields forms seen bytes,
    PassedBy (Form.scanMembers fuel fields forms seen true >>= fun _ => objectEnd)
      (peekMark >>= behindBrace (fuel + 3)) bytes
  nextMember : ∀ fields forms seen bytes,
    PassedBy (Form.scanMembers fuel fields forms seen false >>= fun _ => objectEnd)
      (behindMember (fuel + 3)) bytes

namespace Scan.PassedBy

variable {bytes : List UInt8} {fuel : Nat}

theorem scan (used : Form.ScanUnused fuel) (form : Form) :
    PassedBy (Form.scan (fuel + 1) form) (unused (fuel + 4)) bytes := by
  cases form with
  | flag => exact placed (scanFlag _)
  | float => exact placed (scanNumber _ _ _)
  | whole low high name => exact placed (scanNumber _ _ _)
  | string wanted flaw? => exact placed (scanString _ _ _)
  | word words => exact scanWord words _
  | list item =>
      unfold unused
      refine placed (peekValue_bind fun byte rest => ?_)
      generalize markOf byte = letter
      split
      · exact skip_bind (closedBy (used.firstItem item _))
      · exact otherKind _
  | optional inner =>
      have longer : ∀ bytes, PassedBy (Form.scan fuel inner) (unused (fuel + 4)) bytes :=
        fun bytes => (used.value inner bytes).trans
          (of_extends ((UnusedExtends.of_le (Nat.le_succ _)).value bytes))
      refine trans (peekMark_bind (longer _) fun byte rest => ?_) (peekMark_unused (fuel + 4))
      split
      next null =>
        intro value final passed
        unfold unused
        rw [peekValue_bind_of_mark (Option.some.inj null) rfl]
        exact ⟨value, passed⟩
      · exact longer _
  | record name fields forms =>
      unfold unused
      refine placed (peekValue_bind fun byte rest => ?_)
      generalize markOf byte = letter
      split
      · exact skip_bind (closedBy (used.firstElement _ _ _))
      · exact skip_bind (closedBy (used.firstMember _ _ _ _))
      · exact otherKind _

theorem noElement_of_bracket (used : Form.ScanUnused fuel) (wanted : String) (count : Nat)
    (field : Json.Field) (parts : List (Json.Field × Form)) {byte : UInt8} {rest : List UInt8}
    (mark : markOf byte = ']') :
    PassedBy
      ((if field.mayBeMissing then Form.scanElements fuel wanted (count + 1) parts
        else Scan.stopSomewhere (.length count wanted)) >>= fun _ => listEnd)
      skip (byte :: rest) := by
  split
  · exact (used.nextElement wanted count parts _).trans (behindItem_of_bracket mark _)
  · exact stopSomewhere _

theorem scanMember (used : Form.ScanUnused fuel) (fields : List Json.Field) (forms : List Form)
    (seen : List String) (name : String) :
    PassedBy (Form.scanMember fuel fields forms seen name >>= fun _ => objectEnd)
      (behindName (fuel + 3)) bytes := by
  unfold Form.scanMember
  split
  next field form _ =>
    dsimp only
    split
    · exact stopSomewhere _
    · simp only [bind_assoc]
      refine bind_same fun _ left => bind (used.value form _) fun _ _ left => ?_
      exact used.nextMember fields forms _ left
  · simp only [bind_assoc]
    have longer : ∀ bytes, PassedBy (unused fuel) (unused (fuel + 3)) bytes := fun bytes =>
      of_extends ((UnusedExtends.of_le (Nat.le_add_right fuel 3)).value bytes)
    refine bind_same fun _ left => bind (longer _) fun _ _ left => ?_
    exact used.nextMember fields forms _ left

end Scan.PassedBy

namespace Form.ScanUnused

open PassedBy

variable {fuel : Nat}

/-- One more turn of each: a value needs no more fuel where it is not wanted than the turn adds. -/
theorem succ (used : ScanUnused fuel) : ScanUnused (fuel + 1) where
  value := fun form _ => PassedBy.scan used form
  firstItem := fun item _ =>
    firstItem_bind (used.value item) (used.nextItem item) fun _ _ => listEnd_of_bracket
  nextItem := fun item _ =>
    nextItem_bind (used.value item) (used.nextItem item) fun _ _ => listEnd_of_bracket
  firstElement := by
    intro wanted parts bytes
    cases parts with
    | nil => exact listEnd_peekMark rfl
    | cons part parts =>
        exact firstItem_bind (used.value part.2) (used.nextElement wanted 0 parts)
          fun _ _ => noElement_of_bracket used wanted 0 part.1 parts
  nextElement := by
    intro wanted count parts bytes
    cases parts with
    | nil => exact listEnd_peekMark rfl
    | cons part parts =>
        exact nextItem_bind (used.value part.2) (used.nextElement wanted (count + 1) parts)
          fun _ _ => noElement_of_bracket used wanted (count + 1) part.1 parts
  firstMember := by
    intro fields forms seen bytes
    rw [scanMembers_succ]
    exact firstMember_bind (fun name _ => PassedBy.scanMember used fields forms seen name)
      fun _ _ => unlacking_of_brace
  nextMember := by
    intro fields forms seen bytes
    rw [scanMembers_succ]
    exact nextMember_bind (fun name _ => PassedBy.scanMember used fields forms seen name)
      fun _ _ => unlacking_of_brace

theorem all (fuel : Nat) : ScanUnused fuel := by
  induction fuel with
  | zero =>
      exact ⟨fun _ _ => stopSomewhere _, fun _ _ => stopSomewhere _, fun _ _ => stopSomewhere _,
        fun _ _ _ => stopSomewhere _, fun _ _ _ _ => stopSomewhere _,
        fun _ _ _ _ => stopSomewhere _, fun _ _ _ _ => stopSomewhere _⟩
  | succ fuel used => exact used.succ

end Form.ScanUnused

end LoadChart
