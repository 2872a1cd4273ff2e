import LoadChart.Proofs.Json.Steps

/-!
# Outcomes of scanning

What holds of the value and of the rest of the text wherever a step of scanning succeeds.
-/

namespace LoadChart

namespace Scan

variable {α β : Type}

/-- Where a step passes over a part of some bytes, something holds of its value and of the rest. -/
def Ensures (scan : Scan α) (bytes : List UInt8) (post : α → List UInt8 → Prop) : Prop :=
  ∀ value rest, scan bytes = .ok value rest → post value rest

/-- The bytes from the first that is no blank. -/
def trim (bytes : List UInt8) : List UInt8 := bytes.dropWhile (Json.isSpace ∘ markOf)

namespace Ensures

variable {scan : Scan α} {next : α → Scan β} {byte : UInt8} {bytes left : List UInt8}
  {post : β → List UInt8 → Prop}

theorem bind {middle : α → List UInt8 → Prop} (first : Ensures scan bytes middle)
    (behind : ∀ value left, middle value left → Ensures (next value) left post) :
    Ensures (scan >>= next) bytes post := by
  intro value rest passed
  obtain ⟨own, left, passedFirst, passedNext⟩ := bind_eq_ok.1 passed
  exact behind own left (first own left passedFirst) value rest passedNext

theorem mono {middle : β → List UInt8 → Prop} {scan : Scan β} (first : Ensures scan bytes middle)
    (weaker : ∀ value rest, middle value rest → post value rest) : Ensures scan bytes post :=
  fun value rest passed => weaker value rest (first value rest passed)

theorem pure {value : β} (holds : post value bytes) : Ensures (pure value) bytes post := by
  rintro _ _ ⟨⟩
  exact holds

theorem stop (flaw : Flaw) : Ensures (stop flaw) bytes post := by
  rintro _ _ ⟨⟩

theorem stopAtNext (flaw : Flaw) : Ensures (stopAtNext flaw) bytes post := by
  rintro _ _ ⟨⟩

theorem stopSomewhere (flaw : Flaw) : Ensures (stopSomewhere flaw) bytes post := by
  rintro _ _ ⟨⟩

theorem otherKind (wanted : String) : Ensures (otherKind wanted) bytes post :=
  fun _ _ passed => absurd passed otherKind_ne_ok

theorem placed {scan : Scan β} (step : Ensures scan bytes post) :
    Ensures (placed scan) bytes post :=
  fun value rest passed => step value rest (placed_eq_ok.1 passed)

theorem closedBy {first close : Scan Unit} {post : Unit → List UInt8 → Prop}
    (step : Ensures (first >>= fun _ => close) bytes post) :
    Ensures (closedBy first close) bytes post := by
  intro _ rest passed
  obtain ⟨left, passedFirst, closed⟩ := closedBy_eq_ok.1 passed
  exact step () rest (bind_eq_ok.2 ⟨(), left, passedFirst, closed⟩)

theorem skip {post : Unit → List UInt8 → Prop} (holds : post () left) :
    Ensures skip (byte :: left) post := by
  rintro _ _ ⟨⟩
  exact holds

theorem skip_bind {next : Unit → Scan β} (behind : Ensures (next ()) left post) :
    Ensures (Scan.skip >>= next) (byte :: left) post := behind

theorem peek_bind {next : Option Char → Scan β} (onEnd : bytes = [] → Ensures (next none) [] post)
    (onByte : ∀ byte left, bytes = byte :: left →
      Ensures (next (some (markOf byte))) (byte :: left) post) :
    Ensures (peek >>= next) bytes post := by
  intro value rest passed
  cases bytes with
  | nil => exact onEnd rfl value rest passed
  | cons byte left => exact onByte byte left rfl value rest passed

theorem peekMark_bind {next : Option Char → Scan β}
    (onEnd : trim bytes = [] → Ensures (next none) [] post)
    (onByte : ∀ byte left, trim bytes = byte :: left →
      Ensures (next (some (markOf byte))) (byte :: left) post) :
    Ensures (peekMark >>= next) bytes post := by
  intro value rest passed
  rw [peekMark_bind_eq] at passed
  exact peek_bind onEnd onByte value rest passed

theorem peekValue_bind {next : Char → Scan β}
    (onByte : ∀ byte left, trim bytes = byte :: left →
      Ensures (next (markOf byte)) (byte :: left) post) :
    Ensures (peekValue >>= next) bytes post := by
  unfold peekValue
  rw [bind_assoc]
  exact peekMark_bind (fun _ => stopAtNext _) onByte

end Ensures

end Scan

end LoadChart
