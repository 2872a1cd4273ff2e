import LoadChart.Proofs.Json.Extension

/-!
# Forms with a brace behind

A text that has a form keeps it, and is passed over to the same place, when a closing brace and more
text follow.
-/

namespace LoadChart

open Scan

namespace Scan.Extends

variable {α : Type} {tail bytes : List UInt8} [Closed tail]

theorem foundNumber : Extends tail foundNumber foundNumber bytes := by
  refine bind number fun value left => ?_
  split
  · exact pure _
  · exact pure _
  · exact stop _

theorem scanFlag : Extends tail Form.scanFlag Form.scanFlag bytes := by
  refine peekValue_bind fun byte rest => ?_
  split
  · exact word _
  · exact word _
  · exact otherKind _

theorem scanNumber (wanted : String) (flaw? : FoundValue → Option Flaw) :
    Extends tail (Form.scanNumber wanted flaw?) (Form.scanNumber wanted flaw?) bytes := by
  refine peekValue_bind fun byte rest => ?_
  split
  · exact bind foundNumber fun _ _ => unflawed _
  · exact otherKind _

theorem scanString (wanted : String) (flaw? : String → Option Flaw) :
    Extends tail (Form.scanString wanted flaw?) (Form.scanString wanted flaw?) bytes := by
  refine peekValue_bind fun byte rest => ?_
  split
  · exact bind string fun _ _ => unflawed _
  · exact otherKind _

theorem scanName (words : List String) :
    Extends tail (Form.scanName words) (Form.scanName words) bytes :=
  placed (scanString _ _)

theorem scanNull : Extends tail Form.scanNull Form.scanNull bytes := by
  refine placed (peekValue_bind fun byte rest => ?_)
  split
  · exact word _
  · exact otherKind _

theorem scanWord (words : List String) :
    Extends tail (Form.scanWord words) (Form.scanWord words) bytes := by
  refine peekValue_bind fun byte rest => ?_
  split
  · exact scanName words
  · refine skip_bind (peekMark_bind (stopAtNext _) (stopAtNext _) fun byte rest => ?_)
    refine bind (scanName words) fun _ _ => bind colon fun _ _ => bind scanNull fun _ _ =>
      peekMark_bind (stop _) (stop _) fun byte rest => ?_
    split
    · exact skip
    · exact stop _
    · exact stop _
  · exact stopAtNext _

end Scan.Extends

/-- More fuel goes over values of forms, the items of a list, the fields of a record in an array and
the members of a record in an object with a tail behind. -/
structure Form.ScanExtends (tail : List UInt8) (fuel more : Nat) : Prop where
  value : ∀ form bytes, Extends tail (Form.scan fuel form) (Form.scan more form) bytes
  items : ∀ item isFirst bytes,
    Extends tail (Form.scanItems fuel item isFirst) (Form.scanItems more item isFirst) bytes
  elements : ∀ wanted count parts bytes,
    Extends tail (Form.scanElements fuel wanted count parts)
      (Form.scanElements more wanted count parts) bytes
  members : ∀ fields forms seen isFirst bytes,
    Extends tail (Form.scanMembers fuel fields forms seen isFirst)
      (Form.scanMembers more fields forms seen isFirst) bytes

namespace Scan.Extends

variable {tail bytes : List UInt8} [Closed tail] {fuel more : Nat}

theorem scan (longer : Form.ScanExtends tail fuel more) (form : Form) :
    Extends tail (Form.scan (fuel + 1) form) (Form.scan (more + 1) form) bytes := by
  cases form with
  | flag => exact placed scanFlag
  | float => exact placed (scanNumber _ _)
  | whole low high name => exact placed (scanNumber _ _)
  | string wanted flaw? => exact placed (scanString _ _)
  | word words => exact scanWord words
  | list item =>
      refine placed (peekValue_bind fun byte rest => ?_)
      split
      · exact skip_bind (closedBy (longer.items _ _ _) fun _ => listEnd)
      · exact otherKind _
  | optional inner =>
      refine peekMark_bind (longer.value inner _) (longer.value inner _) fun byte rest => ?_
      split
      · exact word _
      · exact longer.value inner _
  | record name fields forms =>
      refine placed (peekValue_bind fun byte rest => ?_)
      split
      · exact skip_bind (closedBy (longer.elements _ _ _ _) fun _ => listEnd)
      · exact skip_bind (closedBy (longer.members _ _ _ _ _) fun _ => objectEnd)
      · exact otherKind _

theorem scanItems (longer : Form.ScanExtends tail fuel more) (item : Form) (isFirst : Bool) :
    Extends tail (Form.scanItems (fuel + 1) item isFirst) (Form.scanItems (more + 1) item isFirst)
      bytes := by
  unfold Form.scanItems
  refine bind (hasItem _) fun follows left => ?_
  split
  · exact bind (longer.value _ _) fun _ _ => longer.items _ _ _
  · exact pure _

theorem scanElements (longer : Form.ScanExtends tail fuel more) (wanted : String) (count : Nat)
    (parts : List (Json.Field × Form)) :
    Extends tail (Form.scanElements (fuel + 1) wanted count parts)
      (Form.scanElements (more + 1) wanted count parts) bytes := by
  cases parts with
  | nil => exact pure _
  | cons part rest =>
      unfold Form.scanElements
      refine bind (hasItem _) fun follows left => ?_
      split
      · exact bind (longer.value _ _) fun _ _ => longer.elements _ _ _ _
      split
      · exact longer.elements _ _ _ _
      · exact stopSomewhere _

theorem scanMember (longer : Form.ScanExtends tail fuel more) (enough : fuel ≤ more)
    (fields : List Json.Field) (forms : List Form) (seen : List String) (name : String) :
    Extends tail (Form.scanMember fuel fields forms seen name)
      (Form.scanMember more fields forms seen name) bytes := by
  unfold Form.scanMember
  split
  · dsimp only
    split
    · exact stopSomewhere _
    · exact bind colon fun _ _ => bind (longer.value _ _) fun _ _ => longer.members _ _ _ _ _
  · exact bind colon fun _ _ => bind ((UnusedExtends.of_le enough).value _) fun _ _ =>
      longer.members _ _ _ _ _

theorem scanMembers (longer : Form.ScanExtends tail fuel more) (enough : fuel ≤ more)
    (fields : List Json.Field) (forms : List Form) (seen : List String) (isFirst : Bool) :
    Extends tail (Form.scanMembers (fuel + 1) fields forms seen isFirst)
      (Form.scanMembers (more + 1) fields forms seen isFirst) bytes := by
  rw [Form.scanMembers_succ, Form.scanMembers_succ]
  refine bind (hasMember _) fun follows left => ?_
  split
  · exact bind string fun name _ => scanMember longer enough fields forms seen name
  · unfold Form.unlacking
    split
    · exact stopSomewhere _
    · exact pure _

end Scan.Extends

namespace Form.ScanExtends

variable {tail : List UInt8} [Closed tail] {fuel more : Nat}

theorem of_le (enough : fuel ≤ more) : ScanExtends tail fuel more := by
  induction fuel generalizing more with
  | zero =>
      exact ⟨fun _ _ => .stopSomewhere _, fun _ _ _ => .stopSomewhere _,
        fun _ _ _ _ => .stopSomewhere _, fun _ _ _ _ _ => .stopSomewhere _⟩
  | succ fuel induction =>
      obtain ⟨more, rfl⟩ : ∃ less, more = less + 1 := ⟨more - 1, by omega⟩
      have less := Nat.le_of_succ_le_succ enough
      have longer := induction less
      exact ⟨fun form _ => .scan longer form, fun item isFirst _ => .scanItems longer item isFirst,
        fun wanted count parts _ => .scanElements longer wanted count parts,
        fun fields forms seen isFirst _ => .scanMembers longer less fields forms seen isFirst⟩

end Form.ScanExtends

end LoadChart
