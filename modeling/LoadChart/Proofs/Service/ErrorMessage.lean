import LoadChart.Proofs.Json.Written
import LoadChart.Service.Body
import Mathlib.Data.List.Nodup

/-!
# Messages of error bodies

An error body that is an object tells a message if exactly one of the three names of a message
stands in it, and with a text.  With two of the names it tells none, and its own text or the
fallback is shown instead.
-/

namespace LoadChart

namespace Body

def messageNames : List String := ["message", "detail", "error"]

def ownText (body fallback : String) : String :=
  let text := trimText body
  if !text.isEmpty && text.utf8ByteSize ≤ shortText then text else fallback

/-- One of the names of a message stands alone among members, and with a text. -/
def TellsAlone (members : List (String × Json)) (text : String) : Prop :=
  ∃ name ∈ messageNames, (name, Json.string text) ∈ members ∧
    ∀ other ∈ messageNames, other ∈ members.map Prod.fst → other = name

theorem errorMessage_eq (body fallback : String) :
    errorMessage body fallback = (message? body).getD (ownText body fallback) := by
  unfold errorMessage ownText
  cases message? body with
  | none => rw [Option.getD_none]
  | some message => rw [Option.getD_some]

theorem isNamed_messageField (name : String) :
    messageField.isNamed name = true ↔ name ∈ messageNames := by
  have names : messageNames = messageField.name :: messageField.aliases := rfl
  rw [Json.Field.isNamed, Bool.or_eq_true, beq_iff_eq, List.contains_iff_mem, names, List.mem_cons,
    eq_comm]

variable {body text : String} {members : List (String × Json)}

theorem mem_membersFor {member : String × Json} :
    member ∈ Json.membersFor members messageField ↔
      member ∈ members ∧ member.1 ∈ messageNames := by
  rw [Json.membersFor, List.mem_filter, isNamed_messageField]

theorem message?_of_object (read : Json.ofText? body = some (.object members)) :
    message? body =
      match Json.membersFor members messageField with
      | [member] => Json.string? member.2
      | _ => none := by
  rw [message?, read]
  simp only [Option.bind_eq_bind, Option.bind_some, Json.record?, List.all_cons, List.all_nil,
    Bool.and_true, List.filterMap_cons, List.filterMap_nil]
  cases Json.membersFor members messageField with
  | nil => rfl
  | cons member others => cases others <;> rfl

theorem membersFor_of_tellsAlone (distinct : (members.map Prod.fst).Nodup)
    (alone : TellsAlone members text) :
    ∃ name, Json.membersFor members messageField = [(name, .string text)] := by
  obtain ⟨name, isName, member, only⟩ := alone
  obtain ⟨front, back, rfl⟩ := List.append_of_mem member
  refine ⟨name, ?_⟩
  rw [List.map_append, List.map_cons, List.nodup_middle, List.nodup_cons, List.mem_append,
    not_or] at distinct
  obtain ⟨⟨notBefore, notBehind⟩, _⟩ := distinct
  have others : ∀ part, part ⊆ front ++ (name, Json.string text) :: back →
      name ∉ part.map Prod.fst → part.filter (messageField.isNamed ·.1) = [] := by
    intro part within absent
    refine List.filter_eq_nil_iff.2 fun other isOther named => absent ?_
    rw [← only other.1 ((isNamed_messageField other.1).1 named)
      (List.mem_map_of_mem (within isOther))]
    exact List.mem_map_of_mem isOther
  have beforeAll := others front (List.subset_append_left _ _) notBefore
  have behindAll := others back
    (fun _ isLater => List.mem_append_right _ (List.mem_cons_of_mem _ isLater)) notBehind
  rw [Json.membersFor, List.filter_append, List.filter_cons,
    if_pos ((isNamed_messageField name).2 isName), beforeAll, behindAll, List.nil_append]

theorem tellsAlone_of_membersFor {name : String}
    (only : Json.membersFor members messageField = [(name, .string text)]) :
    TellsAlone members text := by
  have member : (name, Json.string text) ∈ Json.membersFor members messageField := by
    rw [only]
    exact List.mem_cons_self
  obtain ⟨isMember, isName⟩ := mem_membersFor.1 member
  refine ⟨name, isName, isMember, fun other isOther present => ?_⟩
  obtain ⟨own, isOwn, rfl⟩ := List.mem_map.1 present
  have found := mem_membersFor.2 ⟨isOwn, isOther⟩
  rw [only, List.mem_singleton] at found
  rw [found]

theorem message?_eq_some_iff (read : Json.ofText? body = some (.object members))
    (distinct : (members.map Prod.fst).Nodup) :
    message? body = some text ↔ TellsAlone members text := by
  rw [message?_of_object read]
  constructor
  · intro told
    split at told
    next member only =>
      obtain ⟨name, value⟩ := member
      cases value with
      | string own =>
          cases told
          exact tellsAlone_of_membersFor only
      | _ => cases told
    · cases told
  · intro alone
    obtain ⟨name, only⟩ := membersFor_of_tellsAlone distinct alone
    rw [only]
    rfl

theorem not_tellsAlone_of_two {first second : String} (isFirst : first ∈ messageNames)
    (isSecond : second ∈ messageNames) (apart : first ≠ second)
    (hasFirst : first ∈ members.map Prod.fst) (hasSecond : second ∈ members.map Prod.fst) :
    ¬TellsAlone members text := by
  rintro ⟨name, _, _, only⟩
  exact apart ((only first isFirst hasFirst).trans (only second isSecond hasSecond).symm)

theorem errorMessage_of_tellsAlone (read : Json.ofText? body = some (.object members))
    (distinct : (members.map Prod.fst).Nodup) (alone : TellsAlone members text)
    (fallback : String) : errorMessage body fallback = text := by
  rw [errorMessage_eq, (message?_eq_some_iff read distinct).2 alone, Option.getD_some]

theorem errorMessage_of_untold (read : Json.ofText? body = some (.object members))
    (distinct : (members.map Prod.fst).Nodup) (untold : ∀ text, ¬TellsAlone members text)
    (fallback : String) : errorMessage body fallback = ownText body fallback := by
  have none : message? body = none := Option.eq_none_iff_forall_ne_some.2 fun text told =>
    untold text ((message?_eq_some_iff read distinct).1 told)
  rw [errorMessage_eq, none, Option.getD_none]

/-- The message of an error body that is an object, without two members of one name, is shown if one
of the names of a message stands alone in it.  Otherwise the body itself is shown, or the fallback
in place of a long one. -/
theorem errorMessage_tells_alone (read : Json.ofText? body = some (.object members))
    (distinct : (members.map Prod.fst).Nodup) (fallback : String) :
    (∀ text, TellsAlone members text → errorMessage body fallback = text) ∧
      ((∀ text, ¬TellsAlone members text) →
        errorMessage body fallback = ownText body fallback) :=
  ⟨fun _ alone => errorMessage_of_tellsAlone read distinct alone fallback,
    fun untold => errorMessage_of_untold read distinct untold fallback⟩

def detailMembers : List (String × Json) :=
  [("code", .integer 404), ("detail", .string "Program not found")]

def twofoldMembers : List (String × Json) :=
  [("error", .string "Bad Request"), ("message", .string "Unknown program")]

theorem ofText?_detailMembers :
    Json.ofText? (Json.object detailMembers).indentedText = some (.object detailMembers) := by
  refine Json.ofText?_indentedText (.object fun member isMember => ?_)
  rcases List.mem_pair.1 isMember with rfl | rfl
  · exact .integer (by decide) (by decide)
  · exact .string _

theorem ofText?_twofoldMembers :
    Json.ofText? (Json.object twofoldMembers).indentedText = some (.object twofoldMembers) := by
  refine Json.ofText?_indentedText (.object fun member isMember => ?_)
  rcases List.mem_pair.1 isMember with rfl | rfl <;> exact .string _

theorem not_tellsAlone_twofoldMembers (text : String) : ¬TellsAlone twofoldMembers text :=
  not_tellsAlone_of_two (by decide) (by decide) (show "error" ≠ "message" by decide)
    (by simp [twofoldMembers]) (by simp [twofoldMembers])

theorem errorMessage_tells_alone_detail :
    errorMessage (Json.object detailMembers).indentedText "Not Found" = "Program not found" ∧
      errorMessage (Json.object twofoldMembers).indentedText "Bad Request" =
        "\x7b\n  \"error\": \"Bad Request\",\n  \"message\": \"Unknown program\"\n\x7d" := by
  constructor
  · refine (errorMessage_tells_alone ofText?_detailMembers (by decide) "Not Found").1 _
      ⟨"detail", by decide, by simp [detailMembers], ?_⟩
    decide
  · refine ((errorMessage_tells_alone ofText?_twofoldMembers (by decide) "Bad Request").2
      not_tellsAlone_twofoldMembers).trans ?_
    decide +kernel

/-- A message beside the kind of the error is not shown. -/
theorem errorMessage_not_always_message :
    ¬∀ (body : String) (members : List (String × Json)) (text fallback : String),
      Json.ofText? body = some (.object members) → (members.map Prod.fst).Nodup →
        ("message", Json.string text) ∈ members → errorMessage body fallback = text := by
  intro always
  have shown := always (Json.object twofoldMembers).indentedText twofoldMembers "Unknown program"
    "Bad Request" ofText?_twofoldMembers (by decide) (by simp [twofoldMembers])
  rw [errorMessage_of_untold ofText?_twofoldMembers (by decide) not_tellsAlone_twofoldMembers]
    at shown
  revert shown
  decide +kernel

end Body

end LoadChart
