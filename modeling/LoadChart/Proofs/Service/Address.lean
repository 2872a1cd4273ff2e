import LoadChart.Service.Request
import LoadChart.Settings
import Mathlib.Data.List.DropRight

/-!
# Addresses that are checked and addresses that are used

The address in the settings is checked without the blanks at its ends, but used with them.  So an
address of a request is built from the one that was checked exactly if that has no such blanks, as
every address from the environment.  It begins with a scheme exactly if something other than slashes
follows the scheme in the settings.
-/

namespace LoadChart

theorem rdropWhile_append_of_ne_nil {α : Type} {test : α → Bool} {front back : List α}
    (stops : back.rdropWhile test ≠ []) :
    (front ++ back).rdropWhile test = front ++ back.rdropWhile test := by
  have visible : back.reverse.dropWhile test ≠ [] := fun none => stops (congrArg List.reverse none)
  rw [List.rdropWhile, List.reverse_append, List.dropWhile_append,
    if_neg (by simpa using visible), List.reverse_append, List.reverse_reverse, List.rdropWhile]

theorem rdropWhile_append_of_pos {α : Type} {test : α → Bool} {front back : List α}
    (passes : ∀ item ∈ back, test item = true) :
    (front ++ back).rdropWhile test = front.rdropWhile test := by
  rw [List.rdropWhile, List.reverse_append,
    List.dropWhile_append_of_pos (by simpa using passes), List.rdropWhile]

theorem trimBlanks_eq (letters : List Char) :
    trimBlanks letters = (letters.dropWhile isBlank).rdropWhile isBlank := rfl

theorem toList_trimText (text : String) : (trimText text).toList = trimBlanks text.toList :=
  String.toList_ofList

theorem exists_blanks (letters : List Char) :
    ∃ front back, letters = front ++ trimBlanks letters ++ back ∧
      (∀ letter ∈ front, isBlank letter = true) ∧ ∀ letter ∈ back, isBlank letter = true := by
  refine ⟨letters.takeWhile isBlank, (letters.dropWhile isBlank).rtakeWhile isBlank, ?_,
    fun _ => List.mem_takeWhile_imp, fun _ => List.mem_rtakeWhile_imp⟩
  rw [trimBlanks_eq, List.append_assoc, List.rdropWhile_append_rtakeWhile,
    List.takeWhile_append_dropWhile]

theorem dropWhile_trimBlanks (letters : List Char) :
    (trimBlanks letters).dropWhile isBlank = trimBlanks letters := by
  have whole : letters.dropWhile isBlank = trimBlanks letters ++ _ :=
    List.rdropWhile_append_rtakeWhile.symm
  have first := List.head?_dropWhile_not isBlank letters
  cases core : trimBlanks letters with
  | nil => rfl
  | cons letter rest =>
      rw [whole, core] at first
      exact List.dropWhile_cons_of_neg (Bool.not_eq_true _ ▸ first)

theorem trimBlanks_trimBlanks (letters : List Char) :
    trimBlanks (trimBlanks letters) = trimBlanks letters := by
  rw [trimBlanks_eq (trimBlanks letters), dropWhile_trimBlanks, trimBlanks_eq,
    List.rdropWhile_idempotent]

theorem trimText_trimText (text : String) : trimText (trimText text) = trimText text := by
  rw [← String.toList_inj, toList_trimText, toList_trimText, trimBlanks_trimBlanks]

namespace ServiceAddress

variable {address path text : String} {base trailing leading rest letters : List Char}

theorem toList_trimSlashes (text : String) :
    (trimSlashes text).toList = text.toList.rdropWhile (· == '/') := String.toList_ofList

theorem toList_url (address path : String) :
    ((ofText address).url path).toList =
      address.toList.rdropWhile (· == '/') ++ '/' :: path.toList.dropWhile (· == '/') := by
  simp only [url, ofText, String.toList_append, toList_trimSlashes, String.toList_ofList,
    List.append_assoc]
  rfl

/-- A text is an address without the slashes at its end, one slash, and a path without those at its
beginning. -/
def IsJoined (address path text : String) : Prop :=
  ∃ base trailing leading rest : List Char,
    address.toList = base ++ trailing ∧ path.toList = leading ++ rest ∧
      (∀ letter ∈ trailing, letter = '/') ∧ (∀ letter ∈ leading, letter = '/') ∧
      base.getLast? ≠ some '/' ∧ rest.head? ≠ some '/' ∧ text.toList = base ++ '/' :: rest

theorem rdropWhile_slashes (slashes : ∀ letter ∈ trailing, letter = '/')
    (ends : base.getLast? ≠ some '/') : (base ++ trailing).rdropWhile (· == '/') = base := by
  rw [rdropWhile_append_of_pos (by simpa using slashes), List.rdropWhile_eq_self_iff]
  intro nonempty isSlash
  rw [List.getLast?_eq_some_getLast nonempty] at ends
  exact ends (congrArg some (beq_iff_eq.1 isSlash))

theorem dropWhile_slashes (slashes : ∀ letter ∈ leading, letter = '/')
    (begins : rest.head? ≠ some '/') : (leading ++ rest).dropWhile (· == '/') = rest := by
  rw [List.dropWhile_append_of_pos (by simpa using slashes)]
  cases rest with
  | nil => rfl
  | cons letter rest =>
      exact List.dropWhile_cons_of_neg fun isSlash =>
        begins (congrArg some (beq_iff_eq.1 isSlash))

theorem getLast?_rdropWhile (letters : List Char) :
    (letters.rdropWhile (· == '/')).getLast? ≠ some '/' := by
  intro ends
  have nonempty : letters.rdropWhile (· == '/') ≠ [] := by
    intro none
    rw [none] at ends
    cases ends
  rw [List.getLast?_eq_some_getLast nonempty] at ends
  exact List.rdropWhile_last_not _ _ nonempty (beq_iff_eq.2 (Option.some.inj ends))

theorem head?_dropWhile (letters : List Char) :
    (letters.dropWhile (· == '/')).head? ≠ some '/' := by
  intro begins
  have passes := List.head?_dropWhile_not (· == '/') letters
  rw [begins] at passes
  cases passes

theorem rdropWhile_ne_nil {letter : Char} (member : letter ∈ letters) (visible : letter ≠ '/') :
    letters.rdropWhile (· == '/') ≠ [] := fun none =>
  visible (beq_iff_eq.1 (List.rdropWhile_eq_nil_iff.1 none letter member))

theorem isJoined_iff : IsJoined address path text ↔ text = (ofText address).url path := by
  rw [← String.toList_inj, toList_url]
  constructor
  · rintro ⟨base, trailing, leading, rest, isAddress, isPath, trailingSlashes, leadingSlashes, ends,
      begins, isText⟩
    rw [isAddress, isPath, rdropWhile_slashes trailingSlashes ends,
      dropWhile_slashes leadingSlashes begins, isText]
  · intro isText
    refine ⟨_, address.toList.rtakeWhile (· == '/'), path.toList.takeWhile (· == '/'), _,
      List.rdropWhile_append_rtakeWhile.symm, List.takeWhile_append_dropWhile.symm,
      fun letter member => ?_, fun letter member => ?_, getLast?_rdropWhile _, head?_dropWhile _,
      isText⟩
    · have passes := List.mem_rtakeWhile_imp member
      exact beq_iff_eq.1 passes
    · have passes := List.mem_takeWhile_imp member
      exact beq_iff_eq.1 passes

theorem rdropWhile_concat_blank {blank : Char} (isBlank : isBlank blank = true) :
    (letters ++ [blank]).rdropWhile (· == '/') = letters ++ [blank] := by
  refine List.rdropWhile_concat_neg _ _ _ fun isSlash => ?_
  rw [beq_iff_eq.1 isSlash] at isBlank
  exact absurd isBlank (by decide)

/-- Blanks around something other than slashes change what is left without the slashes at its end.
-/
theorem trimSlashes_trimText_eq_iff {letter : Char} (member : letter ∈ (trimText text).toList)
    (visible : letter ≠ '/') :
    trimSlashes (trimText text) = trimSlashes text ↔ trimText text = text := by
  refine ⟨fun same => ?_, fun same => by rw [same]⟩
  rw [← String.toList_inj, toList_trimSlashes, toList_trimSlashes] at same
  rw [← String.toList_inj]
  obtain ⟨front, back, whole, -, blanks⟩ := exists_blanks text.toList
  rw [← toList_trimText] at whole
  rcases back.eq_nil_or_concat' with rfl | ⟨start, blank, rfl⟩
  · rw [List.append_nil] at whole
    rw [whole, rdropWhile_append_of_ne_nil (rdropWhile_ne_nil member visible),
      List.self_eq_append_left] at same
    rw [whole, same, List.nil_append]
  · -- The text ends in a blank, so no slash is taken off it.
    have shorter := (List.rdropWhile_prefix (· == '/') (l := (trimText text).toList)).length_le
    rw [same, whole, ← List.append_assoc, rdropWhile_concat_blank (blanks blank (by simp))] at shorter
    simp only [List.length_append, List.length_cons] at shorter
    omega

/-- An address goes on after its scheme, and not with slashes only. -/
def NamesHost (address : String) : Prop :=
  ∃ scheme ∈ ["http://", "https://"], ∃ rest, address.toList = scheme.toList ++ rest ∧
    ∃ letter ∈ rest, letter ≠ '/'

variable {word front : List Char}

/-- Two slashes in a row are not made by joining. -/
theorem prefix_joined_iff (noSlash : '/' ∉ word) (ends : front.getLast? ≠ some '/')
    (begins : rest.head? ≠ some '/') :
    word ++ ['/', '/'] <+: front ++ '/' :: rest ↔ word ++ ['/', '/'] <+: front := by
  refine ⟨fun found => ?_, fun found => found.trans (List.prefix_append _ _)⟩
  induction word generalizing front with
  | nil =>
      -- A front that ends within the two slashes would end in one, or the rest begin with one.
      match front with
      | [] =>
          cases rest with
          | nil => simp at found
          | cons letter rest =>
              have isSlash : '/' = letter := by simpa using found
              exact absurd (congrArg some isSlash.symm) begins
      | [letter] =>
          have isSlash : '/' = letter := by simpa using found
          exact absurd (congrArg some isSlash.symm) ends
      | first :: second :: front => simpa using found
  | cons letter word ih =>
      have differs : letter ≠ '/' := fun same => noSlash (same ▸ List.mem_cons_self)
      cases front with
      | nil => exact absurd (List.cons_prefix_cons.1 found).1 differs
      | cons first front =>
          rw [List.cons_append, List.cons_append, List.cons_prefix_cons] at found
          obtain ⟨rfl, found⟩ := found
          refine List.cons_prefix_cons.2 ⟨rfl, ih (fun member => noSlash (.tail _ member)) ?_ found⟩
          cases front with
          | nil => simp
          | cons second front => rwa [List.getLast?_cons_cons] at ends

theorem prefix_rdropWhile_iff :
    word ++ ['/', '/'] <+: letters.rdropWhile (· == '/') ↔
      ∃ rest, letters = word ++ ['/', '/'] ++ rest ∧ ∃ letter ∈ rest, letter ≠ '/' := by
  constructor
  · rintro ⟨rest, isTrimmed⟩
    have whole : letters.rdropWhile (· == '/') ++ letters.rtakeWhile (· == '/') = letters :=
      List.rdropWhile_append_rtakeWhile
    refine ⟨rest ++ letters.rtakeWhile (· == '/'), ?_, ?_⟩
    · rw [← List.append_assoc, isTrimmed, whole]
    · by_contra none
      have ends := getLast?_rdropWhile letters
      rw [← isTrimmed, List.getLast?_append] at ends
      cases last : rest.getLast? with
      | none => simp [last] at ends
      | some letter =>
          have member := List.mem_of_getLast? last
          have differs : letter ≠ '/' := by
            rintro rfl
            simp [last] at ends
          exact none ⟨letter, List.mem_append_left _ member, differs⟩
  · rintro ⟨rest, rfl, letter, member, differs⟩
    rw [rdropWhile_append_of_ne_nil (rdropWhile_ne_nil member differs)]
    exact List.prefix_append _ _

theorem hasScheme_iff :
    Settings.hasScheme text = true ↔ "http:".toList ++ ['/', '/'] <+: text.toList ∨
      "https:".toList ++ ['/', '/'] <+: text.toList := by
  rw [Settings.hasScheme, Bool.or_eq_true, List.isPrefixOf_iff_prefix, List.isPrefixOf_iff_prefix]
  rfl

theorem hasScheme_url_iff :
    Settings.hasScheme ((ofText address).url path) = true ↔ NamesHost address := by
  have scheme (word : List Char) (noSlash : '/' ∉ word) :
      word ++ ['/', '/'] <+: ((ofText address).url path).toList ↔
        ∃ rest, address.toList = word ++ ['/', '/'] ++ rest ∧ ∃ letter ∈ rest, letter ≠ '/' := by
    rw [toList_url, prefix_joined_iff noSlash (getLast?_rdropWhile _) (head?_dropWhile _),
      prefix_rdropWhile_iff]
  rw [hasScheme_iff, scheme _ (by decide), scheme _ (by decide), NamesHost, List.exists_mem_cons_iff,
    List.exists_mem_cons_iff]
  simp

end ServiceAddress

namespace Settings

open ServiceAddress (IsJoined NamesHost)

variable {settings : Settings} {lookUp : String → Option String} {value : String}

theorem exists_visible_of_problem?_eq_none (accepted : settings.problem? = none) :
    ∃ letter ∈ (trimText settings.serviceAddress).toList, letter ≠ '/' := by
  refine ⟨'h', ?_, by decide⟩
  rcases ServiceAddress.hasScheme_iff.1 (problem?_eq_none.1 accepted).1 with found | found
  · exact found.subset (by decide)
  · exact found.subset (by decide)

theorem serviceAddress_override (stored : Settings) (isSet : lookUp addressVariable = some value)
    (visible : (trimText value).isEmpty = false) :
    (stored.override lookUp).serviceAddress = trimText value := by
  simp [override, isSet, visible]

/-- The address of a request is joined from the address that was checked exactly if there were no
blanks around that, and there are none if it came from the environment.  It begins with a scheme
exactly if the address that was not trimmed does and goes on with more than slashes. -/
theorem url_of_accepted_address (stored : Settings) (lookUp : String → Option String) (path : String)
    (accepted : (stored.override lookUp).problem? = none) :
    let address := (stored.override lookUp).serviceAddress
    let url := (ServiceAddress.ofText address).url path
    (IsJoined (trimText address) path url ↔ trimText address = address) ∧
      (hasScheme url = true ↔ NamesHost address) ∧
      ∀ value, lookUp addressVariable = some value → (trimText value).isEmpty = false →
        trimText address = address := by
  intro address url
  refine ⟨?_, ServiceAddress.hasScheme_url_iff, ?_⟩
  · obtain ⟨letter, member, visible⟩ := exists_visible_of_problem?_eq_none accepted
    rw [← ServiceAddress.trimSlashes_trimText_eq_iff member visible, ServiceAddress.isJoined_iff,
      ← String.toList_inj, ServiceAddress.toList_url, ServiceAddress.toList_url,
      List.append_left_inj, ← String.toList_inj, ServiceAddress.toList_trimSlashes,
      ServiceAddress.toList_trimSlashes, eq_comm]
  · intro value isSet visible
    have isTrimmed : address = trimText value := serviceAddress_override stored isSet visible
    rw [isTrimmed, trimText_trimText]

def sampleBlank : Settings := { standard with serviceAddress := " http://host/api" }

def sampleLookUp (name : String) : Option String :=
  if name = addressVariable then some " https://service.test/api/ " else none

/-- The blanks of the environment are trimmed, those of the settings it overrides do not matter. -/
theorem url_of_accepted_address_from_environment :
    (sampleBlank.override sampleLookUp).problem? = none ∧
      let url := (ServiceAddress.ofText (sampleBlank.override sampleLookUp).serviceAddress).url "/x"
      IsJoined "https://service.test/api/" "/x" url ∧ hasScheme url = true := by
  have accepted : (sampleBlank.override sampleLookUp).problem? = none :=
    problem?_eq_none.2 ⟨by decide, by decide, by decide⟩
  obtain ⟨joined, named, trimmed⟩ := url_of_accepted_address sampleBlank sampleLookUp "/x" accepted
  have isTrimmed := trimmed " https://service.test/api/ " (by decide) (by decide)
  refine ⟨accepted, joined.2 isTrimmed, named.2 ?_⟩
  exact ⟨"https://", by decide, "service.test/api/".toList, by decide, 's', by decide, by decide⟩

/-- Requests are not always sent to the address that was checked, nor to one with a scheme. -/
theorem url_not_always_of_checked_address :
    sampleBlank.problem? = none ∧
      ¬ IsJoined (trimText sampleBlank.serviceAddress) "x"
        ((ServiceAddress.ofText sampleBlank.serviceAddress).url "x") ∧
      hasScheme ((ServiceAddress.ofText sampleBlank.serviceAddress).url "x") = false := by
  refine ⟨problem?_eq_none.2 ⟨by decide, by decide, by decide⟩, ?_, by decide⟩
  rw [ServiceAddress.isJoined_iff]
  decide

end Settings

end LoadChart
