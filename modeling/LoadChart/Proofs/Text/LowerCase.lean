import LoadChart.Text.Letters

/-!
# Lower case in context

The lower-case form of a part of a text depends on what stands around it only through its capital
sigmas, each of which has to be told whether it ends a word.  So a part has the lower-case form that
it would have alone exactly if its capital sigmas end words in the text where they do so in the
part.
-/

namespace LoadChart

theorem occursIn_iff {pattern text : List Char} :
    occursIn pattern text = true ↔ pattern <:+: text := by
  induction text with
  | nil => rw [occursIn, List.isEmpty_iff, List.infix_nil]
  | cons letter rest induction =>
      rw [occursIn, Bool.or_eq_true, induction, List.isPrefixOf_iff_prefix, List.infix_cons_iff]

namespace LetterCase

/-- Whether a capital sigma ends a word between some letters, of which those before it stand nearest
first. -/
def endsWord (before after : List Char) : Bool := meetsCased before && !meetsCased after

/-- The lower-case form of letters between others, of which those before stand nearest first. -/
def lowerWithin (before : List Char) : (letters after : List Char) → List Char
  | [], _ => []
  | letter :: rest, after =>
      lowerLetter before letter (rest ++ after) ++ lowerWithin (letter :: before) rest after

/-- The capital sigmas of some letters end words among two neighbourhoods alike. -/
def SigmasAgree (letters before after before' after' : List Char) : Prop :=
  ∀ first last, letters = first ++ '\u03a3' :: last →
    endsWord (first.reverse ++ before) (last ++ after) =
      endsWord (first.reverse ++ before') (last ++ after')

theorem lowerLetter_sigma (before after : List Char) :
    lowerLetter before '\u03a3' after = if endsWord before after then ['\u03c2'] else ['\u03c3'] :=
  if_pos rfl

theorem lowerLetter_of_ne {letter : Char} (noSigma : letter ≠ '\u03a3') (before after : List Char) :
    lowerLetter before letter after = lowerLetter [] letter [] := by
  rw [lowerLetter, lowerLetter, if_neg noSigma, if_neg noSigma]

theorem lowerLetter_length (letter : Char) (before after before' after' : List Char) :
    (lowerLetter before letter after).length = (lowerLetter before' letter after').length := by
  by_cases sigma : letter = '\u03a3'
  · rw [sigma, lowerLetter_sigma, lowerLetter_sigma]
    cases endsWord before after <;> cases endsWord before' after' <;> rfl
  · rw [lowerLetter_of_ne sigma, lowerLetter_of_ne sigma before']

theorem lowerLetter_eq_iff {letter : Char} {before after before' after' : List Char} :
    lowerLetter before letter after = lowerLetter before' letter after' ↔
      (letter = '\u03a3' → endsWord before after = endsWord before' after') := by
  by_cases sigma : letter = '\u03a3'
  · rw [sigma, lowerLetter_sigma, lowerLetter_sigma]
    cases endsWord before after <;> cases endsWord before' after' <;> decide
  · rw [lowerLetter_of_ne sigma, lowerLetter_of_ne sigma before']
    simp [sigma]

variable {letters before after before' after' : List Char}

theorem sigmasAgree_cons {letter : Char} :
    SigmasAgree (letter :: letters) before after before' after' ↔
      (letter = '\u03a3' →
        endsWord before (letters ++ after) = endsWord before' (letters ++ after')) ∧
      SigmasAgree letters (letter :: before) after (letter :: before') after' := by
  constructor
  · intro agree
    constructor
    · rintro rfl
      exact agree [] letters rfl
    · rintro first last rfl
      simpa using agree (letter :: first) last rfl
  · rintro ⟨here, agree⟩ first last split
    cases first with
    | nil =>
        cases split
        exact here rfl
    | cons own first =>
        cases split
        simpa using agree first last rfl

/-- Letters have one form in two neighbourhoods exactly if their capital sigmas end words alike. -/
theorem lowerWithin_eq_iff :
    lowerWithin before letters after = lowerWithin before' letters after' ↔
      SigmasAgree letters before after before' after' := by
  induction letters generalizing before before' with
  | nil => simp [lowerWithin, SigmasAgree]
  | cons letter rest induction =>
      rw [lowerWithin, lowerWithin, sigmasAgree_cons, ← lowerLetter_eq_iff, ← induction]
      constructor
      · exact fun same => List.append_inj same (lowerLetter_length ..)
      · rintro ⟨sameLetter, sameRest⟩
        rw [sameLetter, sameRest]

theorem lowerAfter_eq (before letters : List Char) :
    lowerAfter before letters = lowerWithin before letters [] := by
  induction letters generalizing before with
  | nil => rfl
  | cons letter rest induction => rw [lowerAfter, lowerWithin, induction, List.append_nil]

theorem lowerWithin_append (before first last after : List Char) :
    lowerWithin before (first ++ last) after =
      lowerWithin before first (last ++ after) ++ lowerWithin (first.reverse ++ before) last after := by
  induction first generalizing before with
  | nil => rfl
  | cons letter rest induction =>
      rw [List.cons_append, lowerWithin, lowerWithin, induction, List.append_assoc,
        List.append_assoc, List.reverse_cons, List.append_assoc, List.singleton_append]

/-- The lower-case form of a text has in the place of a part the form of the part between what
stands around it. -/
theorem lower_append (front letters back : List Char) :
    lower (front ++ letters ++ back) =
      lowerWithin [] front (letters ++ back) ++ lowerWithin front.reverse letters back ++
        lowerWithin (letters.reverse ++ front.reverse) back [] := by
  rw [lower, lowerAfter_eq, lowerWithin_append, lowerWithin_append, List.append_nil,
    List.append_nil, List.append_nil, List.reverse_append]

theorem meetsCased_append (near far : List Char) :
    meetsCased (near ++ far) = if near.all isIgnorable then meetsCased far else meetsCased near := by
  induction near with
  | nil => rfl
  | cons letter rest induction =>
      by_cases ignorable : isIgnorable letter = true
      · have skip : ∀ others, meetsCased (letter :: others) = meetsCased others := by
          intro others
          rw [meetsCased, meetsCased, List.dropWhile_cons_of_pos ignorable]
        rw [List.cons_append, skip, induction, skip, List.all_cons, ignorable, Bool.true_and]
      · have stays : ∀ others, meetsCased (letter :: others) = isCased letter := by
          intro others
          rw [meetsCased, List.dropWhile_cons_of_neg ignorable]
        rw [List.cons_append, stays, stays, List.all_cons, Bool.eq_false_iff.2 ignorable]
        rfl

theorem meetsCased_of_all {letters : List Char} (passed : letters.all isIgnorable = true) :
    meetsCased letters = false := by
  have ending := meetsCased_append letters []
  rw [List.append_nil, if_pos passed] at ending
  exact ending

theorem meetsCased_append_of_not {near far : List Char} (none : meetsCased far = false) :
    meetsCased (near ++ far) = meetsCased near := by
  rw [meetsCased_append]
  split
  next passed => rw [none, meetsCased_of_all passed]
  next => rfl

theorem SigmasAgree.of_not_meetsCased (noneBefore : meetsCased before = false)
    (noneAfter : meetsCased after = false) : SigmasAgree letters before after [] [] := by
  intro first last _
  rw [endsWord, endsWord, meetsCased_append_of_not noneBefore, meetsCased_append_of_not noneAfter,
    List.append_nil, List.append_nil]

theorem SigmasAgree.of_not_mem (noSigma : '\u03a3' ∉ letters) :
    SigmasAgree letters before after before' after' := by
  rintro first last rfl
  exact absurd (List.mem_append_right first List.mem_cons_self) noSigma

end LetterCase

end LoadChart
