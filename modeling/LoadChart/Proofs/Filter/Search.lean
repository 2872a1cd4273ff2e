import LoadChart.Filter
import LoadChart.Proofs.Text.LowerCase

/-!
# Searching for what is there

A term that stands in the code or the name of a lane is found there exactly where its capital sigmas
end words in the text as they do in the term.  So a term without a capital sigma is always found,
and so is one that stands as words of their own; a term that is cut out of a word may be missed.
-/

namespace LoadChart

namespace Filter

open LetterCase (lower lowerWithin SigmasAgree meetsCased lower_append lowerWithin_eq_iff lowerAfter_eq)

variable {filter : Filter} {lane : Lane} {term text : String} {front back : List Char}

theorem textHolds_iff :
    textHolds term text = true ↔ lower term.toList <:+: lower text.toList := occursIn_iff

theorem lower_eq_lowerWithin (letters : List Char) : lower letters = lowerWithin [] letters [] :=
  lowerAfter_eq [] letters

/-- The place of a term in the lower-case form of a text holds the lower-case form of the term
exactly if its capital sigmas end words alike. -/
theorem lower_at_place (stands : text.toList = front ++ term.toList ++ back) :
    ∃ middle,
      lower text.toList =
          lowerWithin [] front (term.toList ++ back) ++ middle ++
            lowerWithin (term.toList.reverse ++ front.reverse) back [] ∧
        (middle = lower term.toList ↔ SigmasAgree term.toList front.reverse back [] []) := by
  refine ⟨_, stands ▸ lower_append front term.toList back, ?_⟩
  rw [lower_eq_lowerWithin, lowerWithin_eq_iff]

theorem textHolds_of_sigmasAgree (stands : text.toList = front ++ term.toList ++ back)
    (agree : SigmasAgree term.toList front.reverse back [] []) : textHolds term text = true := by
  obtain ⟨middle, form, atPlace⟩ := lower_at_place stands
  rw [textHolds_iff, form, atPlace.2 agree]
  exact ⟨_, _, rfl⟩

theorem matchesSearch_empty (filter : Filter) (lane : Lane) :
    (filter.withSearch "").matchesSearch lane = true := rfl

theorem accepts_of_matchesSearch (found : (filter.withSearch term).matchesSearch lane = true) :
    (filter.withSearch term).accepts lane = (filter.withSearch "").accepts lane := by
  rw [accepts, accepts, found, matchesSearch_empty]
  rfl

theorem matchesSearch_of_textHolds (isShown : text = lane.code ∨ text = lane.name)
    (holds : textHolds term text = true) : (filter.withSearch term).matchesSearch lane = true := by
  rw [matchesSearch, Bool.or_eq_true, Bool.or_eq_true]
  rcases isShown with rfl | rfl
  · exact Or.inl (Or.inr holds)
  · exact Or.inr holds

theorem standard_accepts (lane : Lane) : standard.accepts lane = true := by
  have shown : standard.categories.contains lane.category = true := by
    cases lane.category <;> rfl
  rw [accepts, shown]
  rfl

/-- A term that stands in the code or the name of a lane has there the lower-case form that it has
alone exactly if its capital sigmas end words in the text as they do in the term.  If they do, the
search leaves the lane to the other parts of the filter, and with the standard ones it is shown.
They do if there are none, and if the term stands between letters without a case. -/
theorem search_finds_what_stands (filter : Filter) (isShown : text = lane.code ∨ text = lane.name)
    (stands : text.toList = front ++ term.toList ++ back) :
    (∃ middle,
      lower text.toList =
          lowerWithin [] front (term.toList ++ back) ++ middle ++
            lowerWithin (term.toList.reverse ++ front.reverse) back [] ∧
        (middle = lower term.toList ↔ SigmasAgree term.toList front.reverse back [] [])) ∧
    (SigmasAgree term.toList front.reverse back [] [] →
      (filter.withSearch term).accepts lane = (filter.withSearch "").accepts lane ∧
        (standard.withSearch term).accepts lane = true) ∧
    ('\u03a3' ∉ term.toList ∨ (meetsCased front.reverse = false ∧ meetsCased back = false) →
      SigmasAgree term.toList front.reverse back [] []) := by
  refine ⟨lower_at_place stands, ?_, ?_⟩
  · intro agree
    have holds := textHolds_of_sigmasAgree stands agree
    have left : ∀ other : Filter,
        (other.withSearch term).accepts lane = (other.withSearch "").accepts lane := fun other =>
      accepts_of_matchesSearch (matchesSearch_of_textHolds isShown holds)
    exact ⟨left filter, (left standard).trans (standard_accepts lane)⟩
  · rintro (noSigma | ⟨noneBefore, noneAfter⟩)
    · exact .of_not_mem noSigma
    · exact .of_not_meetsCased noneBefore noneAfter

/-- A lane of a road roller, with its Greek name. -/
def sampleLane : Lane :=
  { identifier := ⟨1⟩, code := "ΟΔΟΣ 5", name := "ΟΔΟΣΤΡΩΤΗΡΑΣ", category := .equipment, capacity := 8,
    pools := OrderedSet.empty, assignments := [], daily := [] }

/-- The word that stands alone in the code of the sample is found. -/
theorem search_finds_what_stands_in_code :
    (standard.withSearch "ΟΔΟΣ").accepts sampleLane = true := by
  have isShown : sampleLane.code = sampleLane.code ∨ sampleLane.code = sampleLane.name := Or.inl rfl
  have stands : sampleLane.code.toList = [] ++ "ΟΔΟΣ".toList ++ " 5".toList := by decide +kernel
  obtain ⟨_, found, agree⟩ := search_finds_what_stands standard isShown stands
  exact (found (agree (Or.inr ⟨rfl, by decide +kernel⟩))).2

/-- The beginning of a word can be missed: the capital sigma ends the term, but not the word. -/
theorem search_not_always_finding :
    ¬ ∀ (lane : Lane) (term : String),
      (term.toList <:+: lane.code.toList ∨ term.toList <:+: lane.name.toList) →
        (standard.withSearch term).accepts lane = true := by
  intro finds
  have missed : (standard.withSearch "ΟΔΟΣ").accepts { sampleLane with code := "RR-1" } = false := by
    decide +kernel
  have stands : "ΟΔΟΣ".toList <:+: "ΟΔΟΣΤΡΩΤΗΡΑΣ".toList := ⟨[], "ΤΡΩΤΗΡΑΣ".toList, by decide +kernel⟩
  rw [finds _ _ (Or.inr stands)] at missed
  cases missed

end Filter

end LoadChart
