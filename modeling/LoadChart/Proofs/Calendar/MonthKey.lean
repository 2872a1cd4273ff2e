import LoadChart.Calendar.Text
import LoadChart.Proofs.Calendar.Month
import LoadChart.Proofs.Text.Digits

/-!
# Month keys that are read again

The key of a month is read as its first day, whatever the year: one of four digits, a longer one
with a sign, or one before the year 0.  So a key names one month, and its label is that of the
month.
-/

namespace LoadChart

open CivilDate

namespace Day

theorem trimBlankStart_of_visible {letter : Char} (visible : isBlank letter = false)
    (rest : List Char) : trimBlankStart (letter :: rest) = letter :: rest :=
  List.dropWhile_cons_of_neg (by simp [visible])

theorem isBlank_of_isDigit {letter : Char} (digit : isDigit letter = true) :
    isBlank letter = false := by
  simp only [isDigit, Bool.and_eq_true, decide_eq_true_eq] at digit
  simp [isBlank]
  omega

theorem paddedDigits_begins (width number : Nat) :
    ∃ digit others, paddedDigits width number = digit :: others ∧ isDigit digit = true := by
  obtain ⟨first, rest, begins, _⟩ := digitsOfNumber_begins number
  cases letters : paddedDigits width number with
  | nil => simp [paddedDigits, begins] at letters
  | cons digit others =>
      exact ⟨digit, others, rfl, isDigit_of_mem_paddedDigits digit (letters ▸ List.mem_cons_self)⟩

theorem readYear?_signed {sign : Char} (isSign : sign = '-' ∨ sign = '+') (number : Nat)
    (rest : List Char) :
    readYear? (sign :: paddedDigits 4 number ++ '-' :: rest) =
      some (if sign = '-' then -(number : Int) else number, '-' :: rest) := by
  have digits : readAllDigits? (paddedDigits 4 number ++ '-' :: rest) =
      some (number, '-' :: rest) :=
    readDigits?_paddedDigits (by simp) (by rintro _ ⟨⟩; rfl)
  rcases isSign with rfl | rfl
  all_goals
    rw [List.cons_append, readYear?, trimBlankStart_of_visible (by decide)]
    simp [digits]

theorem readYear?_unsigned {number : Nat} (small : number < 10 ^ 4) (rest : List Char) :
    readYear? (paddedDigits 4 number ++ '-' :: rest) = some ((number : Int), '-' :: rest) := by
  have digits : readDigits? 4 (paddedDigits 4 number ++ '-' :: rest) = some (number, '-' :: rest) :=
    readDigits?_paddedDigits (paddedDigits_length (by decide) small).le (by rintro _ ⟨⟩; rfl)
  obtain ⟨digit, others, begins, isDigit⟩ := paddedDigits_begins 4 number
  rw [begins] at digits ⊢
  rw [readYear?, List.cons_append, trimBlankStart_of_visible (isBlank_of_isDigit isDigit)]
  split
  next same =>
    cases same
    cases isDigit
  next same =>
    cases same
    cases isDigit
  next => rw [← List.cons_append, digits, Option.map_some]

/-- A year is read as it was written, up to the hyphen behind it. -/
theorem readYear?_yearText (year : Int) (rest : List Char) :
    readYear? ((yearText year).toList ++ '-' :: rest) = some (year, '-' :: rest) := by
  unfold yearText
  split
  next negative =>
    have own : -(year.natAbs : Int) = year := by omega
    simp only [String.toList_append, paddedText, String.toList_ofList]
    rw [show "-".toList = ['-'] from rfl, List.singleton_append,
      readYear?_signed (Or.inl rfl), if_pos rfl, own]
  · split
    next large =>
      have own : (year.natAbs : Int) = year := by omega
      simp only [String.toList_append, paddedText, String.toList_ofList]
      rw [show "+".toList = ['+'] from rfl, List.singleton_append,
        readYear?_signed (Or.inr rfl), if_neg (by decide), own]
    next =>
      have own : (year.natAbs : Int) = year := by omega
      rw [paddedText, String.toList_ofList, readYear?_unsigned (by omega), own]

/-- A month or a day of the month is read as it was written, up to a letter that is no digit. -/
theorem readShortNumber?_paddedDigits {number : Nat} {rest : List Char} (small : number < 10 ^ 2)
    (ends : ∀ letter ∈ rest.head?, isDigit letter = false) :
    readShortNumber? (paddedDigits 2 number ++ rest) = some (number, rest) := by
  have digits : readDigits? 2 (paddedDigits 2 number ++ rest) = some (number, rest) :=
    readDigits?_paddedDigits (paddedDigits_length (by decide) small).le ends
  obtain ⟨digit, others, begins, isDigit⟩ := paddedDigits_begins 2 number
  rw [begins] at digits ⊢
  rw [readShortNumber?, List.cons_append, trimBlankStart_of_visible (isBlank_of_isDigit isDigit)]
  exact digits

theorem monthStart_civil (day : Day) : day.monthStart.civil = { day.civil with day := 1 } := by
  obtain ⟨valid, ordinal⟩ := monthFirst_spec day.ordinal
  rw [civil, monthStart_ordinal, ← ordinal, ofOrdinal_ordinal valid]
  rfl

theorem ofCivil?_monthStart (day : Day) :
    ofCivil? { day.civil with day := 1 } = some day.monthStart := by
  obtain ⟨valid, ordinal⟩ := monthFirst_spec day.ordinal
  change ofCivil? (monthFirst day.ordinal) = some day.monthStart
  rw [ofCivil?, if_pos valid, ordinal, ← monthStart_ordinal, ofOrdinal?_ordinal]

theorem month_bounds (day : Day) : 1 ≤ day.month ∧ day.month ≤ 12 := by
  obtain ⟨low, high, _, _⟩ := (exists?_iff _).1 (ofOrdinal_spec day.ordinal).1
  exact ⟨low, high⟩

theorem monthKey_letters (day : Day) :
    day.monthKey.toList ++ "-01".toList =
      (yearText day.year).toList ++ '-' :: (paddedDigits 2 day.month ++
        '-' :: (paddedDigits 2 1 ++ [])) := by
  have first : paddedDigits 2 1 = ['0', '1'] := by
    rw [paddedDigits, digitsOfNumber_of_lt (by decide)]
    rfl
  rw [first]
  simp [monthKey, paddedText, year, month]

theorem ofMonthKey?_monthKey (day : Day) : ofMonthKey? day.monthKey = some day.monthStart := by
  have small : day.month < 10 ^ 2 := Nat.lt_of_le_of_lt (month_bounds day).2 (by decide)
  have month : readShortNumber? (paddedDigits 2 day.month ++ '-' :: (paddedDigits 2 1 ++ [])) =
      some (day.month, '-' :: (paddedDigits 2 1 ++ [])) :=
    readShortNumber?_paddedDigits small (by rintro _ ⟨⟩; rfl)
  have first : readShortNumber? (paddedDigits 2 1 ++ []) = some (1, []) :=
    readShortNumber?_paddedDigits (by decide) (by rintro _ ⟨⟩)
  rw [ofMonthKey?, monthKey_letters, readWith?, readYear?_yearText]
  simp only [Option.bind_eq_bind, Option.bind_some, id, readHyphen?, month, first]
  exact ofCivil?_monthStart day

theorem labelOfMonthKey_monthKey (day : Day) : labelOfMonthKey day.monthKey = day.monthLabel := by
  rw [labelOfMonthKey, ofMonthKey?_monthKey]
  simp only [monthLabel, monthStart_civil]

end Day

end LoadChart
