import LoadChart.Calendar.Day

/-!
# Years and months of the calendar

Every day number has one civil date, and every civil date that exists has one day number.  From
this follow the bounds of a month: the days that share a month are those from its first day up to
the first day of the next.
-/

namespace LoadChart

def yearLength (year : Int) : Nat := if isLeapYear year then 366 else 365

theorem daysBeforeYear_succ (year : Int) :
    daysBeforeYear (year + 1) = daysBeforeYear year + yearLength year := by
  unfold daysBeforeYear yearLength isLeapYear
  split
  next leap =>
    simp at leap
    omega
  next common =>
    simp at common
    omega

theorem daysBeforeYear_mono {earlier later : Int} (le : earlier ≤ later) :
    daysBeforeYear earlier ≤ daysBeforeYear later := by
  unfold daysBeforeYear
  omega

theorem yearOfOrdinal_bounds (ordinal : Int) :
    daysBeforeYear (yearOfOrdinal ordinal) ≤ ordinal ∧
      ordinal < daysBeforeYear (yearOfOrdinal ordinal + 1) := by
  unfold yearOfOrdinal
  dsimp only
  split
  next below =>
    have next : ordinal * 400 / 146097 - 1 + 1 = ordinal * 400 / 146097 := by omega
    rw [next]
    unfold daysBeforeYear at *
    omega
  next notBelow =>
    split
    next above =>
      unfold daysBeforeYear at *
      omega
    next => omega

theorem yearOfOrdinal_eq {ordinal year : Int} (le : daysBeforeYear year ≤ ordinal)
    (lt : ordinal < daysBeforeYear (year + 1)) : yearOfOrdinal ordinal = year := by
  obtain ⟨ownLe, ownLt⟩ := yearOfOrdinal_bounds ordinal
  have notBelow : ¬ yearOfOrdinal ordinal < year := by
    intro below
    have := daysBeforeYear_mono (Int.add_one_le_of_lt below)
    omega
  have notAbove : ¬ year < yearOfOrdinal ordinal := by
    intro above
    have := daysBeforeYear_mono (Int.add_one_le_of_lt above)
    omega
  omega

theorem monthLength_bounds (year : Int) (month : Nat) :
    28 ≤ monthLength year month ∧ monthLength year month ≤ 31 := by
  unfold monthLength
  split
  · split <;> omega
  all_goals omega

theorem daysBeforeMonth_succ (year : Int) {month : Nat} (positive : 1 ≤ month) :
    daysBeforeMonth year (month + 1) = daysBeforeMonth year month + monthLength year month := by
  cases month with
  | zero => omega
  | succ month => rfl

theorem daysBeforeMonth_lt (year : Int) {earlier later : Nat} (positive : 1 ≤ earlier)
    (lt : earlier < later) :
    daysBeforeMonth year earlier + monthLength year earlier ≤ daysBeforeMonth year later := by
  induction later with
  | zero => omega
  | succ later induction =>
      rcases Nat.lt_or_eq_of_le (Nat.le_of_lt_succ lt) with below | same
      · have before := induction below
        have next := daysBeforeMonth_succ year (Nat.le_trans positive (Nat.le_of_lt below))
        omega
      · subst same
        exact Nat.le_of_eq (daysBeforeMonth_succ year positive).symm

theorem daysBeforeMonth_twelve (year : Int) :
    daysBeforeMonth year 12 + 31 = yearLength year := by
  by_cases leap : isLeapYear year <;> simp [daysBeforeMonth, monthLength, yearLength, leap]

/-- Passing over months changes no day number, and stops in the month that is reached, if not
in the last one allowed. -/
theorem monthOfRemainder_spec (year : Int) (left month remainder : Nat) (positive : 1 ≤ month) :
    let found := monthOfRemainder year month remainder left
    daysBeforeMonth year month + remainder = daysBeforeMonth year found.1 + found.2 ∧
      month ≤ found.1 ∧ found.1 ≤ month + left ∧
      (found.1 < month + left → found.2 < monthLength year found.1) := by
  induction left generalizing month remainder with
  | zero => simp [monthOfRemainder]
  | succ left induction =>
      unfold monthOfRemainder
      split
      next fits => exact ⟨rfl, Nat.le_refl _, by omega, fun _ => fits⟩
      next beyond =>
        obtain ⟨same, low, high, fits⟩ :=
          induction (month + 1) (remainder - monthLength year month) (by omega)
        have next := daysBeforeMonth_succ year positive
        refine ⟨by omega, by omega, by omega, ?_⟩
        intro below
        exact fits (by omega)

namespace CivilDate

theorem exists?_iff (date : CivilDate) :
    date.exists? = true ↔ 1 ≤ date.month ∧ date.month ≤ 12 ∧ 1 ≤ date.day ∧
      date.day ≤ monthLength date.year date.month := by
  simp [exists?, and_assoc]

/-- The days of a year lie between the first of January and that of the next year. -/
theorem ordinal_bounds {date : CivilDate} (valid : date.exists? = true) :
    daysBeforeYear date.year ≤ date.ordinal ∧ date.ordinal < daysBeforeYear (date.year + 1) := by
  obtain ⟨monthLow, monthHigh, dayLow, dayHigh⟩ := (exists?_iff date).1 valid
  have wholeYear := daysBeforeMonth_twelve date.year
  have nextYear := daysBeforeYear_succ date.year
  have monthEnd : daysBeforeMonth date.year date.month + date.day ≤
      daysBeforeMonth date.year 12 + 31 := by
    rcases Nat.lt_or_eq_of_le monthHigh with below | last
    · have := daysBeforeMonth_lt date.year monthLow below
      omega
    · have := (monthLength_bounds date.year date.month).2
      rw [last]
      omega
  unfold ordinal
  omega

/-- Month and day of the month are the only ones that make up the remainder. -/
theorem month_day_unique (year : Int) {month month' : Nat} (day day' : Nat) (low : 1 ≤ month)
    (low' : 1 ≤ month') (fits : day < monthLength year month)
    (fits' : day' < monthLength year month')
    (same : daysBeforeMonth year month + day = daysBeforeMonth year month' + day') :
    month = month' ∧ day = day' := by
  have notBelow : ¬ month < month' := by
    intro below
    have := daysBeforeMonth_lt year low below
    omega
  have notAbove : ¬ month' < month := by
    intro above
    have := daysBeforeMonth_lt year low' above
    omega
  have sameMonth : month = month' := by omega
  subst sameMonth
  exact ⟨rfl, by omega⟩

theorem ofOrdinal_spec (number : Int) :
    (ofOrdinal number).exists? = true ∧ (ofOrdinal number).ordinal = number := by
  obtain ⟨yearLe, yearLt⟩ := yearOfOrdinal_bounds number
  let year := yearOfOrdinal number
  let remainder := (number - daysBeforeYear year).toNat
  have spec := monthOfRemainder_spec year 11 1 remainder (Nat.le_refl 1)
  have wholeYear := daysBeforeMonth_twelve year
  have nextYear := daysBeforeYear_succ year
  generalize found : monthOfRemainder year 1 remainder 11 = pair at spec
  obtain ⟨month, day⟩ := pair
  obtain ⟨same, low, high, fits⟩ := spec
  have noneBefore : daysBeforeMonth year 1 = 0 := rfl
  have dayFits : day < monthLength year month := by
    rcases Nat.lt_or_eq_of_le high with below | last
    · exact fits below
    · have december : monthLength year 12 = 31 := rfl
      have isDecember : month = 12 := last
      subst isDecember
      dsimp only [year, remainder] at *
      omega
  have parts : ofOrdinal number = ⟨year, month, day + 1⟩ := by
    simp only [ofOrdinal, year, remainder] at found ⊢
    rw [found]
  rw [parts]
  refine ⟨(exists?_iff _).2 ⟨low, high, by simp, dayFits⟩, ?_⟩
  dsimp only [CivilDate.ordinal, year, remainder] at *
  omega

theorem ordinal_injective {left right : CivilDate} (leftValid : left.exists? = true)
    (rightValid : right.exists? = true) (same : left.ordinal = right.ordinal) : left = right := by
  obtain ⟨leftLe, leftLt⟩ := ordinal_bounds leftValid
  obtain ⟨rightLe, rightLt⟩ := ordinal_bounds rightValid
  rw [← same] at rightLe rightLt
  have sameYear : left.year = right.year :=
    (yearOfOrdinal_eq leftLe leftLt).symm.trans (yearOfOrdinal_eq rightLe rightLt)
  obtain ⟨leftYear, leftMonth, leftDay⟩ := left
  obtain ⟨rightYear, rightMonth, rightDay⟩ := right
  subst sameYear
  obtain ⟨leftMonthLow, _, leftDayLow, leftDayHigh⟩ := (exists?_iff _).1 leftValid
  obtain ⟨rightMonthLow, _, rightDayLow, rightDayHigh⟩ := (exists?_iff _).1 rightValid
  dsimp only [CivilDate.ordinal] at *
  obtain ⟨sameMonth, sameDay⟩ :=
    month_day_unique leftYear (leftDay - 1) (rightDay - 1) leftMonthLow rightMonthLow
      (by omega) (by omega) (by omega)
  have dayEq : leftDay = rightDay := by omega
  rw [sameMonth, dayEq]

theorem ofOrdinal_ordinal {date : CivilDate} (valid : date.exists? = true) :
    ofOrdinal date.ordinal = date :=
  ordinal_injective (ofOrdinal_spec date.ordinal).1 valid (ofOrdinal_spec date.ordinal).2

end CivilDate

end LoadChart
