import LoadChart.Text.Digits
import Mathlib.Tactic.IntervalCases

/-!
# Digits that are read again

The decimal and the hexadecimal digits of a number, read as a number, give it again.  So do decimal
digits with zeros in front.
-/

namespace LoadChart

theorem isDigit_digitLetter {value : Nat} (small : value < 10) :
    isDigit (digitLetter value) = true := by
  interval_cases value <;> rfl

theorem digitValue_digitLetter {value : Nat} (small : value < 10) :
    digitValue (digitLetter value) = value := by
  interval_cases value <;> rfl

theorem digitsOfNumber_of_lt {number : Nat} (small : number < 10) :
    digitsOfNumber number = [digitLetter number] := by
  rw [digitsOfNumber, if_pos small]

theorem digitsOfNumber_of_le {number : Nat} (large : 10 ≤ number) :
    digitsOfNumber number = digitsOfNumber (number / 10) ++ [digitLetter (number % 10)] := by
  rw [digitsOfNumber, if_neg (Nat.not_lt.2 large)]

theorem numberOfDigits_concat (digits : List Char) (digit : Char) :
    numberOfDigits (digits ++ [digit]) = numberOfDigits digits * 10 + digitValue digit :=
  List.foldl_append

theorem numberOfDigits_digitsOfNumber (number : Nat) :
    numberOfDigits (digitsOfNumber number) = number := by
  induction number using digitsOfNumber.induct with
  | case1 number small =>
      rw [digitsOfNumber_of_lt small]
      exact (Nat.zero_add _).trans (digitValue_digitLetter small)
  | case2 number large induction =>
      rw [digitsOfNumber_of_le (Nat.not_lt.1 large), numberOfDigits_concat, induction,
        digitValue_digitLetter (Nat.mod_lt _ (by decide)), Nat.div_add_mod']

theorem isDigit_of_mem_digitsOfNumber {number : Nat} :
    ∀ digit ∈ digitsOfNumber number, isDigit digit = true := by
  induction number using digitsOfNumber.induct with
  | case1 number small =>
      rw [digitsOfNumber_of_lt small]
      simpa using isDigit_digitLetter small
  | case2 number large induction =>
      rw [digitsOfNumber_of_le (Nat.not_lt.1 large)]
      intro digit member
      rcases List.mem_append.1 member with earlier | last
      · exact induction digit earlier
      · rw [List.mem_singleton.1 last]
        exact isDigit_digitLetter (Nat.mod_lt _ (by decide))

/-- The digits of a number begin with another one than zero, unless it is zero. -/
theorem digitsOfNumber_begins (number : Nat) :
    ∃ digit rest, digitsOfNumber number = digit :: rest ∧ (digit = '0' → rest = []) := by
  induction number using digitsOfNumber.induct with
  | case1 number small => exact ⟨_, [], digitsOfNumber_of_lt small, fun _ => rfl⟩
  | case2 number large induction =>
      obtain ⟨digit, rest, begins, zero⟩ := induction
      refine ⟨digit, rest ++ [digitLetter (number % 10)], ?_, ?_⟩
      · rw [digitsOfNumber_of_le (Nat.not_lt.1 large), begins, List.cons_append]
      · rintro rfl
        have value := numberOfDigits_digitsOfNumber (number / 10)
        rw [begins, zero rfl] at value
        have positive : 1 ≤ number / 10 := by omega
        rw [← value] at positive
        cases positive

theorem digitsOfNumber_length_le {width number : Nat} (positive : 0 < width)
    (small : number < 10 ^ width) : (digitsOfNumber number).length ≤ width := by
  induction number using digitsOfNumber.induct generalizing width with
  | case1 number below =>
      rw [digitsOfNumber_of_lt below]
      exact positive
  | case2 number large induction =>
      have above : 10 ≤ number := Nat.not_lt.1 large
      obtain ⟨less, rfl⟩ : ∃ less, width = less + 1 := ⟨width - 1, by omega⟩
      rw [Nat.pow_succ] at small
      have notZero : less ≠ 0 := by
        rintro rfl
        omega
      have front := induction (Nat.pos_of_ne_zero notZero) (Nat.div_lt_of_lt_mul (by omega))
      rw [digitsOfNumber_of_le above, List.length_append, List.length_singleton]
      exact Nat.succ_le_succ front

theorem paddedDigits_length {width number : Nat} (positive : 0 < width)
    (small : number < 10 ^ width) : (paddedDigits width number).length = width := by
  have fits := digitsOfNumber_length_le positive small
  rw [paddedDigits, List.length_append, List.length_replicate]
  omega

theorem isDigit_of_mem_paddedDigits {width number : Nat} :
    ∀ digit ∈ paddedDigits width number, isDigit digit = true := by
  intro digit member
  rcases List.mem_append.1 member with zero | own
  · rw [List.eq_of_mem_replicate zero]
    rfl
  · exact isDigit_of_mem_digitsOfNumber digit own

theorem numberOfDigits_paddedDigits (width number : Nat) :
    numberOfDigits (paddedDigits width number) = number := by
  have zeros : ∀ count digits,
      numberOfDigits (List.replicate count '0' ++ digits) = numberOfDigits digits := by
    intro count digits
    induction count with
    | zero => rfl
    | succ count induction => exact induction
  rw [paddedDigits, zeros, numberOfDigits_digitsOfNumber]

/-- Digits with zeros in front are read as their number, up to a letter that is no digit. -/
theorem readDigits?_paddedDigits {most width number : Nat} {rest : List Char}
    (fits : (paddedDigits width number).length ≤ most)
    (ends : ∀ letter ∈ rest.head?, isDigit letter = false) :
    readDigits? most (paddedDigits width number ++ rest) = some (number, rest) := by
  have digits : (paddedDigits width number ++ rest).takeWhile isDigit =
      paddedDigits width number := by
    rw [List.takeWhile_append_of_pos isDigit_of_mem_paddedDigits]
    cases rest with
    | nil => exact List.append_nil _
    | cons letter others =>
        rw [List.takeWhile_cons_of_neg (by simp [ends letter rfl]), List.append_nil]
  have notEmpty : (paddedDigits width number).isEmpty = false := by
    obtain ⟨digit, others, begins, _⟩ := digitsOfNumber_begins number
    rw [paddedDigits, begins]
    simp
  rw [readDigits?, digits]
  simp only [List.take_of_length_le fits, notEmpty, numberOfDigits_paddedDigits, List.drop_left]
  rfl

theorem hexValue?_hexLetter {value : Nat} (small : value < 16) :
    hexValue? (hexLetter value) = some value := by
  interval_cases value <;> rfl

theorem hexDigits_length (width number : Nat) : (hexDigits width number).length = width := by
  induction width generalizing number with
  | zero => rfl
  | succ width induction => rw [hexDigits, List.length_append, induction, List.length_singleton]

/-- Some hexadecimal digits of a number stand for what it leaves by their power. -/
theorem mapM_hexValue?_hexDigits (width number : Nat) :
    ∃ values, (hexDigits width number).mapM hexValue? = some values ∧ values.length = width ∧
      values.foldl (fun value digit => value * 16 + digit) 0 = number % 16 ^ width := by
  induction width generalizing number with
  | zero => exact ⟨[], rfl, rfl, (Nat.mod_one number).symm⟩
  | succ width induction =>
      obtain ⟨values, read, length, value⟩ := induction (number / 16)
      refine ⟨values ++ [number % 16], ?_, by simp [length], ?_⟩
      · rw [hexDigits, List.mapM_append, read]
        simp [hexValue?_hexLetter (Nat.mod_lt number (by decide : 0 < 16))]
      · rw [List.foldl_append, value, List.foldl_cons, List.foldl_nil, Nat.pow_succ,
          Nat.mul_comm (16 ^ width), Nat.mod_mul, Nat.mul_comm, Nat.add_comm]

end LoadChart
