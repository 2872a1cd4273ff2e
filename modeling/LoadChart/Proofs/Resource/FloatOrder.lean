import LoadChart.Resource.Lane
import Mathlib.Data.Prod.Lex

/-!
# The order of floats

Floats that are numbers are compared as places on a line, on which the two zeros have the same
place. So their order is total up to the sign of zero, and the greater of two lies at the greater
place.
-/

namespace LoadChart

namespace FloatOrder

open Float.Model (UnpackedFloat)

/-- The place of a number: its side of zero, and there its exponent before its mantissa. -/
def unpackedPlace : UnpackedFloat → ℤ ×ₗ ℤ ×ₗ ℤ
  | .infinity .negative => toLex (-2, toLex (0, 0))
  | .finite .negative mantissa exponent _ => toLex (-1, toLex (-exponent, -mantissa))
  | .notANumber | .zero _ => toLex (0, toLex (0, 0))
  | .finite .positive mantissa exponent _ => toLex (1, toLex (exponent, mantissa))
  | .infinity .positive => toLex (2, toLex (0, 0))

section Finite

variable {mantissa : ℕ} {exponent : ℤ} (positive : 0 < mantissa)

theorem unpackedPlace_negative : unpackedPlace (.finite .negative mantissa exponent positive) =
    toLex (-1, toLex (-exponent, -(mantissa : ℤ))) :=
  rfl

theorem unpackedPlace_positive : unpackedPlace (.finite .positive mantissa exponent positive) =
    toLex (1, toLex (exponent, (mantissa : ℤ))) :=
  rfl

end Finite

theorem compare_toLex {α β : Type} [LinearOrder α] [LinearOrder β] (left right : α)
    (own other : β) :
    compare (toLex (left, own)) (toLex (right, other)) =
      (compare left right).then (compare own other) := by
  rw [Prod.Lex.compare_def]
  rfl

theorem compare_neg (left right : ℤ) : compare (-left) (-right) = (compare left right).swap := by
  rw [Int.compare_swap]
  simp only [Int.compare_eq_ite_lt]
  grind

theorem compare_natCast (left right : ℕ) : compare (left : ℤ) right = compare left right := by
  simp only [Int.compare_eq_ite_lt, Nat.compare_eq_ite_lt, Int.ofNat_lt]

theorem compare_unpackedPlace {left right : UnpackedFloat} (leftNumber : left.isNaN = false)
    (rightNumber : right.isNaN = false) :
    left.compare right = some (compare (unpackedPlace left) (unpackedPlace right)) := by
  rcases left with (_ | _) | _ | _ | ⟨_ | _, mantissa, exponent, positive⟩ <;>
    rcases right with (_ | _) | _ | _ | ⟨_ | _, otherMantissa, otherExponent, otherPositive⟩
  -- below zero the greater exponent and the greater mantissa lie further down
  case finite.negative.finite.negative =>
    rw [unpackedPlace_negative, unpackedPlace_negative, compare_toLex, compare_toLex,
      compare_neg exponent, compare_neg mantissa, compare_natCast, ← Ordering.swap_then]
    rfl
  case finite.positive.finite.positive =>
    rw [unpackedPlace_positive, unpackedPlace_positive, compare_toLex, compare_toLex,
      compare_natCast mantissa]
    rfl
  all_goals first | rfl | contradiction

def place (number : Float) : ℤ ×ₗ ℤ ×ₗ ℤ := unpackedPlace number.toModel.unpack

variable {left right : Float}

theorem compare_place (leftNumber : left.isNaN = false) (rightNumber : right.isNaN = false) :
    left.toModel.unpack.compare right.toModel.unpack =
      some (compare (place left) (place right)) :=
  compare_unpackedPlace leftNumber rightNumber

theorem lt_iff_place (leftNumber : left.isNaN = false) (rightNumber : right.isNaN = false) :
    left < right ↔ place left < place right := by
  have unfolded : left < right ↔
      (left.toModel.unpack.compare right.toModel.unpack == some .lt) = true :=
    decide_eq_true_iff
  rw [unfolded, compare_place leftNumber rightNumber, beq_iff_eq, Option.some.injEq,
    compare_lt_iff_lt]

theorem le_iff_place (leftNumber : left.isNaN = false) (rightNumber : right.isNaN = false) :
    left ≤ right ↔ place left ≤ place right := by
  have unfolded : left ≤ right ↔
      (left.toModel.unpack.compare right.toModel.unpack).any (·.isLE) = true :=
    decide_eq_true_iff
  rw [unfolded, compare_place leftNumber rightNumber, Option.any_some, ← compare_le_iff_le,
    Ordering.isLE_iff_ne_gt]

theorem beq_iff_place (leftNumber : left.isNaN = false) (rightNumber : right.isNaN = false) :
    (left == right) = true ↔ place left = place right := by
  have unfolded : (left == right) =
      (left.toModel.unpack.compare right.toModel.unpack == some .eq) := rfl
  rw [unfolded, compare_place leftNumber rightNumber, beq_iff_eq, Option.some.injEq,
    compare_eq_iff_eq]

theorem isNaN_of_zero_le {number : Float} (atLeast : 0 ≤ number) : number.isNaN = false := by
  have compared : ((0 : Float).toModel.unpack.compare number.toModel.unpack).any (·.isLE) = true :=
    of_decide_eq_true atLeast
  unfold Float.isNaN Float.Model.isNaN
  cases unpacked : number.toModel.unpack with
  | notANumber =>
      rw [unpacked] at compared
      cases compared
  | zero | infinity | finite => rfl

end FloatOrder

open FloatOrder (place lt_iff_place)

/-- The greater of two numbers is one of them, and lies where the further one does. -/
theorem place_greaterFloat {left right : Float} (leftNumber : left.isNaN = false)
    (rightNumber : right.isNaN = false) :
    (greaterFloat left right).isNaN = false ∧
      place (greaterFloat left right) = max (place left) (place right) := by
  rw [greaterFloat, rightNumber, if_neg Bool.false_ne_true]
  by_cases below : right < left
  · rw [if_pos below]
    exact ⟨leftNumber, (max_eq_left (le_of_lt ((lt_iff_place rightNumber leftNumber).1 below))).symm⟩
  · rw [if_neg below]
    rw [lt_iff_place rightNumber leftNumber, not_lt] at below
    exact ⟨rightNumber, (max_eq_right below).symm⟩

end LoadChart
