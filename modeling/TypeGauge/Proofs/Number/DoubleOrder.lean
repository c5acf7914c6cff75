import Mathlib.Data.Prod.Lex

/-!
# The order of doubles

Doubles are compared by their signs first, then by their exponents and last by their
mantissas.  `rank?` gives each of them its place in a linear order; only what is no
number has no place, and it is neither below nor above anything.  So what is below a
double is below everything that the double is not above.
-/

namespace TypeGauge.Number.Double

open Float.Model

/-- The place of a double among the numbers, if it is one. -/
def rank? : UnpackedFloat → Option (Int ×ₗ Int ×ₗ Int)
  | .notANumber => none
  | .infinity .negative => some (toLex (-2, toLex (0, 0)))
  | .finite .negative mantissa exponent _ => some (toLex (-1, toLex (-exponent, -mantissa)))
  | .zero _ => some (toLex (0, toLex (0, 0)))
  | .finite .positive mantissa exponent _ => some (toLex (1, toLex (exponent, mantissa)))
  | .infinity .positive => some (toLex (2, toLex (0, 0)))

theorem compare_neg (first second : Int) :
    compare (-first) (-second) = (compare first second).swap := by
  rw [Int.compare_swap]
  rcases lt_trichotomy second first with below | rfl | above
  · rw [compare_lt_iff_lt.mpr below, compare_lt_iff_lt.mpr (by omega)]
  · rw [compare_eq_iff_eq.mpr rfl, compare_eq_iff_eq.mpr rfl]
  · rw [compare_gt_iff_gt.mpr above, compare_gt_iff_gt.mpr (by omega)]

theorem compare_natCast (first second : Nat) :
    compare (first : Int) second = compare first second := by
  rcases lt_trichotomy first second with below | rfl | above
  · rw [compare_lt_iff_lt.mpr below, compare_lt_iff_lt.mpr (by omega)]
  · rw [compare_eq_iff_eq.mpr rfl, compare_eq_iff_eq.mpr rfl]
  · rw [compare_gt_iff_gt.mpr above, compare_gt_iff_gt.mpr (by omega)]

/-- Doubles are compared as their places are. -/
theorem compare_eq (first second : UnpackedFloat) :
    first.compare second =
      (rank? first).bind fun low => (rank? second).map fun high => compare low high := by
  rcases first with sign | _ | _ | ⟨sign, mantissa, exponent, _⟩ <;> try cases sign
  all_goals
    rcases second with other | _ | _ | ⟨other, otherMantissa, otherExponent, _⟩ <;>
      try cases other
  -- Everywhere but between two numbers of one sign, the signs alone decide.
  all_goals try rfl
  · change some ((compare exponent otherExponent).then (compare mantissa otherMantissa)).swap =
      some ((compare (-exponent) (-otherExponent)).then
        (compare (-(mantissa : Int)) (-(otherMantissa : Int))))
    rw [Ordering.swap_then, compare_neg, compare_neg, compare_natCast]
  · change some ((compare exponent otherExponent).then (compare mantissa otherMantissa)) =
      some ((compare exponent otherExponent).then (compare (mantissa : Int) otherMantissa))
    rw [compare_natCast]

theorem lt_iff (first second : Float) :
    first < second ↔
      ∃ low high, rank? first.toModel.unpack = some low ∧ rank? second.toModel.unpack = some high ∧
        low < high := by
  have compared : first < second ↔
      first.toModel.unpack.compare second.toModel.unpack = some .lt := by
    rw [← beq_iff_eq]
    exact decide_eq_true_iff
  rw [compared, compare_eq]
  simp [Option.bind_eq_some_iff, compare_lt_iff_lt]

theorem le_iff (first second : Float) :
    first ≤ second ↔
      ∃ low high, rank? first.toModel.unpack = some low ∧ rank? second.toModel.unpack = some high ∧
        low ≤ high := by
  have compared : first ≤ second ↔
      (first.toModel.unpack.compare second.toModel.unpack).any Ordering.isLE = true :=
    decide_eq_true_iff
  rw [compared, compare_eq]
  simp only [Option.any_eq_true, Option.bind_eq_some_iff, Option.map_eq_some_iff,
    Ordering.isLE_iff_ne_gt]
  constructor
  · rintro ⟨_, ⟨low, firstPlace, high, secondPlace, rfl⟩, notAbove⟩
    exact ⟨low, high, firstPlace, secondPlace, compare_le_iff_le.mp notAbove⟩
  · rintro ⟨low, high, firstPlace, secondPlace, notAbove⟩
    exact ⟨_, ⟨low, firstPlace, high, secondPlace, rfl⟩, compare_le_iff_le.mpr notAbove⟩

/-- What is below a double is below everything that the double is not above. -/
theorem lt_of_lt_of_le {score bound higher : Float} (below : score < bound)
    (raised : bound ≤ higher) : score < higher := by
  rw [lt_iff] at below ⊢
  rw [le_iff] at raised
  rcases below with ⟨low, middle, scorePlace, boundPlace, below⟩
  rcases raised with ⟨other, high, otherPlace, higherPlace, raised⟩
  cases boundPlace.symm.trans otherPlace
  exact ⟨low, high, scorePlace, higherPlace, below.trans_le raised⟩

end TypeGauge.Number.Double
