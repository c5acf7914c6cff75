import TypeGauge.Number.Tenths
import Mathlib.Algebra.Order.Floor.Semifield
import Mathlib.Tactic.FieldSimp
import Mathlib.Tactic.Ring

/-!
# One decimal place of exact numbers

Exact scores are shown like doubles: rounded to tenths, an exact half going away from
zero, and refused when more than twenty-eight digits are needed.  A double is shown
like the number that it stands for.  Only the zero with a sign is different, because
no number stands behind its sign.
-/

namespace TypeGauge.Number.Tenths

open TypeGauge.Number.Binary

variable {K : Type} [Field K] [LinearOrder K] [IsStrictOrderedRing K] [FloorSemiring K]

/-- The number of tenths nearest to the size of an exact number, a half going up. -/
def exactCount (number : K) : Nat :=
  ⌊(10 : ℕ) * |number| + 1 / (2 : ℕ)⌋₊

/-- The text of an exact number with one decimal place, or nothing when it is too long. -/
def exactText? (number : K) : Option String :=
  if exactCount number < limit then some (write (decide (number < 0)) (exactCount number))
  else none

/-- Rounding a fraction of whole numbers is rounding the exact quotient. -/
theorem exactCount_div (numerator : Nat) {denominator : Nat} (positive : 0 < denominator) :
    exactCount ((numerator : K) / denominator) = count numerator denominator := by
  have nonzero : (denominator : K) ≠ 0 := Nat.cast_ne_zero.mpr positive.ne'
  have nonnegative : 0 ≤ (numerator : K) / denominator :=
    div_nonneg (Nat.cast_nonneg _) (Nat.cast_nonneg _)
  have fraction : (10 : ℕ) * ((numerator : K) / denominator) + 1 / (2 : ℕ) =
      ((2 * 10 * numerator + denominator : Nat) : K) / ((2 * denominator : Nat) : K) := by
    push_cast
    field_simp
    ring
  rw [exactCount, abs_of_nonneg nonnegative, fraction, Nat.floor_div_eq_div, count]

omit [LinearOrder K] [IsStrictOrderedRing K] [FloorSemiring K] in
/-- The size of a double as a fraction of whole numbers. -/
theorem mul_two_zpow (mantissa : Nat) (exponent : Int) :
    (mantissa : K) * 2 ^ exponent =
      ((mantissa * twoTo exponent.toNat : Nat) : K) / (twoTo (-exponent).toNat : Nat) := by
  rcases Int.eq_nat_or_neg exponent with ⟨size, rfl | rfl⟩
  · simp [twoTo]
  · simp [twoTo, div_eq_mul_inv]

/-- Rounding the size of a double is rounding the number that it stands for. -/
theorem exactCount_binary (negative : Bool) (mantissa : Nat) (exponent : Int) :
    exactCount ((if negative then -1 else 1) * (mantissa * 2 ^ exponent) : K) =
      ofBinary mantissa exponent := by
  have size : |((if negative then -1 else 1) * (mantissa * 2 ^ exponent) : K)| =
      |(mantissa * 2 ^ exponent : K)| := by
    cases negative <;> simp
  have positive : 0 < twoTo (-exponent).toNat := Nat.two_pow_pos _
  rw [exactCount, size, mul_two_zpow, ofBinary, ← exactCount, exactCount_div _ positive]

/-- A double is shown like the number that it stands for, unless it is a zero with a sign. -/
theorem text?_eq_exactText?
    {number : Float} {negative : Bool} {mantissa : Nat} {exponent : Int}
    (finite : parts number = .finite negative mantissa exponent)
    (signed : negative = true → mantissa ≠ 0) :
    text? number = exactText? ((if negative then -1 else 1) * (mantissa * 2 ^ exponent) : K) := by
  have power : (0 : K) < 2 ^ exponent := zpow_pos two_pos exponent
  have sign : decide (((if negative then -1 else 1) * (mantissa * 2 ^ exponent) : K) < 0) =
      negative := by
    cases negative with
    | false =>
        have nonnegative : (0 : K) ≤ mantissa * 2 ^ exponent :=
          mul_nonneg (Nat.cast_nonneg _) power.le
        simpa using nonnegative
    | true =>
        have positive : (0 : K) < mantissa * 2 ^ exponent :=
          mul_pos (Nat.cast_pos.mpr (Nat.pos_of_ne_zero (signed rfl))) power
        simpa using positive
  rw [text?, finite, exactText?, exactCount_binary, sign]

/-- An exact number up to the given size is shown. -/
theorem exactText?_isSome {number : K} (nonnegative : 0 ≤ number) (bounded : number ≤ 10 ^ 26) :
    (exactText? number).isSome = true := by
  have short : exactCount number < limit := by
    rw [exactCount, abs_of_nonneg nonnegative, Nat.floor_lt (by positivity)]
    have size : ((limit : Nat) : K) = 10 ^ 28 := by
      rw [limit, tenTo]
      exact Nat.cast_pow 10 28
    rw [size]
    push_cast
    linarith
  rw [exactText?, if_pos short]
  rfl

end TypeGauge.Number.Tenths
