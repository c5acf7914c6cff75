import TypeGauge.Number.Binary
import TypeGauge.Proofs.Number.DoubleOrder
import Mathlib.Algebra.Order.Field.Power
import Mathlib.Algebra.Order.Ring.Rat
import Mathlib.Tactic.Positivity
import Mathlib.Tactic.Ring

/-!
# The exact value of a double

A finite double stands for a rational number, a whole multiple of a power of two.  The sign,
the mantissa and the exponent that are read off its bit pattern are the ones that arithmetic
unpacks it to.  Of two finite doubles of one sign, the one with the larger exponent has the
larger size, because mantissas fill their fifty-three bits unless the exponent is the smallest.
So doubles are compared as the numbers are that they stand for.
-/

namespace TypeGauge.Number.Double

open Float.Model TypeGauge.Number.Binary

/-! ## Unpacked doubles -/

/-- Whether a sign is the negative one. -/
def isNegative : UnpackedFloat.Sign → Bool
  | .negative => true
  | .positive => false

/-- What an unpacked double stands for. -/
def partsOf : UnpackedFloat → Parts
  | .infinity sign => .infinite (isNegative sign)
  | .notANumber => .notANumber
  | .zero sign => .finite (isNegative sign) 0 (-1074)
  | .finite sign mantissa exponent _ => .finite (isNegative sign) mantissa exponent

theorem partsOf_finite (sign : UnpackedFloat.Sign) (mantissa : Nat) (exponent : Int)
    (positive : 0 < mantissa) :
    partsOf (.finite sign mantissa exponent positive) =
      .finite (isNegative sign) mantissa exponent :=
  rfl

theorem isNegative_ofBitVec (bit : BitVec 1) :
    isNegative (.ofBitVec bit) = (bit.toNat == 1) := by
  have small := bit.isLt
  rw [UnpackedFloat.Sign.ofBitVec]
  split
  · rename_i nought
    simp [nought, isNegative]
  · rename_i one
    rw [← BitVec.toNat_inj] at one
    simp only [isNegative, BitVec.toNat_ofNat] at one ⊢
    rw [eq_comm, beq_iff_eq]
    omega

section Unpacking

variable (number : Float)

theorem toNat_unpackMantissa :
    (@UnpackedFloat.unpackMantissa Format.binary64 number.toModel.toBits.toBitVec).toNat =
      number.toBits.toNat % twoTo 52 := by
  change (number.toModel.toBits.toBitVec.extractLsb 51 0).toNat =
    number.toModel.toBits.toBitVec.toNat % 2 ^ 52
  rw [BitVec.extractLsb_toNat, Nat.shiftRight_zero]

theorem toNat_unpackExponent :
    (@UnpackedFloat.unpackExponent Format.binary64 number.toModel.toBits.toBitVec).toNat =
      number.toBits.toNat / twoTo 52 % twoTo 11 := by
  change (number.toModel.toBits.toBitVec.extractLsb 62 52).toNat =
    number.toModel.toBits.toBitVec.toNat / 2 ^ 52 % 2 ^ 11
  rw [BitVec.extractLsb_toNat, Nat.shiftRight_eq_div_pow]

theorem isNegative_unpackSign :
    isNegative (.ofBitVec
        (@UnpackedFloat.unpackSign Format.binary64 number.toModel.toBits.toBitVec)) =
      (number.toBits.toNat / twoTo 63 % 2 == 1) := by
  rw [isNegative_ofBitVec]
  change ((number.toModel.toBits.toBitVec.extractLsb 63 63).toNat == 1) =
    (number.toModel.toBits.toBitVec.toNat / 2 ^ 63 % 2 == 1)
  rw [BitVec.extractLsb_toNat, Nat.shiftRight_eq_div_pow]

theorem toNat_fullMantissa :
    (1#1 ++ @UnpackedFloat.unpackMantissa Format.binary64 number.toModel.toBits.toBitVec).toNat =
      twoTo 52 + number.toBits.toNat % twoTo 52 := by
  rw [← toNat_unpackMantissa, BitVec.toNat_append,
    ← Nat.shiftLeft_add_eq_or_of_lt (BitVec.isLt _)]
  rfl

/-- What is read off the bit pattern of a double is what it is unpacked to. -/
theorem parts_eq_partsOf : parts number = partsOf number.toModel.unpack := by
  have largest : @UnpackedFloat.unpackExponent Format.binary64 number.toModel.toBits.toBitVec =
      -BitVec.ofNat Format.binary64.exponentBits 1 ↔
        number.toBits.toNat / twoTo 52 % twoTo 11 = 2047 := by
    rw [← toNat_unpackExponent, ← BitVec.toNat_inj]
    exact Iff.rfl
  have smallest : @UnpackedFloat.unpackExponent Format.binary64 number.toModel.toBits.toBitVec =
      BitVec.ofNat Format.binary64.exponentBits 0 ↔
        number.toBits.toNat / twoTo 52 % twoTo 11 = 0 := by
    rw [← toNat_unpackExponent, ← BitVec.toNat_inj]
    exact Iff.rfl
  have empty : @UnpackedFloat.unpackMantissa Format.binary64 number.toModel.toBits.toBitVec =
      BitVec.ofNat Format.binary64.mantissaBitsWithoutImplicit 0 ↔
        number.toBits.toNat % twoTo 52 = 0 := by
    rw [← toNat_unpackMantissa, ← BitVec.toNat_inj]
    exact Iff.rfl
  simp only [parts, partsOfBits, beq_iff_eq, ← isNegative_unpackSign]
  delta Float.Model.unpack UnpackedFloat.unpack
  dsimp only
  by_cases isLargest : number.toBits.toNat / twoTo 52 % twoTo 11 = 2047
  · rw [if_pos isLargest, if_pos (largest.mpr isLargest)]
    by_cases isEmpty : number.toBits.toNat % twoTo 52 = 0
    · rw [if_pos isEmpty, if_pos (empty.mpr isEmpty)]
      rfl
    · rw [if_neg isEmpty, if_neg (mt empty.mp isEmpty)]
      rfl
  · rw [if_neg isLargest, if_neg (mt largest.mp isLargest)]
    by_cases isSmallest : number.toBits.toNat / twoTo 52 % twoTo 11 = 0
    · rw [if_pos isSmallest, if_pos (smallest.mpr isSmallest)]
      by_cases isEmpty : number.toBits.toNat % twoTo 52 = 0
      · rw [dif_pos (empty.mpr isEmpty), isEmpty]
        rfl
      · rw [dif_neg (mt empty.mp isEmpty), partsOf_finite, toNat_unpackMantissa,
          toNat_unpackExponent, isSmallest]
        rfl
    · rw [if_neg isSmallest, if_neg (mt smallest.mp isSmallest), partsOf_finite,
        toNat_fullMantissa, toNat_unpackExponent]
      rfl

end Unpacking

/-! ## Exact values -/

/-- A sign before the size of a number. -/
def signed (negative : Bool) (size : ℚ) : ℚ :=
  (if negative then -1 else 1) * size

theorem abs_signed (negative : Bool) (size : ℚ) : |signed negative size| = |size| := by
  cases negative <;> simp [signed]

theorem signed_sub (negative : Bool) (size other : ℚ) :
    signed negative size - signed negative other = signed negative (size - other) := by
  rw [signed, signed, signed, mul_sub]

/-- The number that a sign, a mantissa and an exponent stand for. -/
def exactOf (negative : Bool) (mantissa : Nat) (exponent : Int) : ℚ :=
  signed negative (mantissa * 2 ^ exponent)

/-- The number that a finite double stands for. -/
def exactValue (number : Float) : ℚ :=
  match parts number with
  | .finite negative mantissa exponent => exactOf negative mantissa exponent
  | _ => 0

theorem exactValue_of_parts {number : Float} {negative : Bool} {mantissa : Nat} {exponent : Int}
    (read : parts number = .finite negative mantissa exponent) :
    exactValue number = exactOf negative mantissa exponent := by
  rw [exactValue, read]

/-- Whether the sign bit of a double is set. -/
def hasSignBit (number : Float) : Bool :=
  number.toBits.toNat.testBit 63

theorem hasSignBit_of_parts {number : Float} {negative : Bool} {mantissa : Nat} {exponent : Int}
    (read : parts number = .finite negative mantissa exponent) : hasSignBit number = negative := by
  have bit : hasSignBit number = (number.toBits.toNat / twoTo 63 % 2 == 1) :=
    Nat.testBit_eq_decide_div_mod_eq
  rw [parts, partsOfBits, ← bit] at read
  split at read
  · split at read <;> cases read
  · split at read <;>
      · cases read
        rfl

theorem isFinite_iff (number : Float) :
    number.isFinite = true ↔
      ∃ negative mantissa exponent, parts number = .finite negative mantissa exponent := by
  rw [parts_eq_partsOf, Float.isFinite, Float.Model.isFinite]
  cases number.toModel.unpack with
  | infinity sign | notANumber =>
      constructor
      · intro finite
        cases finite
      · rintro ⟨_, _, _, read⟩
        cases read
  | zero sign | finite sign mantissa exponent positive =>
      exact ⟨fun _ => ⟨_, _, _, rfl⟩, fun _ => rfl⟩

/-- The sign bit says on which side of nought a finite double stands. -/
theorem exactValue_eq_signed {number : Float} (finite : number.isFinite = true) :
    exactValue number = signed (hasSignBit number) |exactValue number| := by
  rcases (isFinite_iff number).mp finite with ⟨negative, mantissa, exponent, read⟩
  have nonnegative : (0 : ℚ) ≤ mantissa * 2 ^ exponent := by positivity
  rw [exactValue_of_parts read, hasSignBit_of_parts read, exactOf, abs_signed,
    abs_of_nonneg nonnegative]

/-- A mantissa has at most fifty-three bits, and fills them above the smallest exponent. -/
structure IsNormal (mantissa : Nat) (exponent : Int) : Prop where
  least : -1074 ≤ exponent
  short : mantissa < 2 ^ 53
  full : -1074 < exponent → 2 ^ 52 ≤ mantissa

theorem isNormal_of_parts {number : Float} {negative : Bool} {mantissa : Nat} {exponent : Int}
    (read : parts number = .finite negative mantissa exponent) :
    IsNormal mantissa exponent := by
  have short : number.toBits.toNat % twoTo 52 < 2 ^ 52 :=
    Nat.mod_lt _ (Nat.two_pow_pos 52)
  have width : twoTo 52 = 2 ^ 52 := rfl
  rw [parts, partsOfBits] at read
  split at read
  · split at read <;> cases read
  · split at read
    · cases read
      exact ⟨le_rfl, by omega, by omega⟩
    · rename_i notSmallest
      cases read
      rw [beq_iff_eq, ← Int.natCast_inj] at notSmallest
      refine ⟨?_, by omega, by omega⟩
      rw [Int.ofNat_eq_natCast]
      omega

/-- A larger exponent makes a larger size. -/
theorem size_lt_size {mantissa otherMantissa : Nat} {exponent otherExponent : Int}
    (normal : IsNormal mantissa exponent) (otherNormal : IsNormal otherMantissa otherExponent)
    (below : exponent < otherExponent) :
    (mantissa * 2 ^ exponent : ℚ) < otherMantissa * 2 ^ otherExponent := by
  -- The other exponent is not the smallest, so the other mantissa fills its bits.
  have filled : (2 ^ 52 : ℚ) ≤ otherMantissa := by
    exact_mod_cast otherNormal.full (by have := normal.least; omega)
  have short : (mantissa : ℚ) < 2 ^ 53 := by exact_mod_cast normal.short
  have power : (0 : ℚ) < 2 ^ exponent := zpow_pos two_pos exponent
  calc (mantissa * 2 ^ exponent : ℚ)
      < 2 ^ 53 * 2 ^ exponent := mul_lt_mul_of_pos_right short power
    _ = 2 ^ 52 * 2 ^ (exponent + 1) := by
        rw [zpow_add_one₀ two_ne_zero]
        ring
    _ ≤ 2 ^ 52 * 2 ^ otherExponent :=
        mul_le_mul_of_nonneg_left (zpow_le_zpow_right₀ one_le_two below) (by positivity)
    _ ≤ otherMantissa * 2 ^ otherExponent :=
        mul_le_mul_of_nonneg_right filled (zpow_pos two_pos _).le

/-- Sizes are ordered by their exponents and then by their mantissas. -/
theorem size_le_size_iff {mantissa otherMantissa : Nat} {exponent otherExponent : Int}
    (normal : IsNormal mantissa exponent) (otherNormal : IsNormal otherMantissa otherExponent) :
    (mantissa * 2 ^ exponent : ℚ) ≤ otherMantissa * 2 ^ otherExponent ↔
      exponent < otherExponent ∨ exponent = otherExponent ∧ mantissa ≤ otherMantissa := by
  rcases lt_trichotomy exponent otherExponent with below | rfl | above
  · simp [below, (size_lt_size normal otherNormal below).le]
  · have power : (0 : ℚ) < 2 ^ exponent := zpow_pos two_pos exponent
    simp [power]
  · simp [above.ne', above.not_gt, size_lt_size otherNormal normal above]

theorem exactOf_negative_lt {mantissa : Nat} (exponent : Int) (positive : 0 < mantissa) :
    exactOf true mantissa exponent < 0 := by
  have power : (0 : ℚ) < 2 ^ exponent := zpow_pos two_pos exponent
  have size : (0 : ℚ) < mantissa := by exact_mod_cast positive
  simp [exactOf, signed, power, size]

theorem lt_exactOf_positive {mantissa : Nat} (exponent : Int) (positive : 0 < mantissa) :
    0 < exactOf false mantissa exponent := by
  have power : (0 : ℚ) < 2 ^ exponent := zpow_pos two_pos exponent
  have size : (0 : ℚ) < mantissa := by exact_mod_cast positive
  simp [exactOf, signed, power, size]

/-- The place among the numbers of a finite double. -/
def place (negative : Bool) (mantissa : Nat) (exponent : Int) : Int ×ₗ Int ×ₗ Int :=
  if mantissa = 0 then toLex (0, toLex (0, 0))
  else if negative then toLex (-1, toLex (-exponent, -mantissa))
  else toLex (1, toLex (exponent, mantissa))

theorem rank?_of_partsOf {unpacked : UnpackedFloat} {negative : Bool} {mantissa : Nat}
    {exponent : Int} (finite : partsOf unpacked = .finite negative mantissa exponent) :
    rank? unpacked = some (place negative mantissa exponent) := by
  cases unpacked with
  | infinity sign => cases finite
  | notANumber => cases finite
  | zero sign =>
      cases finite
      rfl
  | finite sign size power positive =>
      cases finite
      rw [place, if_neg positive.ne']
      cases sign <;> rfl

/-- The places of finite doubles are ordered as the numbers are that they stand for. -/
theorem place_le_place_iff {negative otherNegative : Bool} {mantissa otherMantissa : Nat}
    {exponent otherExponent : Int}
    (normal : IsNormal mantissa exponent) (otherNormal : IsNormal otherMantissa otherExponent) :
    place negative mantissa exponent ≤ place otherNegative otherMantissa otherExponent ↔
      exactOf negative mantissa exponent ≤ exactOf otherNegative otherMantissa otherExponent := by
  have nothing (sign : Bool) (power : Int) : exactOf sign 0 power = 0 := by simp [exactOf, signed]
  rcases Nat.eq_zero_or_pos mantissa with rfl | positive
  · rcases Nat.eq_zero_or_pos otherMantissa with rfl | otherPositive
    · simp [place, nothing]
    · have below := exactOf_negative_lt otherExponent otherPositive
      have above := lt_exactOf_positive otherExponent otherPositive
      cases otherNegative <;>
        simp [place, nothing, otherPositive.ne', below, above.le, Prod.Lex.toLex_le_toLex]
  · have below := exactOf_negative_lt exponent positive
    have above := lt_exactOf_positive exponent positive
    rcases Nat.eq_zero_or_pos otherMantissa with rfl | otherPositive
    · cases negative <;>
        simp [place, nothing, positive.ne', below.le, above, Prod.Lex.toLex_le_toLex]
    · have otherBelow := exactOf_negative_lt otherExponent otherPositive
      have otherAbove := lt_exactOf_positive otherExponent otherPositive
      -- Only between two doubles of one sign do the sizes matter.
      cases negative <;> cases otherNegative <;>
        simp only [place, positive.ne', otherPositive.ne', if_false, if_true,
          Prod.Lex.toLex_le_toLex, Bool.false_eq_true]
      · simpa [exactOf, signed] using (size_le_size_iff normal otherNormal).symm
      · simpa using otherBelow.trans above
      · simpa using (below.trans otherAbove).le
      · simpa [exactOf, signed, eq_comm] using (size_le_size_iff otherNormal normal).symm

/-- Finite doubles are compared as the numbers are that they stand for. -/
theorem le_iff_exactValue_le {number other : Float} (finite : number.isFinite = true)
    (otherFinite : other.isFinite = true) :
    number ≤ other ↔ exactValue number ≤ exactValue other := by
  rcases (isFinite_iff number).mp finite with ⟨negative, mantissa, exponent, read⟩
  rcases (isFinite_iff other).mp otherFinite with
    ⟨otherNegative, otherMantissa, otherExponent, otherRead⟩
  rw [exactValue_of_parts read, exactValue_of_parts otherRead,
    ← place_le_place_iff (isNormal_of_parts read) (isNormal_of_parts otherRead), le_iff,
    rank?_of_partsOf (parts_eq_partsOf number ▸ read),
    rank?_of_partsOf (parts_eq_partsOf other ▸ otherRead)]
  simp

end TypeGauge.Number.Double
