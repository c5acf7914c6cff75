import TypeGauge.Proofs.Number.ExactTenths
import TypeGauge.Proofs.Number.ExactValue
import Mathlib.Data.Rat.Floor

/-!
# Correctly rounded scores

A finite double is shown as the number of tenths nearest to the exact number that it stands for.
Reading the shown text back gives a number that is at most half a tenth away, an exact half
having gone away from zero, and it keeps the order of the doubles.
-/

namespace TypeGauge.Number.Tenths

open TypeGauge.Number.Binary TypeGauge.Number.Double

/-! ## Reading a shown score -/

/-- The number that digits spell, some of them after a point. -/
def spelledDigits (digits : List Char) : ℚ :=
  let fraction := (digits.dropWhile Char.isDigit).drop 1
  Nat.ofDigitChars 10 (digits.takeWhile Char.isDigit) 0 +
    Nat.ofDigitChars 10 fraction 0 / 10 ^ fraction.length

/-- The number that a decimal text spells. -/
def spelled (text : String) : ℚ :=
  match text.toList with
  | '-' :: digits => -spelledDigits digits
  | digits => spelledDigits digits

theorem spelledDigits_tenths (tenths : Nat) :
    spelledDigits (Nat.toDigits 10 (tenths / 10) ++ '.' :: Nat.toDigits 10 (tenths % 10)) =
      tenths / 10 := by
  have digits (character : Char) (mem : character ∈ Nat.toDigits 10 (tenths / 10)) :
      character.isDigit = true :=
    Nat.isDigit_of_mem_toDigits (by decide) le_rfl mem
  have single : (Nat.toDigits 10 (tenths % 10)).length = 1 := by
    rw [Nat.toDigits_of_lt_base (Nat.mod_lt _ (by decide))]
    rfl
  have whole : (tenths : ℚ) = 10 * (tenths / 10 : Nat) + (tenths % 10 : Nat) := by
    exact_mod_cast (Nat.div_add_mod tenths 10).symm
  have point : Char.isDigit '.' = false := rfl
  rw [spelledDigits, List.takeWhile_append_of_pos digits, List.dropWhile_append_of_pos digits,
    List.takeWhile_cons_of_neg (by simp [point]), List.dropWhile_cons_of_neg (by simp [point]),
    List.append_nil, List.drop_one, List.tail_cons, single, Nat.ofDigitChars_ten_toDigits,
    Nat.ofDigitChars_ten_toDigits, whole]
  ring

/-- Reading a written number of tenths gives the tenths. -/
theorem spelled_write (negative : Bool) (tenths : Nat) :
    spelled (write negative tenths) = signed negative (tenths / 10) := by
  have characters : (write negative tenths).toList =
      (if negative then ['-'] else []) ++
        (Nat.toDigits 10 (tenths / 10) ++ '.' :: Nat.toDigits 10 (tenths % 10)) := by
    cases negative <;> simp [write, String.toList_append]
  rw [spelled, characters, signed, ← spelledDigits_tenths]
  cases negative with
  | true => simp
  | false =>
      split
      · -- A digit or the point comes first, and neither is a sign.
        rename_i digits same
        exfalso
        rcases shape : Nat.toDigits 10 (tenths / 10) with _ | ⟨first, rest⟩
        · simp [shape] at same
        · have digit : first.isDigit = true :=
            Nat.isDigit_of_mem_toDigits (by decide) le_rfl (shape ▸ List.mem_cons_self)
          rw [shape] at same
          cases same
          cases digit
      · simp

/-! ## The shown text -/

/-- The number of tenths is the tenfold size, rounded. -/
theorem natCast_exactCount (value : ℚ) : (exactCount value : ℤ) = round (10 * |value|) := by
  rw [exactCount, round_eq, Int.natCast_floor_eq_floor (by positivity)]
  norm_num

theorem text?_of_isFinite {number : Float} (finite : number.isFinite = true) :
    text? number =
      if exactCount (exactValue number) < limit then
        some (write (hasSignBit number) (exactCount (exactValue number)))
      else none := by
  rcases (isFinite_iff number).mp finite with ⟨negative, mantissa, exponent, read⟩
  rw [text?, read, exactValue_of_parts read, hasSignBit_of_parts read, exactOf, signed,
    exactCount_binary]

/-- Reading the text of a double gives the tenths that are nearest to it. -/
theorem spelled_text? {number : Float} {text : String} (finite : number.isFinite = true)
    (shown : text? number = some text) :
    spelled text = signed (hasSignBit number) (exactCount (exactValue number) / 10) := by
  rw [text?_of_isFinite finite] at shown
  split at shown
  · cases shown
    rw [spelled_write]
  · cases shown

theorem abs_exactCount_sub_le (value : ℚ) :
    |(exactCount value : ℚ) / 10 - (|value|)| ≤ 1 / 20 := by
  have near : |10 * (|value|) - (exactCount value : ℚ)| ≤ 1 / 2 := by
    have rounded := abs_sub_round (10 * |value|)
    rw [← natCast_exactCount] at rounded
    exact_mod_cast rounded
  rw [abs_le] at near ⊢
  constructor <;> linarith

theorem exactCount_of_tie {value : ℚ} {whole : Nat} (tie : 10 * |value| = whole + 1 / 2) :
    (exactCount value : ℚ) / 10 = |value| + 1 / 20 := by
  have up : exactCount value = whole + 1 := by
    have sum : (10 : ℕ) * |value| + 1 / (2 : ℕ) = ((whole + 1 : Nat) : ℚ) := by
      push_cast
      linarith
    rw [exactCount, sum, Nat.floor_natCast]
  rw [up]
  push_cast
  linarith

theorem exactCount_mono {value other : ℚ} (smaller : |value| ≤ |other|) :
    (exactCount value : ℚ) / 10 ≤ exactCount other / 10 := by
  have counts : exactCount value ≤ exactCount other := by
    apply Nat.floor_mono
    gcongr
  gcongr

theorem exactCount_zero : exactCount (0 : ℚ) = 0 := by
  rw [exactCount, Nat.floor_eq_zero]
  norm_num

/-- Rounding keeps the order of numbers with signs. -/
theorem signed_exactCount_mono {negative otherNegative : Bool} {value other : ℚ}
    (side : value = signed negative |value|) (otherSide : other = signed otherNegative |other|)
    (below : value ≤ other) :
    signed negative (exactCount value / 10) ≤ signed otherNegative (exactCount other / 10) := by
  cases negative <;> cases otherNegative <;> simp only [signed, if_true, if_false,
    Bool.false_eq_true, one_mul, neg_one_mul] at side otherSide ⊢
  · exact exactCount_mono (by linarith)
  · -- A size that is not above the opposite of a size is nought, and so is the other.
    have nought : value = 0 := by linarith [abs_nonneg value, abs_nonneg other]
    have otherNought : other = 0 := by linarith [abs_nonneg value, abs_nonneg other]
    simp [nought, otherNought, exactCount_zero]
  · have low : (0 : ℚ) ≤ exactCount value / 10 := by positivity
    have high : (0 : ℚ) ≤ exactCount other / 10 := by positivity
    linarith
  · have smaller := exactCount_mono (show |other| ≤ |value| by linarith)
    linarith

/-- The shown text of a finite double is the correctly rounded decimal of its exact value. -/
theorem finite_doubles_are_shown_correctly_rounded (number : Float)
    (finite : number.isFinite = true) :
    ∃ tenths : ℕ, (tenths : ℤ) = round (10 * |exactValue number|) ∧
      (text? number = none ↔ 10 ^ 28 ≤ tenths) ∧
      (tenths < 10 ^ 28 →
        text? number =
          some ((if hasSignBit number then "-" else "") ++ toString (tenths / 10) ++ "." ++
            toString (tenths % 10))) ∧
      ∀ text, text? number = some text →
        |spelled text - exactValue number| ≤ 1 / 20 ∧
        (∀ whole : ℕ, 10 * |exactValue number| = whole + 1 / 2 →
          |spelled text| = |exactValue number| + 1 / 20) ∧
        ∀ other otherText, other.isFinite = true → text? other = some otherText →
          number ≤ other → spelled text ≤ spelled otherText := by
  have bound : limit = 10 ^ 28 := rfl
  refine ⟨exactCount (exactValue number), natCast_exactCount _, ?_, ?_, ?_⟩
  · rw [text?_of_isFinite finite, bound]
    simp
  · intro short
    rw [text?_of_isFinite finite, bound, if_pos short, write]
  · intro text shown
    have read := spelled_text? finite shown
    refine ⟨?_, ?_, ?_⟩
    · calc |spelled text - exactValue number|
          = |signed (hasSignBit number) (exactCount (exactValue number) / 10) -
              signed (hasSignBit number) (|exactValue number|)| := by
            rw [read, ← exactValue_eq_signed finite]
        _ = |(exactCount (exactValue number) : ℚ) / 10 - (|exactValue number|)| := by
            rw [signed_sub, abs_signed]
        _ ≤ 1 / 20 := abs_exactCount_sub_le _
    · intro whole tie
      rw [read, abs_signed, abs_of_nonneg (by positivity), exactCount_of_tie tie]
    · intro other otherText otherFinite otherShown below
      rw [read, spelled_text? otherFinite otherShown]
      exact signed_exactCount_mono (exactValue_eq_signed finite) (exactValue_eq_signed otherFinite)
        ((le_iff_exactValue_le finite otherFinite).mp below)

/-- Minus a quarter. -/
def minusQuarter : Float :=
  Float.ofBits 0xBFD0000000000000

theorem minusQuarter_is_shown_away_from_nought :
    minusQuarter.isFinite = true ∧ text? minusQuarter = some "-0.3" ∧
      |spelled "-0.3"| = |exactValue minusQuarter| + 1 / 20 := by
  have finite : minusQuarter.isFinite = true := by decide
  have shown : text? minusQuarter = some "-0.3" := by decide
  have value : exactValue minusQuarter = -(1 / 4) := by
    have read : parts minusQuarter = .finite true 4503599627370496 (-54) := by decide
    rw [exactValue_of_parts read, exactOf, signed]
    norm_num
  refine ⟨finite, shown, ?_⟩
  rcases finite_doubles_are_shown_correctly_rounded minusQuarter finite with
    ⟨_, _, _, _, correct⟩
  refine (correct "-0.3" shown).2.1 2 ?_
  rw [value]
  norm_num

end TypeGauge.Number.Tenths
