/-!
# Surrogates

A document can spell one half of a surrogate pair and leave out the other.  No character is
such a half, so each half has a stand-in: the character as far into the last private plane as
the half is into the first plane.  Texts that differ in their halves therefore differ here.
Only a document that uses these private characters themselves would be misread.
-/

namespace TypeGauge.Text.Surrogate

/-- Whether a unit is the first half of a surrogate pair. -/
def isHigh (unit : Nat) : Bool :=
  0xD800 ≤ unit && unit ≤ 0xDBFF

/-- Whether a unit is the second half of a surrogate pair. -/
def isLow (unit : Nat) : Bool :=
  0xDC00 ≤ unit && unit ≤ 0xDFFF

/-- The code point that two halves of a pair stand for. -/
def paired (high low : Nat) : Nat :=
  0x10000 + (high - 0xD800) * 0x400 + (low - 0xDC00)

/-- Where the plane of the stand-ins begins. -/
def plane : Nat :=
  0x100000

/-- The character of a unit, which is a stand-in for a half of a pair. -/
def characterOf (unit : Nat) : Char :=
  if isHigh unit || isLow unit then Char.ofNat (plane + unit) else Char.ofNat unit

/-- Whether a character is the stand-in for a half. -/
def isStandIn (character : Char) : Bool :=
  isHigh (character.toNat - plane) || isLow (character.toNat - plane)

/-- The code point of a character, or the half that it stands in for. -/
def codeOf (character : Char) : Nat :=
  if isStandIn character then character.toNat - plane else character.toNat

/-- Every unit is got back from its character, so different units have different characters. -/
theorem codeOf_characterOf {unit : Nat} (isUnit : unit < 0x10000) :
    codeOf (characterOf unit) = unit := by
  have toNat_ofNat {code : Nat} (isValid : code.isValidChar) : (Char.ofNat code).toNat = code := by
    rw [Char.ofNat, dif_pos isValid]
    rfl
  rw [characterOf]
  split
  · rename_i isHalf
    have half : 0xD800 ≤ unit ∧ unit ≤ 0xDFFF := by
      simp [isHigh, isLow] at isHalf
      omega
    have code : (Char.ofNat (plane + unit)).toNat = plane + unit :=
      toNat_ofNat (.inr (by simp [plane]; omega))
    rw [codeOf, isStandIn, code, Nat.add_sub_cancel_left, if_pos isHalf]
  · rename_i isWhole
    have outside : unit < 0xD800 ∨ 0xDFFF < unit := by
      simp [isHigh, isLow] at isWhole
      omega
    have code : (Char.ofNat unit).toNat = unit :=
      toNat_ofNat (outside.imp_right fun above => ⟨above, by omega⟩)
    have noStandIn : isStandIn (Char.ofNat unit) = false := by
      have below : unit - plane = 0 := Nat.sub_eq_zero_of_le (by simp [plane]; omega)
      rw [isStandIn, code, below]
      rfl
    rw [codeOf, noStandIn, code]
    rfl

end TypeGauge.Text.Surrogate
