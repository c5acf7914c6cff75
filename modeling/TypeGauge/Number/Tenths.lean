import TypeGauge.Number.Binary

/-!
# One decimal place

Scores are shown with one decimal place.  The exact value of the double is
rounded to tenths, an exact half going away from zero, and a result of more
than twenty-eight digits is refused.
-/

namespace TypeGauge.Number.Tenths

open TypeGauge.Number.Binary

/-- The number of tenths nearest to `numerator / denominator`, a half going up. -/
def count (numerator denominator : Nat) : Nat :=
  (2 * 10 * numerator + denominator) / (2 * denominator)

/-- The number of tenths nearest to `mantissa · 2 ^ exponent`, a half going up. -/
def ofBinary (mantissa : Nat) (exponent : Int) : Nat :=
  count (mantissa * twoTo exponent.toNat) (twoTo (-exponent).toNat)

/-- A sign, a whole part without leading zeros, a point and one digit. -/
def write (negative : Bool) (tenths : Nat) : String :=
  (if negative then "-" else "") ++ toString (tenths / 10) ++ "." ++ toString (tenths % 10)

/-- A result needs at most twenty-eight digits. -/
def limit : Nat :=
  tenTo 28

/-- The text of a double with one decimal place, or nothing when it needs too many digits. -/
def text? (number : Float) : Option String :=
  match parts number with
  | .notANumber => some "NaN"
  | .infinite _ => none
  | .finite negative mantissa exponent =>
      let tenths := ofBinary mantissa exponent
      if tenths < limit then some (write negative tenths) else none

end TypeGauge.Number.Tenths
