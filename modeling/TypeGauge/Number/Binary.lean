/-!
# Binary floating-point numbers

A double is a sign, a whole mantissa and a power of two, or one of the
infinities, or not a number.  `parts` reads these off the bit pattern and
`nearest` goes the other way: it rounds an exact fraction to the nearest
double, an exact half going to the even mantissa.  Everything here is exact
arithmetic on natural numbers.
-/

namespace TypeGauge.Number.Binary

/-- What a double stands for. -/
inductive Parts where
  /-- The value `± mantissa · 2 ^ exponent`. -/
  | finite (negative : Bool) (mantissa : Nat) (exponent : Int)
  | infinite (negative : Bool)
  | notANumber
deriving DecidableEq, Repr, Inhabited

/-- A power of two. -/
def twoTo (exponent : Nat) : Nat :=
  Nat.pow 2 exponent

/-- A power of ten. -/
def tenTo (exponent : Nat) : Nat :=
  Nat.pow 10 exponent

/-- The meaning of a bit pattern of the binary interchange format. -/
def partsOfBits (bits : Nat) : Parts :=
  let negative := bits / twoTo 63 % 2 == 1
  let biased := bits / twoTo 52 % twoTo 11
  let fraction := bits % twoTo 52
  if biased == 2047 then
    if fraction == 0 then .infinite negative else .notANumber
  else if biased == 0 then
    .finite negative fraction (-1074)
  else
    .finite negative (twoTo 52 + fraction) (Int.ofNat biased - 1075)

/-- The meaning of a double. -/
def parts (number : Float) : Parts :=
  partsOfBits number.toBits.toNat

/-- The infinity of a sign. -/
def infinity (negative : Bool) : Float :=
  Float.ofBits (if negative then 0xFFF0000000000000 else 0x7FF0000000000000)

/-- The zero of a sign. -/
def nought (negative : Bool) : Float :=
  Float.ofBits (if negative then 0x8000000000000000 else 0)

/-- The double that stands for no number. -/
def undefinedNumber : Float :=
  Float.ofBits 0x7FF8000000000000

/-- Divide and round to the nearest whole number, an exact half going to the even neighbour. -/
def divideToEven (numerator denominator : Nat) : Nat :=
  let quotient := numerator / denominator
  let remainder := numerator % denominator
  if denominator < 2 * remainder then quotient + 1
  else if 2 * remainder == denominator && quotient % 2 == 1 then quotient + 1
  else quotient

/-- The power of two that brings a fraction's mantissa into 53 bits, never below the smallest. -/
def scaleFor (numerator denominator : Nat) : Int :=
  let estimate : Int := Int.ofNat numerator.log2 - Int.ofNat denominator.log2 - 53
  let quotient :=
    if estimate < 0 then numerator * twoTo (-estimate).toNat / denominator
    else numerator / (denominator * twoTo estimate.toNat)
  max (if quotient < twoTo 53 then estimate else estimate + 1) (-1074)

/-- The double nearest to `± numerator / denominator`, infinite when none is near enough. -/
def nearest (negative : Bool) (numerator denominator : Nat) : Float :=
  if numerator == 0 || denominator == 0 then nought negative
  else
    let scale := scaleFor numerator denominator
    let mantissa :=
      if scale < 0 then divideToEven (numerator * twoTo (-scale).toNat) denominator
      else divideToEven numerator (denominator * twoTo scale.toNat)
    let magnitude :=
      if mantissa < twoTo 52 then mantissa
      else (scale + 1075).toNat * twoTo 52 + (mantissa - twoTo 52)
    if 2047 * twoTo 52 ≤ magnitude then infinity negative
    else Float.ofBits (UInt64.ofNat (magnitude + if negative then twoTo 63 else 0))

/-- The double nearest to a whole number. -/
def ofInt (number : Int) : Float :=
  nearest (number < 0) number.natAbs 1

/-- The double nearest to `± digits · 10 ^ exponent`. -/
def ofDecimal (negative : Bool) (digits : Nat) (exponent : Int) : Float :=
  if digits == 0 then nought negative
  else if 400 < exponent then infinity negative
  else if exponent < -(400 + Int.ofNat digits.log2) then nought negative
  else if exponent < 0 then nearest negative digits (tenTo (-exponent).toNat)
  else nearest negative (digits * tenTo exponent.toNat) 1

/-- The whole part of a finite double, rounded towards zero. -/
def truncate (negative : Bool) (mantissa : Nat) (exponent : Int) : Int :=
  let magnitude :=
    if exponent < 0 then mantissa / twoTo (-exponent).toNat else mantissa * twoTo exponent.toNat
  if negative then -Int.ofNat magnitude else Int.ofNat magnitude

/-- The whole number that a finite double is exactly equal to, if there is one. -/
def exactInt? (number : Float) : Option Int :=
  match parts number with
  | .finite negative mantissa exponent =>
      if exponent < 0 && mantissa % twoTo (-exponent).toNat != 0 then none
      else some (truncate negative mantissa exponent)
  | _ => none

end TypeGauge.Number.Binary
