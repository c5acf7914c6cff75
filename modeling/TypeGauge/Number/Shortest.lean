import TypeGauge.Number.Binary

/-!
# Shortest decimals

A double is written with the fewest digits that read back as the same double,
and with the digits nearest to it among those.  The search goes through
decimal grids from coarse to fine.  On each grid only the two neighbours of
the value can lie in the interval of reals that round to it, so the first grid
with a neighbour inside the interval gives the digits.
-/

namespace TypeGauge.Number.Shortest

open TypeGauge.Number.Binary

/-- A decimal `digits · 10 ^ exponent`. -/
structure Decimal where
  digits : Nat
  exponent : Int
deriving DecidableEq, Repr, Inhabited

/--
The point of the grid of multiples of `10 ^ grid` that reads back as
`mantissa · 2 ^ exponent`, the nearer one when both neighbours do.
-/
def onGrid? (mantissa : Nat) (exponent grid : Int) : Option Nat :=
  let quarter := exponent - 2
  let valueScale := twoTo quarter.toNat * tenTo (-grid).toNat
  let gridScale := tenTo grid.toNat * twoTo (-quarter).toNat
  let value := 4 * mantissa * valueScale
  let below := if mantissa == twoTo 52 && -1074 < exponent then 1 else 2
  let low := (4 * mantissa - below) * valueScale
  let high := (4 * mantissa + 2) * valueScale
  let inside (point : Nat) : Bool :=
    if mantissa % 2 == 0 then low ≤ point && point ≤ high else low < point && point < high
  let floor := value / gridScale
  let lowFits := inside (floor * gridScale)
  let highFits := inside ((floor + 1) * gridScale)
  let remainder := value % gridScale
  if lowFits && highFits then
    if 2 * remainder < gridScale || (2 * remainder == gridScale && floor % 2 == 0) then some floor
    else some (floor + 1)
  else if lowFits then some floor
  else if highFits then some (floor + 1)
  else none

/-- Try one grid after the other, each ten times finer than the one before. -/
def search (mantissa : Nat) (exponent : Int) : Nat → Int → Decimal
  | 0, grid => ⟨0, grid⟩
  | tries + 1, grid =>
      match onGrid? mantissa exponent grid with
      | some digits => ⟨digits, grid⟩
      | none => search mantissa exponent tries (grid - 1)

/-- Drop trailing zeros, so that equal decimals have equal digits. -/
def dropZeros : Nat → Decimal → Decimal
  | 0, decimal => decimal
  | tries + 1, decimal =>
      if decimal.digits != 0 && decimal.digits % 10 == 0 then
        dropZeros tries ⟨decimal.digits / 10, decimal.exponent + 1⟩
      else decimal

/-- The shortest decimal that reads back as `mantissa · 2 ^ exponent`. -/
def shortest (mantissa : Nat) (exponent : Int) : Decimal :=
  if mantissa == 0 then ⟨0, 0⟩
  else
    let bits := Int.ofNat mantissa.log2 + exponent
    let magnitude := Int.fdiv ((bits + 1) * 30103) 100000 + 2
    dropZeros 20 (search mantissa exponent 20 (magnitude - 1))

/-- How a finite double is laid out as text. -/
structure Layout where
  /-- Positional notation is used while the point stands after at most this many digits. -/
  largest : Int
  /-- Positional notation is used while at most this many zeros follow the point. -/
  smallest : Int
  /-- What a whole number ends in. -/
  wholeEnding : String
  /-- The least number of digits of a written exponent. -/
  exponentWidth : Nat

/--
Numbers are written positionally from a ten-thousandth up to sixteen digits,
whole ones end in `.0`, and exponents are signed and have two digits.
-/
def standard : Layout :=
  ⟨16, 3, ".0", 2⟩

/-- The text of a decimal, without sign. -/
def Layout.write (layout : Layout) (decimal : Decimal) : String :=
  let digits := Nat.toDigits 10 decimal.digits
  let point := Int.ofNat digits.length + decimal.exponent
  if decimal.digits == 0 then "0" ++ layout.wholeEnding
  else if layout.largest < point || point < -layout.smallest then
    let power := point - 1
    let powerDigits := Nat.toDigits 10 power.natAbs
    let padding := List.replicate (layout.exponentWidth - powerDigits.length) '0'
    let fraction := if digits.length ≤ 1 then [] else '.' :: digits.drop 1
    let mark := if power < 0 then "e-" else "e+"
    String.ofList (digits.take 1 ++ fraction) ++ mark ++ String.ofList (padding ++ powerDigits)
  else if point ≤ 0 then
    "0." ++ String.ofList (List.replicate (-point).toNat '0' ++ digits)
  else if digits.length ≤ point.toNat then
    String.ofList (digits ++ List.replicate (point.toNat - digits.length) '0') ++
      layout.wholeEnding
  else
    String.ofList (digits.take point.toNat ++ '.' :: digits.drop point.toNat)

/-- The names that the numbers without digits are written with. -/
structure SpecialNames where
  undefinedNumber : String
  infinity : String

/-- The text of a double in a layout. -/
def write (layout : Layout) (names : SpecialNames) (number : Float) : String :=
  match parts number with
  | .notANumber => names.undefinedNumber
  | .infinite negative => (if negative then "-" else "") ++ names.infinity
  | .finite negative mantissa exponent =>
      (if negative then "-" else "") ++ layout.write (shortest mantissa exponent)

end TypeGauge.Number.Shortest
