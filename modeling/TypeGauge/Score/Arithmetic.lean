import TypeGauge.Number.Binary
import TypeGauge.Number.Tenths

/-!
# Score arithmetic

Scores are added, multiplied, compared and shown, and nothing else is done with
them.  `Arithmetic` collects these operations, so that scoring and checking are
written once and can be run on doubles and reasoned about on exact numbers.
Every constant of the scoring rules is a whole number of halves.

The weight of a depth is the binary logarithm of its successor.  Depths below
nought have none.
-/

namespace TypeGauge.Score

open TypeGauge.Number

/-- What is done with scores. -/
structure Arithmetic (α : Type) where
  /-- So many halves. -/
  ofHalves : Nat → α
  add : α → α → α
  mul : α → α → α
  /-- Whether the first is strictly below the second. -/
  less : α → α → Bool
  /-- Whether the first is not above the second. -/
  atMost : α → α → Bool
  /-- The factor by which scores at a depth are multiplied. -/
  weight? : Int → Option α
  /-- A score with one decimal place. -/
  show? : α → Option String

namespace Arithmetic

variable {α : Type}

/-- A whole number as a score. -/
def ofNat (arithmetic : Arithmetic α) (number : Nat) : α :=
  arithmetic.ofHalves (2 * number)

/-- The score of nothing. -/
def nothing (arithmetic : Arithmetic α) : α :=
  arithmetic.ofHalves 0

end Arithmetic

/-- The binary logarithm of a positive whole number. -/
def binaryLog (number : Nat) : Float :=
  let nearest := Binary.nearest false number 1
  match Binary.parts nearest with
  | .infinite _ =>
      let size := number.log2 + 1
      Float.log2 (Binary.nearest false number (Binary.twoTo size)) + Binary.nearest false size 1
  | _ => Float.log2 nearest

/-- The binary logarithm of a depth's successor. -/
def depthWeight? (depth : Int) : Option Float :=
  if 0 < depth + 1 then some (binaryLog (depth + 1).toNat) else none

/-- Scores as doubles. -/
def doubles : Arithmetic Float where
  ofHalves count := Binary.nearest false count 2
  add := (· + ·)
  mul := (· * ·)
  less first second := first < second
  atMost first second := first ≤ second
  weight? := depthWeight?
  show? := Tenths.text?

/-- The same arithmetic with the weight one at every depth. -/
def Arithmetic.withoutDecay {α : Type} (arithmetic : Arithmetic α) : Arithmetic α :=
  { arithmetic with weight? := fun _ => some (arithmetic.ofNat 1) }

end TypeGauge.Score
