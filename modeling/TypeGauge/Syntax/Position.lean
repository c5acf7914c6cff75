import TypeGauge.Number.Binary
import TypeGauge.Number.Whole
import TypeGauge.Syntax.Node

/-!
# Positions in source files

A node may tell where it starts: a line, counted from one, and a column, counted
from nought.  Either may be missing and is then the first.  A position may be
written as any number or as the text of a whole number; fractions are cut off.
-/

namespace TypeGauge.Syntax

open TypeGauge.Data TypeGauge.Number

/-- A line, counted from one, and a column, counted from nought. -/
structure Position where
  line : Int
  column : Int
deriving DecidableEq, Repr, Inhabited

/-- Where a declaration without a position is reported. -/
def Position.start : Position :=
  ⟨1, 0⟩

/-- The whole number that a value stands for. -/
def wholeOf (value : Value) : Except Fault Int :=
  match value with
  | .whole number => .ok number
  | .truth flag => .ok (if flag then 1 else 0)
  | .double number =>
      match Binary.parts number with
      | .finite negative mantissa exponent => .ok (Binary.truncate negative mantissa exponent)
      | .infinite _ => .error .infinitePosition
      | .notANumber => .error .undefinedPosition
  | .text content =>
      match Whole.read content.toList with
      | .ok number => .ok number
      | .error .malformed => .error (.notWhole content)
      | .error (.tooManyDigits count) => .error (.tooManyDigits count)
  | other => .error (.notNumeric other.kind)

/-- The position at which a node starts, if it tells. -/
def positionOf (node : Value) : Except Fault (Option Position) := do
  requireObject node
  let start := (node.field "loc").field "start"
  if start.isObject then
    let line ← wholeOf ((start.field? "line").getD (.whole 1))
    let column ← wholeOf ((start.field? "column").getD (.whole 0))
    return some ⟨line, column⟩
  else return none

end TypeGauge.Syntax
