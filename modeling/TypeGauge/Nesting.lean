/-!
# Nesting limits

Documents, syntax trees and type expressions are followed only so deep.  What is
nested deeper is refused as a whole, never cut off in silence.
-/

namespace TypeGauge.Nesting

/-- How deep lists and objects may be nested in a document. -/
def documentRoom : Nat :=
  1500

/-- How deep nodes may be nested in a syntax tree. -/
def nodeRoom : Nat :=
  440

/-- How deep type expressions may be nested, when they are built and when they are scored. -/
def typeRoom : Nat :=
  330

end TypeGauge.Nesting
