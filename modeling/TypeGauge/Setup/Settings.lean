import TypeGauge.Setup.Basic

/-!
# Settings

Settings are a policy together with the names that the analysed program uses for
the validator namespace and for the static type of a validator, and the level of
detail of the log.
-/

namespace TypeGauge.Setup

open TypeGauge.Score

/-- The settings of an analysis. -/
structure Settings (α : Type) where
  policy : Policy α
  /-- The identifier whose methods construct validators. -/
  validatorNamespace : String
  /-- The dotted name of the type that extracts a validator's static type. -/
  staticMarker : String
  logLevel : String
deriving Inhabited

/-- The settings of an analysis about which nothing else is said. -/
def Settings.standard {α : Type} (arithmetic : Arithmetic α) : Settings α where
  policy := .standard arithmetic
  validatorNamespace := "Ianitor"
  staticMarker := "Ianitor.Static"
  logLevel := "WARNING"

end TypeGauge.Setup
