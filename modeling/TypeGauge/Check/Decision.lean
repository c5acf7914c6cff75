import TypeGauge.Data.Value
import TypeGauge.Setup.Basic

/-!
# Decisions

A type alias or a validator needs an explicit check once its score reaches the base
threshold, unless it merely re-exposes a validator.  An interface is measured
against the interface penalty instead.
-/

namespace TypeGauge.Check

open TypeGauge.Data TypeGauge.Setup TypeGauge.Score

/-- What is to be reported about a declaration. -/
inductive Decision (α : Type) where
  | noReport
  | missingCheck (score : α)
  | complexInterface (name : Value) (score : α)
deriving Inhabited

namespace Decision

variable {α : Type}

/-- The name under which an interface without a name is reported. -/
def unknownName : String :=
  "unknown"

/-- What to report about a type alias. -/
def ofAlias (arithmetic : Arithmetic α) (policy : Policy α) (score : α) (isStaticOf : Bool) :
    Decision α :=
  if isStaticOf || arithmetic.less score policy.baseThreshold then .noReport
  else .missingCheck score

/-- What to report about a validator. -/
def ofValidator (arithmetic : Arithmetic α) (policy : Policy α) (score : α) : Decision α :=
  if arithmetic.less score policy.baseThreshold then .noReport else .missingCheck score

/-- What to report about an interface. -/
def ofInterface (arithmetic : Arithmetic α) (policy : Policy α) (name : Value) (score : α) :
    Decision α :=
  if arithmetic.less score policy.interfacePenalty then .noReport
  else .complexInterface (name.orElse (.text unknownName)) score

/-- Whether anything is to be reported. -/
def isReport : Decision α → Bool
  | .noReport => false
  | _ => true

end Decision

end TypeGauge.Check
