import TypeGauge.Score.Arithmetic

/-!
# Policies

A policy holds the thresholds of an analysis: from which score on a plain type
needs an explicit check, from which scores on a finding is a warning or an error,
what an interface costs at least, whether sums are capped, and at which depth
declarations are scored.
-/

namespace TypeGauge.Setup

open TypeGauge.Score

/-- The thresholds of an analysis. -/
structure Policy (α : Type) where
  /-- Plain types and validators are reported from this score on. -/
  baseThreshold : α
  /-- Scores from here on are warnings. -/
  warnThreshold : α
  /-- Scores from here on are errors; sums are capped at twice this. -/
  errorThreshold : α
  /-- What every interface costs, and from where on interfaces are reported. -/
  interfacePenalty : α
  /-- Whether sums are capped. -/
  performanceMode : Bool
  /-- The depth at which declarations are scored. -/
  entryDepth : Int
deriving Inhabited

namespace Policy

variable {α : Type}

/-- The largest sum in performance mode. -/
def ceiling (policy : Policy α) (arithmetic : Arithmetic α) : α :=
  arithmetic.mul policy.errorThreshold (arithmetic.ofNat 2)

/-- The base threshold of the standard policy. -/
def standardBase : Nat :=
  10

/-- The threshold for warnings of the standard policy. -/
def standardWarn : Nat :=
  15

/-- The threshold for errors of the standard policy. -/
def standardError : Nat :=
  25

/-- What an interface costs under the standard policy. -/
def standardPenalty : Nat :=
  20

/-- The policy of an analysis about which nothing else is said. -/
def standard (arithmetic : Arithmetic α) : Policy α where
  baseThreshold := arithmetic.ofNat standardBase
  warnThreshold := arithmetic.ofNat standardWarn
  errorThreshold := arithmetic.ofNat standardError
  interfacePenalty := arithmetic.ofNat standardPenalty
  performanceMode := true
  entryDepth := 0

end Policy

end TypeGauge.Setup
