import TypeGauge.Setup.Basic

/-!
# Severities

A finding is an error, a warning or a piece of information, depending on where its
score lies among the policy's thresholds.  Reporters also pass on severities with
other words; these are counted nowhere.
-/

namespace TypeGauge.Check

open TypeGauge.Setup TypeGauge.Score

/-- How grave a finding is. -/
inductive Severity where
  | error
  | warning
  | info
  | other (word : String)
deriving DecidableEq, Repr, Inhabited

namespace Severity

/-- The word for a severity. -/
def word : Severity → String
  | .error => "error"
  | .warning => "warning"
  | .info => "info"
  | .other word => word

/-- The severity that a word stands for. -/
def ofWord (word : String) : Severity :=
  if word == "error" then .error
  else if word == "warning" then .warning
  else if word == "info" then .info
  else .other word

/-- The severity of a score under a policy. -/
def ofScore {α : Type} (arithmetic : Arithmetic α) (policy : Policy α) (score : α) : Severity :=
  if arithmetic.atMost policy.errorThreshold score then .error
  else if arithmetic.atMost policy.warnThreshold score then .warning
  else .info

@[simp]
theorem word_ofWord (word : String) : (ofWord word).word = word := by
  unfold ofWord
  split
  · simp_all [Severity.word]
  · split
    · simp_all [Severity.word]
    · split <;> simp_all [Severity.word]

end Severity

end TypeGauge.Check
