/-!
# Names of settings

Every setting has a name.  A field of the policy also has an alternate name in the
style of rule options, and where both are given the alternate one counts.  The names
outside the policy may be written in any letter case.  A variable of the environment
that replaces a setting is named after it.
-/

namespace TypeGauge.Setup

/-- The fields of a policy. -/
inductive PolicyField where
  | baseThreshold
  | warnThreshold
  | errorThreshold
  | interfacePenalty
  | performanceMode
  | entryDepth
deriving DecidableEq, Repr, Inhabited

namespace PolicyField

/-- Every field, in the order in which they are listed. -/
def all : List PolicyField :=
  [.baseThreshold, .warnThreshold, .errorThreshold, .interfacePenalty, .performanceMode,
    .entryDepth]

/-- The name of a field. -/
def name : PolicyField → String
  | .baseThreshold => "base_threshold"
  | .warnThreshold => "warn_threshold"
  | .errorThreshold => "error_threshold"
  | .interfacePenalty => "interface_penalty"
  | .performanceMode => "performance_mode"
  | .entryDepth => "entry_depth"

/-- The alternate name of a field. -/
def alternate : PolicyField → String
  | .baseThreshold => "baseThreshold"
  | .warnThreshold => "warnThreshold"
  | .errorThreshold => "errorThreshold"
  | .interfacePenalty => "interfacePenalty"
  | .performanceMode => "performanceMode"
  | .entryDepth => "entryDepth"

end PolicyField

/-- The settings outside the policy. -/
inductive PlainField where
  | validatorNamespace
  | staticMarker
  | logLevel
deriving DecidableEq, Repr, Inhabited

namespace PlainField

/-- Every setting outside the policy, in the order in which they are listed. -/
def all : List PlainField :=
  [.validatorNamespace, .staticMarker, .logLevel]

/-- The name of a setting outside the policy. -/
def name : PlainField → String
  | .validatorNamespace => "validator_namespace"
  | .staticMarker => "static_marker"
  | .logLevel => "log_level"

end PlainField

/-- A single setting. -/
inductive SettingKey where
  | policy (field : PolicyField)
  | plain (field : PlainField)
deriving DecidableEq, Repr, Inhabited

/-- The name under which the policy stands among the settings. -/
def policyKey : String :=
  "policy"

/-- The names at the top of the settings, the policy first. -/
def topNames : List String :=
  policyKey :: PlainField.all.map PlainField.name

/-- What the names of variables that hold settings start with. -/
def variableStart : String :=
  "IANITOR_"

/-- What separates the parts of a variable's name. -/
def variableSeparator : String :=
  "__"

namespace SettingKey

/-- Every setting, the policy first. -/
def all : List SettingKey :=
  PolicyField.all.map .policy ++ PlainField.all.map .plain

/-- The dotted name of a setting. -/
def dotted : SettingKey → String
  | .policy field => policyKey ++ "." ++ field.name
  | .plain field => field.name

/-- The variable that replaces a setting. -/
def variableName : SettingKey → String
  | .policy field => variableStart ++ policyKey.toUpper ++ variableSeparator ++ field.name.toUpper
  | .plain field => variableStart ++ field.name.toUpper

end SettingKey

end TypeGauge.Setup
