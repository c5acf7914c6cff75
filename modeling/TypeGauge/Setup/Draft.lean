import TypeGauge.Setup.Field
import TypeGauge.Setup.Settings

/-!
# Drafts

A draft holds the settings that somebody gave and leaves the others open.  Filling
in a draft takes the open ones from the standard settings.
-/

namespace TypeGauge.Setup

open TypeGauge.Score

/-- A policy in which fields may be open. -/
structure PolicyDraft where
  baseThreshold : Option Float
  warnThreshold : Option Float
  errorThreshold : Option Float
  interfacePenalty : Option Float
  performanceMode : Option Bool
  entryDepth : Option Int
deriving Inhabited

/-- The policy about which nothing is said. -/
def PolicyDraft.empty : PolicyDraft :=
  ⟨none, none, none, none, none, none⟩

/-- Fill in the open fields. -/
def PolicyDraft.complete (draft : PolicyDraft) : Policy Float :=
  let standard := Policy.standard doubles
  { baseThreshold := draft.baseThreshold.getD standard.baseThreshold
    warnThreshold := draft.warnThreshold.getD standard.warnThreshold
    errorThreshold := draft.errorThreshold.getD standard.errorThreshold
    interfacePenalty := draft.interfacePenalty.getD standard.interfacePenalty
    performanceMode := draft.performanceMode.getD standard.performanceMode
    entryDepth := draft.entryDepth.getD standard.entryDepth }

/-- Settings of which some may be open. -/
structure SettingsDraft where
  policy : PolicyDraft
  validatorNamespace : Option String
  staticMarker : Option String
  logLevel : Option String
deriving Inhabited

/-- The settings about which nothing is said. -/
def SettingsDraft.empty : SettingsDraft :=
  ⟨.empty, none, none, none⟩

/-- Fill in the open settings. -/
def SettingsDraft.complete (draft : SettingsDraft) : Settings Float :=
  let standard := Settings.standard doubles
  { policy := draft.policy.complete
    validatorNamespace := draft.validatorNamespace.getD standard.validatorNamespace
    staticMarker := draft.staticMarker.getD standard.staticMarker
    logLevel := draft.logLevel.getD standard.logLevel }

end TypeGauge.Setup
