import TypeGauge.Check.Pass
import TypeGauge.Dump.Scan
import TypeGauge.Setup.Configuration
import TypeGauge.Report.Table

/-!
# Listings

What the commands show: the diagnostics of a scan, the scored declarations of a dump,
and the settings of a configuration, each as a table with words around it.
-/

namespace TypeGauge.Report

open TypeGauge.Check TypeGauge.Data TypeGauge.Dump TypeGauge.Files TypeGauge.Setup
open TypeGauge.Score

/-- A score with one decimal place. -/
def scoreText (score : Float) : Except Fault String :=
  match doubles.show? score with
  | some text => .ok text
  | none => .error .unshowableScore

/-- The row of a diagnostic. -/
def diagnosticRow (diagnostic : Diagnostic Float) : Except Fault (List String) := do
  let place := diagnostic.file.text ++ ":" ++ toString diagnostic.line ++ ":" ++
    toString diagnostic.column
  let score ←
    match diagnostic.score with
    | some score => scoreText score
    | none => pure "-"
  return [guarded place, diagnostic.severity.word, score, guarded diagnostic.message]

/-- Rows in turn. -/
def rowsOf {α : Type} (rowOf : α → Except Fault (List String)) :
    List α → Except Fault (List (List String))
  | [] => .ok []
  | item :: rest => do
      let row ← rowOf item
      let rows ← rowsOf rowOf rest
      return row :: rows

/-- How many diagnostics a scan made, and how grave they are. -/
def tally (report : ScanReport Float) : String :=
  let counted (severity : Severity) := toString (Diagnostic.count severity report.diagnostics)
  toString report.diagnostics.length ++ " problem(s) in " ++ toString report.fileCount ++
    " file(s): " ++ counted .error ++ " error(s), " ++ counted .warning ++ " warning(s), " ++
    counted .info ++ " info"

/-- The diagnostics of a scan as a table. -/
def scanLines (report : ScanReport Float) : Except Fault (List String) := do
  if report.diagnostics.isEmpty then
    return ["No issues found in " ++ toString report.fileCount ++ " file(s)."]
  else
    let rows ← rowsOf diagnosticRow report.diagnostics
    let table : Table := ⟨none, ["Location", "Severity", "Score", "Message"], rows⟩
    return table.lines ++ [tally report]

/-- The name of a declaration for display. -/
def displayName (name : Value) : Except Fault String :=
  match name.orElse (.text "<anonymous>") with
  | .text content => .ok content
  | other => .error (.notText other.kind)

/-- The row of a scored declaration. -/
def declarationRow (declaration : ScoredDeclaration Float) : Except Fault (List String) := do
  let line :=
    match declaration.source with
    | some place => toString place.line
    | none => "?"
  let name ← displayName declaration.name
  let score ← scoreText declaration.score
  return [line, declaration.kind.label, guarded name, score]

/-- The scored declarations of the dump at a path as a table. -/
def declarationLines (path : Path) (declarations : List (ScoredDeclaration Float)) :
    Except Fault (List String) := do
  let rows ← rowsOf declarationRow declarations
  let table : Table := ⟨some (guarded path.text), ["Line", "Kind", "Name", "Score"], rows⟩
  return table.lines

/-- A threshold: one that was given is written as a double, the standard one as a whole number. -/
def thresholdText (given : Option Float) (standard : Nat) : String :=
  match given with
  | some number => doubleText number
  | none => toString standard

/-- The value of a setting for display. -/
def settingText (given : SettingsDraft) : SettingKey → String
  | .policy .baseThreshold => thresholdText given.policy.baseThreshold Policy.standardBase
  | .policy .warnThreshold => thresholdText given.policy.warnThreshold Policy.standardWarn
  | .policy .errorThreshold => thresholdText given.policy.errorThreshold Policy.standardError
  | .policy .interfacePenalty =>
      thresholdText given.policy.interfacePenalty Policy.standardPenalty
  | .policy .performanceMode => (Value.truth given.complete.policy.performanceMode).shown
  | .policy .entryDepth => toString given.complete.policy.entryDepth
  | .plain .validatorNamespace => given.complete.validatorNamespace
  | .plain .staticMarker => given.complete.staticMarker
  | .plain .logLevel => given.complete.logLevel

/-- The row of a setting. -/
def settingRow (configuration : Configuration) (key : SettingKey) : List String :=
  let origin := if configuration.overrides.contains key.dotted then "env" else "file/default"
  [key.dotted, guarded (settingText configuration.given key), origin]

/-- Where the settings of a configuration come from. -/
def originText (configuration : Configuration) : String :=
  let path := guarded configuration.path.text
  if configuration.rejection.isSome then "Config file rejected; defaults are in effect."
  else if configuration.isFileLoaded then "Read " ++ path ++ "."
  else "No config file at " ++ path ++ "; defaults and environment only."

/-- The settings of a configuration as a table. -/
def configurationLines (configuration : Configuration) : List String :=
  let title := "Configuration (" ++ guarded configuration.path.text ++ ")"
  let rows := SettingKey.all.map (settingRow configuration)
  let table : Table := ⟨some title, ["Setting", "Value", "From"], rows⟩
  table.lines ++ consoleLines (originText configuration)

end TypeGauge.Report
