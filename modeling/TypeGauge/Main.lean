import TypeGauge.Command.Run
import TypeGauge.Setup.BuiltIn

/-!
# The program

The outermost layer: it reads the files that a command line may ask about, the variables
that hold settings and the home directories of accounts, runs the command line on them,
and prints the outcome.
-/

namespace TypeGauge.Program

open TypeGauge.Command TypeGauge.Dump TypeGauge.Files TypeGauge.Setup

/-- What stands at a direct path, and the directories and dumps beneath it. -/
partial def readBeneath (path : Path) (isAsked : Bool) : IO (List (Path × Entry)) := do
  let place := (← IO.currentDir) / path.text
  if ← place.isDir then
    let mut entries := [(path, Entry.directory)]
    for found in ← place.readDir do
      entries := entries ++ (← readBeneath (path.beneath [found.fileName]) false)
    return entries
  else if (isAsked || path.name.endsWith dumpEnding) && (← place.pathExists) then
    return [(path, .file (← IO.FS.readBinFile place).toList)]
  else return []

/-- What stands on the way to a direct path, in so far as it is a file. -/
def readOnTheWay (path : Path) : IO (List (Path × Entry)) := do
  let mut entries := []
  for count in List.range path.parts.length do
    let upper : Path := ⟨path.root, path.parts.take count⟩
    let place := (← IO.currentDir) / upper.text
    if (← place.pathExists) && !(← place.isDir) then
      entries := entries ++ [(upper, .file [])]
  return entries

/-- The files that words of a command line may ask about. -/
def readTree (words : List String) : IO Tree := do
  let mut entries := []
  for word in words do
    let path := (Path.ofText word).direct
    if !path.text.toList.contains (Char.ofNat 0) then
      entries := entries ++ (← readOnTheWay path) ++ (← readBeneath path true)
  return ⟨entries⟩

/-- The names of the variables that a run may ask about. -/
def variableNames : List String :=
  let start := variableStart ++ policyKey.toUpper
  [homeVariable, pathVariable, start] ++ SettingKey.all.map SettingKey.variableName ++
    PolicyField.all.map fun field => start ++ variableSeparator ++ field.alternate.toUpper

/-- The variables that a run may ask about. -/
def readEnvironment : IO Environment := do
  let mut environment := Environment.empty
  for name in variableNames do
    if let some value ← IO.getEnv name then
      environment := environment.put name value
  return environment

/-- The file that lists accounts with their home directories. -/
def accountsPath : String :=
  "/etc/passwd"

/--
The home directories in a list of accounts, one on a line and its parts between colons.  The
account that runs is not known, so its home is the one that the variable gives.
-/
def accountsOf (list : String) : Accounts where
  own? := none
  home? name :=
    (list.splitOn "\n").findSome? fun line =>
      match line.splitOn ":" with
      | [account, _, _, _, _, home, _] => if account == name then some home else none
      | _ => none

/-- The home directories of accounts. -/
def readAccounts : IO Accounts := do
  let place := (← IO.currentDir) / accountsPath
  if ← place.pathExists then return accountsOf (← IO.FS.readFile place)
  else return .nobody

/-- The words of a command line that may be paths, and the settings file. -/
def candidates (host : Host) (words : List String) : List String :=
  match readOpening words with
  | .error _ => []
  | .ok opening =>
      let settings :=
        match settingsPath host (opening.configPath.map Path.ofText) host.assigned with
        | .ok path => [path.text]
        | .error _ => []
      let asked :=
        match readRequest opening.command opening.rest with
        | .ok (.check paths _ _) => paths
        | .ok (.score path _) => [path]
        | _ => []
      settings ++ asked

/-- Run a command line. -/
def runWords (words : List String) : IO UInt32 := do
  let around : Host := ⟨⟨[]⟩, ← readEnvironment, ← readAccounts⟩
  let host := { around with tree := ← readTree (candidates around words) }
  let outcome := run .builtIn host words
  IO.print outcome.output
  if let some remark := outcome.remark then
    IO.eprintln (if outcome.isSafeMode then "Safe Mode Active: " ++ remark else remark)
  return UInt32.ofNat outcome.exitCode

end TypeGauge.Program

/-- The program. -/
def main (words : List String) : IO UInt32 :=
  TypeGauge.Program.runWords words
