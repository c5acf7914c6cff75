import TypeGauge.Command.Line
import TypeGauge.Data.Json.Writer
import TypeGauge.Report.Listing
import TypeGauge.Report.Plain

/-!
# Running commands

A run reads its command line up to the command, loads its configuration, reads the
rest of the command line and does what it asks for.  Its outcome is an exit code, what
it prints, and whether it had to do without a settings file that it found.  A command
line that cannot be read ends it with code two, an interruption with code one.
-/

namespace TypeGauge.Command

open TypeGauge.Check TypeGauge.Data TypeGauge.Dump TypeGauge.Files TypeGauge.Setup
open TypeGauge.Report TypeGauge.Score

/-- How a run ends. -/
structure Outcome where
  exitCode : Nat
  output : String
  /-- Whether settings were rejected and the standard ones were used instead. -/
  isSafeMode : Bool
  /-- What is said besides the output. -/
  remark : Option String
  /-- What ended the run before its time. -/
  interruption : Option Interruption
deriving Inhabited

/-- What a command prints, and its exit code. -/
structure Answer where
  exitCode : Nat
  output : String
deriving Inhabited

/-- Lines, each with its end. -/
def printed (lines : List String) : String :=
  String.join (lines.map fun line => line ++ "\n")

/-- The version of the program. -/
def versionText : String :=
  "0.3.0"

/-- The paths among several that lead nowhere. -/
def missingPaths (tree : Tree) : List Path → Except Interruption (List Path)
  | [] => .ok []
  | path :: rest =>
      match tree.doesExist path with
      | .error cause => .error (.inaccessible cause path)
      | .ok isThere => (missingPaths tree rest).map fun others =>
          if isThere then others else path :: others

/-- The diagnostics of a scan in the form that is asked for. -/
def scanOutput (form : OutputForm) (report : ScanReport Float) : Except Fault String :=
  match form with
  | .json =>
      .ok (Json.write .indented (.list (report.diagnostics.map Diagnostic.toValue)) ++ "\n")
  | .text =>
      .ok (if report.diagnostics.isEmpty then ""
        else plainText (Diagnostic.textAll report.diagnostics) ++ "\n")
  | .table => (scanLines report).map printed

/-- A fault ends the run. -/
def interrupting {α : Type} (result : Except Fault α) : Except Interruption α :=
  result.mapError .fault

/-- Check dumps. -/
def answerCheck (tree : Tree) (settings : Settings Float) (paths : List Path) (form : OutputForm) :
    Except Interruption Answer := do
  match ← missingPaths tree paths with
  | [] =>
      let report ← scan doubles settings tree paths
      let output ← interrupting (scanOutput form report)
      return ⟨if report.diagnostics.isEmpty then 0 else 1, output⟩
  | missing =>
      let lines := missing.flatMap fun path =>
        consoleLines ("No such file or directory: " ++ guarded path.text)
      return ⟨2, printed lines⟩

/-- List the scores of a dump. -/
def answerScore (tree : Tree) (settings : Settings Float) (path : Path) :
    Except Interruption Answer :=
  match scoreFile doubles settings tree path with
  | .ok declarations => do
      let lines ← interrupting (declarationLines path declarations)
      return ⟨0, printed lines⟩
  | .error (.refused refusal) =>
      let text := "Failed to load AST: " ++ guarded (refusal.notice path).text
      .ok ⟨1, printed (consoleLines text)⟩
  | .error (.interrupted interruption) => .error interruption

/-- Do what is asked for. -/
def answer (tree : Tree) (configuration : Configuration) : Request → Except Interruption Answer
  | .check paths form replacement =>
      answerCheck tree (replacement.apply configuration.settings) (paths.map Path.ofText) form
  | .score path replacement =>
      answerScore tree (replacement.apply configuration.settings) (Path.ofText path)
  | .config => .ok ⟨0, printed (configurationLines configuration)⟩
  | .version => .ok ⟨0, printed [versionText]⟩

/-- The outcome of a command line that cannot be read. -/
def Outcome.ofUsage (isSafeMode : Bool) (fault : UsageFault) : Outcome :=
  ⟨2, "", isSafeMode, some fault.message, none⟩

/-- The outcome of a run that is interrupted. -/
def Outcome.ofInterruption (isSafeMode : Bool) (interruption : Interruption) : Outcome :=
  ⟨1, "", isSafeMode, some interruption.message, some interruption⟩

/-- Go on with a run whose configuration is loaded. -/
def runConfigured (tree : Tree) (configuration : Configuration) (opening : Opening) : Outcome :=
  let isSafeMode := configuration.rejection.isSome
  match readRequest opening.command opening.rest with
  | .error fault => .ofUsage isSafeMode fault
  | .ok request =>
      match answer tree configuration request with
      | .error interruption => .ofInterruption isSafeMode interruption
      | .ok found =>
          ⟨found.exitCode, found.output, isSafeMode, configuration.rejection.map Rejection.message,
            none⟩

/-- Run a command line. -/
def run (library : Library) (host : Host) (words : List String) : Outcome :=
  match readOpening words with
  | .error fault => .ofUsage false fault
  | .ok opening =>
      match loadConfiguration library host (opening.configPath.map Path.ofText) .empty with
      | .error interruption => .ofInterruption false interruption
      | .ok configuration => runConfigured host.tree configuration opening

end TypeGauge.Command
