import TypeGauge.Check.Pass
import TypeGauge.Dump.Load

/-!
# Scans

A scan checks dumps one after the other.  Directories stand for the dumps beneath
them.  Every dump is checked on its own; all that a check hands on to the next one is
the supply of identities.  A dump that cannot be loaded or followed contributes one
diagnostic about itself.
-/

namespace TypeGauge.Dump

open TypeGauge.Check TypeGauge.Files TypeGauge.Setup TypeGauge.Score TypeGauge.Text

variable {α : Type}

/-- The outcome of a pass over the dump at a path, with the supply that it leaves. -/
def passOver (arithmetic : Arithmetic α) (settings : Settings α) (tree : Tree) (supply : Nat)
    (path : Path) : Except (Setback DumpRefusal) (List (Diagnostic α) × PassState α) := do
  let loaded ← loadProgram tree path
  match analyze arithmetic settings loaded.source loaded.program supply with
  | (.ok diagnostics, state) => return (diagnostics, state)
  | (.error .tooDeep, _) => refuseDump .tooDeepToAnalyze
  | (.error cause, _) => .error (.interrupted (.fault cause))

/-- The diagnostic about a dump that is refused. -/
def refusalDiagnostic (path : Path) (refusal : DumpRefusal) : Diagnostic α :=
  let place := refusal.place?.getD ⟨1, 0⟩
  { type := .parseError
    file := path
    line := Int.ofNat place.line
    column := Int.ofNat place.column
    message := "AST dump could not be analyzed: " ++ refusal.message path
    severity := .warning
    score := none
    name := .null }

/-- The diagnostics of the dump at a path, with the supply that is left. -/
def checkFileFrom (arithmetic : Arithmetic α) (settings : Settings α) (tree : Tree)
    (supply : Nat) (path : Path) : Except Interruption (List (Diagnostic α) × Nat) :=
  match passOver arithmetic settings tree supply path with
  | .ok (diagnostics, state) => .ok (diagnostics, state.supply)
  | .error (.refused refusal) => .ok ([refusalDiagnostic path refusal], supply)
  | .error (.interrupted interruption) => .error interruption

/-- The diagnostics of the dump at a path. -/
def checkFile (arithmetic : Arithmetic α) (settings : Settings α) (tree : Tree) (path : Path) :
    Except Interruption (List (Diagnostic α)) :=
  (checkFileFrom arithmetic settings tree 1 path).map Prod.fst

/-- The scored declarations of the dump at a path. -/
def scoreFile (arithmetic : Arithmetic α) (settings : Settings α) (tree : Tree) (path : Path) :
    Except (Setback DumpRefusal) (List (ScoredDeclaration α)) :=
  (passOver arithmetic settings tree 1 path).map fun outcome => outcome.2.scored

/-- What the names of dumps end in. -/
def dumpEnding : String :=
  ".json"

/-- The dumps that a path stands for: those beneath a directory, in order, or the path itself. -/
def dumpsAt (tree : Tree) (path : Path) : Except Interruption (List Path) :=
  match tree.isDirectory path with
  | .error cause => .error (.inaccessible cause path)
  | .ok true => .ok ((tree.filesBeneath path dumpEnding).map path.beneath)
  | .ok false => .ok [path]

/-- The dumps that paths stand for, in order. -/
def dumpFiles (tree : Tree) : List Path → Except Interruption (List Path)
  | [] => .ok []
  | path :: rest => do
      let found ← dumpsAt tree path
      let others ← dumpFiles tree rest
      return found ++ others

/-- The diagnostics of dumps that are checked one after the other. -/
def checkFiles (arithmetic : Arithmetic α) (settings : Settings α) (tree : Tree) :
    (supply : Nat) → List Path → Except Interruption (List (Diagnostic α))
  | _, [] => .ok []
  | supply, path :: rest => do
      let (found, next) ← checkFileFrom arithmetic settings tree supply path
      let others ← checkFiles arithmetic settings tree next rest
      return found ++ others

/-- The diagnostics of a scan and the number of dumps. -/
structure ScanReport (α : Type) where
  diagnostics : List (Diagnostic α)
  fileCount : Nat
deriving Inhabited

/-- Scan paths. -/
def scan (arithmetic : Arithmetic α) (settings : Settings α) (tree : Tree) (paths : List Path) :
    Except Interruption (ScanReport α) := do
  let files ← dumpFiles tree paths
  let diagnostics ← checkFiles arithmetic settings tree 1 files
  return ⟨diagnostics, files.length⟩

end TypeGauge.Dump
