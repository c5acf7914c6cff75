import TypeGauge.Proofs.Dump.Resilience

/-!
# Checks do not influence one another

All that one check hands on to the next is the supply of identities.  Identities key the
cache of scores and mark the types that are being scored, so they decide what a pass
does at every step; yet a pass shows what its findings lead to, and the findings are made
from the program alone.  So it shows the same from every supply, in particular from the
one that earlier checks leave, whether these ended well or not.

Hence a scan is put together from checks of single files, and scanning two lists of paths
in one go is scanning them one after the other.
-/

namespace TypeGauge.Check

open TypeGauge.Data TypeGauge.Files TypeGauge.Score TypeGauge.Setup

variable {α : Type}

/-- What a pass shows: its diagnostics and the scored declarations, or its fault. -/
def shown (result : Except Fault (List (Diagnostic α)) × PassState α) :
    Except Fault (List (Diagnostic α) × List (ScoredDeclaration α)) :=
  result.1.map fun diagnostics => (diagnostics, result.2.scored)

/-- What a pass shows is made from its findings, and the supply has no part in them. -/
theorem shown_analyze (pass : Pass α) (program : Value) (supply : Nat) :
    shown (analyze pass.arithmetic pass.settings pass.file program supply) =
      (do
        let findings ← pass.survey program
        let diagnostics ← pass.conclude findings
        return (findings, diagnostics) : Except Fault _).map fun found =>
          (found.2, found.1.filterMap Finding.entry) := by
  have realized := analyze_realizes pass.arithmetic pass.settings pass.file program supply
  revert realized
  generalize analyze pass.arithmetic pass.settings pass.file program supply = result
  generalize (do
    let findings ← pass.survey program
    let diagnostics ← pass.conclude findings
    return (findings, diagnostics) : Except Fault _) = expected
  intro realized
  cases realized with
  | fault => rfl
  | answer holds =>
      rw [shown, holds.1, holds.2]
      rfl

theorem shown_analyze_eq
    (arithmetic : Arithmetic α) (settings : Settings α) (file : Path) (program : Value)
    (supply other : Nat) :
    shown (analyze arithmetic settings file program supply) =
      shown (analyze arithmetic settings file program other) :=
  (shown_analyze ⟨arithmetic, settings, file⟩ program supply).trans
    (shown_analyze ⟨arithmetic, settings, file⟩ program other).symm

/-- A program that is to be checked. -/
structure Submission (α : Type) where
  settings : Settings α
  file : Path
  program : Value

/-- The outcome of a pass that hands out identities from the given one on. -/
def Submission.outcomeFrom (arithmetic : Arithmetic α) (submission : Submission α) (supply : Nat) :
    Except Fault (List (Diagnostic α)) × PassState α :=
  analyze arithmetic submission.settings submission.file submission.program supply

/-- What submissions show in turn, each with the supply that the one before it leaves. -/
def shownInTurn (arithmetic : Arithmetic α) :
    (supply : Nat) → List (Submission α) →
      List (Except Fault (List (Diagnostic α) × List (ScoredDeclaration α)))
  | _, [] => []
  | supply, submission :: rest =>
      shown (submission.outcomeFrom arithmetic supply) ::
        shownInTurn arithmetic (submission.outcomeFrom arithmetic supply).2.supply rest

/-- Each of several submissions shows what it shows when it is the only one. -/
theorem shownInTurn_eq
    (arithmetic : Arithmetic α) (supply : Nat) (submissions : List (Submission α)) :
    shownInTurn arithmetic supply submissions =
      submissions.map fun submission => shown (submission.outcomeFrom arithmetic 1) := by
  induction submissions generalizing supply with
  | nil => rfl
  | cons submission rest hypothesis =>
      rw [shownInTurn, List.map_cons, hypothesis, Submission.outcomeFrom, Submission.outcomeFrom]
      rw [shown_analyze_eq arithmetic submission.settings submission.file submission.program
        supply 1]

end TypeGauge.Check

namespace TypeGauge.Dump

open TypeGauge.Check TypeGauge.Data TypeGauge.Files TypeGauge.Setup TypeGauge.Score

variable {α : Type}

theorem dumpFiles_eq (tree : Tree) (paths : List Path) :
    dumpFiles tree paths = (paths.mapM (dumpsAt tree)).map List.flatten := by
  induction paths with
  | nil => rfl
  | cons path rest hypothesis =>
      rw [dumpFiles, List.mapM_cons, hypothesis]
      cases dumpsAt tree path with
      | error interruption => rfl
      | ok found =>
          cases rest.mapM (dumpsAt tree) with
          | error interruption => rfl
          | ok others => rfl

/-- Two lists of paths stand for dumps exactly when their concatenation does. -/
theorem dumpFiles_append_eq_ok_iff {tree : Tree} {paths others : List Path} {files : List Path} :
    dumpFiles tree (paths ++ others) = .ok files ↔
      ∃ first second, dumpFiles tree paths = .ok first ∧ dumpFiles tree others = .ok second ∧
        files = first ++ second := by
  simp only [dumpFiles_eq, map_eq_ok_iff, mapM_append_eq_ok_iff]
  constructor
  · rintro ⟨_, ⟨first, second, found, otherFound, rfl⟩, rfl⟩
    exact ⟨_, _, ⟨first, found, rfl⟩, ⟨second, otherFound, rfl⟩, List.flatten_append⟩
  · rintro ⟨_, _, ⟨first, found, rfl⟩, ⟨second, otherFound, rfl⟩, rfl⟩
    exact ⟨_, ⟨first, second, found, otherFound, rfl⟩, List.flatten_append⟩

/-- A scan that hands out identities from the given one on. -/
def scanFrom (arithmetic : Arithmetic α) (settings : Settings α) (tree : Tree) (supply : Nat)
    (paths : List Path) : Except Interruption (ScanReport α) := do
  let files ← dumpFiles tree paths
  let diagnostics ← checkFiles arithmetic settings tree supply files
  return ⟨diagnostics, files.length⟩

section Scans

variable (arithmetic : Arithmetic α) (settings : Settings α) (tree : Tree)

/-- A scan is put together from checks of single files. -/
theorem scanFrom_eq (supply : Nat) (paths : List Path) :
    scanFrom arithmetic settings tree supply paths = do
      let files ← dumpFiles tree paths
      let each ← files.mapM (checkFile arithmetic settings tree)
      return ⟨each.flatten, files.length⟩ := by
  rw [scanFrom]
  apply bind_congr
  intro files
  rw [checkFiles_eq]
  cases files.mapM (checkFile arithmetic settings tree) with
  | error interruption => rfl
  | ok each => rfl

theorem scan_eq_ok_iff {paths : List Path} {report : ScanReport α} :
    scan arithmetic settings tree paths = .ok report ↔
      ∃ files each, dumpFiles tree paths = .ok files ∧
        files.mapM (checkFile arithmetic settings tree) = .ok each ∧
          report = ⟨each.flatten, files.length⟩ := by
  have started : scan arithmetic settings tree paths = scanFrom arithmetic settings tree 1 paths :=
    rfl
  rw [started, scanFrom_eq]
  simp only [bind_eq_ok_iff, pure, Except.pure, Except.ok.injEq]
  constructor
  · rintro ⟨files, found, each, checked, rfl⟩
    exact ⟨files, each, found, checked, rfl⟩
  · rintro ⟨files, each, found, checked, rfl⟩
    exact ⟨files, found, each, checked, rfl⟩

/-- A scan of two lists of paths returns exactly when scans of both return, with both reports. -/
theorem scan_append_eq_ok_iff (paths others : List Path) (report : ScanReport α) :
    scan arithmetic settings tree (paths ++ others) = .ok report ↔
      ∃ first second, scan arithmetic settings tree paths = .ok first ∧
        scan arithmetic settings tree others = .ok second ∧
          report = ⟨first.diagnostics ++ second.diagnostics,
            first.fileCount + second.fileCount⟩ := by
  simp only [scan_eq_ok_iff, dumpFiles_append_eq_ok_iff]
  constructor
  · rintro ⟨_, _, ⟨files, otherFiles, found, otherFound, rfl⟩, checked, rfl⟩
    rcases mapM_append_eq_ok_iff.mp checked with ⟨each, otherEach, first, second, rfl⟩
    refine ⟨_, _, ⟨files, each, found, first, rfl⟩,
      ⟨otherFiles, otherEach, otherFound, second, rfl⟩, ?_⟩
    rw [List.flatten_append, List.length_append]
  · rintro ⟨_, _, ⟨files, each, found, first, rfl⟩,
      ⟨otherFiles, otherEach, otherFound, second, rfl⟩, rfl⟩
    refine ⟨_, _, ⟨files, otherFiles, found, otherFound, rfl⟩,
      mapM_append_eq_ok_iff.mpr ⟨each, otherEach, first, second, rfl⟩, ?_⟩
    rw [List.flatten_append, List.length_append]

end Scans

/--
What a pass shows is the same from every supply of identities, and so it is whatever
programs were checked before it.  The check of a file reports the same from every supply
as well, a scan from every supply is put together from checks of single files, and a scan
of two lists of paths returns exactly when both scans return: it then reports what they
report, one after the other, and counts what they count.
-/
theorem checks_do_not_influence_one_another
    (arithmetic : Arithmetic α) (settings : Settings α) (tree : Tree) :
    (∀ (file : Path) (program : Value) (supply other : Nat),
        shown (analyze arithmetic settings file program supply) =
          shown (analyze arithmetic settings file program other)) ∧
      (∀ (supply : Nat) (submissions : List (Submission α)),
        shownInTurn arithmetic supply submissions =
          submissions.map fun submission => shown (submission.outcomeFrom arithmetic 1)) ∧
      (∀ (supply : Nat) (path : Path),
        (checkFileFrom arithmetic settings tree supply path).map Prod.fst =
          checkFile arithmetic settings tree path) ∧
      (∀ (supply : Nat) (paths : List Path),
        scanFrom arithmetic settings tree supply paths = scan arithmetic settings tree paths ∧
          scan arithmetic settings tree paths = do
            let files ← dumpFiles tree paths
            let each ← files.mapM (checkFile arithmetic settings tree)
            return ⟨each.flatten, files.length⟩) ∧
      ∀ (paths others : List Path) (report : ScanReport α),
        scan arithmetic settings tree (paths ++ others) = .ok report ↔
          ∃ first second, scan arithmetic settings tree paths = .ok first ∧
            scan arithmetic settings tree others = .ok second ∧
              report = ⟨first.diagnostics ++ second.diagnostics,
                first.fileCount + second.fileCount⟩ := by
  refine ⟨?_, ?_, ?_, ?_, ?_⟩
  · exact shown_analyze_eq arithmetic settings
  · exact shownInTurn_eq arithmetic
  · exact checkFileFrom_fst arithmetic settings tree
  · intro supply paths
    have alone := scanFrom_eq arithmetic settings tree 1 paths
    exact ⟨(scanFrom_eq arithmetic settings tree supply paths).trans alone.symm, alone⟩
  · exact scan_append_eq_ok_iff arithmetic settings tree

end TypeGauge.Dump
