import TypeGauge.Dump.Scan
import TypeGauge.Proofs.Check.Completion

/-!
# What stops a scan

A scan is meant to survive bad dumps: a dump that is refused contributes one
diagnostic about itself, and the scan goes on.  `Refuses` says when that happens.  Two
sorts of dumps are not refused and stop the whole scan instead, and `Interrupts` says
which: those that hold a whole number of more digits than the reader takes, and those
that hold a program whose analysis meets a fault other than too deep a nesting.  Where
nothing is nested too deep and every score can be shown, the latter are exactly the programs
with a declaration that is misdeclared.

Identities handed out by one check do not matter to the next one, so a scan that is not
stopped reports on each dump what a check of that dump alone reports.
-/

namespace TypeGauge.Dump

open TypeGauge.Check TypeGauge.Data TypeGauge.Files TypeGauge.Setup TypeGauge.Score
open TypeGauge.Syntax TypeGauge.Text

variable {α : Type}

section Checks

variable (arithmetic : Arithmetic α) (settings : Settings α) (tree : Tree) (path : Path)

/-- The dump at a path is refused, and this is why. -/
inductive Refuses : DumpRefusal → Prop
  | unloadable {refusal : DumpRefusal}
      (loads : loadProgram tree path = .error (.refused refusal)) : Refuses refusal
  | unanalyzable {loaded : Loaded} (loads : loadProgram tree path = .ok loaded)
      (stopped : checkProgram arithmetic settings loaded.source loaded.program =
        .error .tooDeep) : Refuses .tooDeepToAnalyze

/-- The dump at a path stops a scan with this fault. -/
inductive Interrupts : Fault → Prop
  | longNumber {characters : List Char} {count : Nat}
      (decoded : readText tree path = .ok characters)
      (refused : Json.readDocument Nesting.documentRoom characters =
        .error (.tooManyDigits count)) : Interrupts (.tooManyDigits count)
  | stoppedAnalysis {loaded : Loaded} {fault : Fault}
      (loads : loadProgram tree path = .ok loaded)
      (stopped : checkProgram arithmetic settings loaded.source loaded.program = .error fault)
      (shallow : fault ≠ .tooDeep) : Interrupts fault

/-- The dump at a path is analysed to the end, with these diagnostics. -/
def Analyzes (diagnostics : List (Diagnostic α)) : Prop :=
  ∃ loaded, loadProgram tree path = .ok loaded ∧
    checkProgram arithmetic settings loaded.source loaded.program = .ok diagnostics

end Checks

/-! ## Existing files -/

/-- Existing files stand for themselves in a scan. -/
theorem dumpFiles_of_isFile {tree : Tree} {paths : List Path}
    (existing : ∀ path ∈ paths, tree.isFile path = .ok true) :
    dumpFiles tree paths = .ok paths := by
  induction paths with
  | nil => rfl
  | cons path rest hypothesis =>
      rw [List.forall_mem_cons] at existing
      rcases Tree.exists_octets existing.1 with ⟨usable, octets, found⟩
      have noDirectory : tree.isDirectory path = .ok false := by
        rw [Tree.isDirectory, Tree.ask, usable, found]
        rfl
      rw [dumpFiles, dumpsAt, noDirectory, hypothesis existing.2]
      rfl

/-- Loading an existing file is interrupted only by a number with too many digits. -/
theorem interrupted_of_loadProgram
    {tree : Tree} {path : Path} (isFile : tree.isFile path = .ok true)
    {interruption : Interruption}
    (stopped : loadProgram tree path = .error (.interrupted interruption)) :
    ∃ characters count,
      readText tree path = .ok characters ∧
        Json.readDocument Nesting.documentRoom characters = .error (.tooManyDigits count) ∧
        interruption = .fault (.tooManyDigits count) := by
  rcases Tree.exists_octets isFile with ⟨usable, octets, found⟩
  have readable := Tree.read_of_entry found
  rw [loadProgram] at stopped
  cases decoded : readText tree path with
  | error setback =>
      simp only [decoded, bind, Except.bind, Except.error.injEq] at stopped
      subst stopped
      simp only [readText, usable, readable, Bool.false_eq_true, if_false] at decoded
      split at decoded <;> cases decoded
  | ok characters =>
      simp only [decoded, bind, Except.bind] at stopped
      refine ⟨characters, ?_⟩
      cases document : readDocument characters with
      | error setback =>
          simp only [document, Except.error.injEq] at stopped
          subst stopped
          rw [readDocument] at document
          split at document
          · cases document
          · cases document
          · cases document
          · rename_i count refused
            cases document
            exact ⟨count, rfl, refused, rfl⟩
      | ok value =>
          simp only [document, programOf] at stopped
          split at stopped
          · split at stopped <;> cases stopped
          · cases stopped

/-! ## One dump -/

section Checks

variable {arithmetic : Arithmetic α} {settings : Settings α} {tree : Tree} {path : Path}

theorem checkFileFrom_of_refused (supply : Nat) {refusal : DumpRefusal}
    (loads : loadProgram tree path = .error (.refused refusal)) :
    (checkFileFrom arithmetic settings tree supply path).map Prod.fst =
      .ok [refusalDiagnostic path refusal] := by
  simp [checkFileFrom, passOver, loads, bind, Except.bind, Except.map]

theorem checkFileFrom_of_interrupted (supply : Nat) {interruption : Interruption}
    (loads : loadProgram tree path = .error (.interrupted interruption)) :
    (checkFileFrom arithmetic settings tree supply path).map Prod.fst = .error interruption := by
  simp [checkFileFrom, passOver, loads, bind, Except.bind, Except.map]

/-- What a check makes of the result of an analysis. -/
def concludeCheck (path : Path) (result : Except Fault (List (Diagnostic α))) :
    Except Interruption (List (Diagnostic α)) :=
  match result with
  | .ok diagnostics => .ok diagnostics
  | .error .tooDeep => .ok [refusalDiagnostic path .tooDeepToAnalyze]
  | .error fault => .error (.fault fault)

theorem checkFileFrom_of_loaded (supply : Nat) {loaded : Loaded}
    (loads : loadProgram tree path = .ok loaded) :
    (checkFileFrom arithmetic settings tree supply path).map Prod.fst =
      concludeCheck path (checkProgram arithmetic settings loaded.source loaded.program) := by
  -- The result of a pass is the same for every supply, and only the result matters here.
  have same : (analyze arithmetic settings loaded.source loaded.program supply).1 =
      checkProgram arithmetic settings loaded.source loaded.program := by
    have first := analyze_fst ⟨arithmetic, settings, loaded.source⟩ loaded.program supply
    have second := analyze_fst ⟨arithmetic, settings, loaded.source⟩ loaded.program 1
    exact first.trans second.symm
  rw [← same, checkFileFrom, passOver, loads]
  simp only [bind, Except.bind]
  rcases analyze arithmetic settings loaded.source loaded.program supply with ⟨result, state⟩
  cases result with
  | ok diagnostics => rfl
  | error fault => cases fault <;> rfl

theorem Refuses.checkFile_eq {refusal : DumpRefusal}
    (refused : Refuses arithmetic settings tree path refusal) :
    checkFile arithmetic settings tree path = .ok [refusalDiagnostic path refusal] := by
  cases refused with
  | unloadable loads => exact checkFileFrom_of_refused 1 loads
  | unanalyzable loads stopped =>
      rw [checkFile, checkFileFrom_of_loaded 1 loads, stopped]
      rfl

theorem Analyzes.checkFile_eq {diagnostics : List (Diagnostic α)}
    (analyzed : Analyzes arithmetic settings tree path diagnostics) :
    checkFile arithmetic settings tree path = .ok diagnostics := by
  rcases analyzed with ⟨loaded, loads, ended⟩
  rw [checkFile, checkFileFrom_of_loaded 1 loads, ended]
  rfl

theorem Interrupts.checkFile_eq {fault : Fault}
    (interrupts : Interrupts arithmetic settings tree path fault) :
    checkFile arithmetic settings tree path = .error (.fault fault) := by
  cases interrupts with
  | @longNumber characters count decoded refused =>
      have loads :
          loadProgram tree path = .error (.interrupted (.fault (.tooManyDigits count))) := by
        simp [loadProgram, decoded, readDocument, refused, bind, Except.bind]
      exact checkFileFrom_of_interrupted 1 loads
  | stoppedAnalysis loads stopped shallow =>
      rw [checkFile, checkFileFrom_of_loaded 1 loads, stopped, concludeCheck]
      exact shallow

/-- Every existing dump is refused, analysed to the end or stops the scan. -/
theorem check_cases (isFile : tree.isFile path = .ok true) :
    (∃ refusal, Refuses arithmetic settings tree path refusal) ∨
      (∃ diagnostics, Analyzes arithmetic settings tree path diagnostics) ∨
      ∃ fault, Interrupts arithmetic settings tree path fault := by
  cases loads : loadProgram tree path with
  | error setback =>
      cases setback with
      | refused refusal => exact .inl ⟨refusal, .unloadable loads⟩
      | interrupted interruption =>
          rcases interrupted_of_loadProgram isFile loads with
            ⟨characters, count, decoded, refused, _⟩
          exact .inr (.inr ⟨_, .longNumber decoded refused⟩)
  | ok loaded =>
      cases stopped : checkProgram arithmetic settings loaded.source loaded.program with
      | ok diagnostics => exact .inr (.inl ⟨diagnostics, loaded, loads, stopped⟩)
      | error fault =>
          by_cases deep : fault = .tooDeep
          · subst deep
            exact .inl ⟨_, .unanalyzable loads stopped⟩
          · exact .inr (.inr ⟨fault, .stoppedAnalysis loads stopped deep⟩)

/-- No analysis reports that a dump could not be analysed. -/
theorem Analyzes.type_ne {diagnostics : List (Diagnostic α)}
    (analyzed : Analyzes arithmetic settings tree path diagnostics)
    {diagnostic : Diagnostic α} (member : diagnostic ∈ diagnostics) :
    diagnostic.type ≠ .parseError := by
  rcases analyzed with ⟨loaded, _, ended⟩
  rw [checkProgram] at ended
  rcases ran : analyze arithmetic settings loaded.source loaded.program 1 with ⟨result, state⟩
  rw [ran] at ended
  obtain rfl : result = .ok diagnostics := ended
  rcases exists_findings_of_analyze ⟨arithmetic, settings, loaded.source⟩ ran with
    ⟨findings, late, _, read, lateMade, rfl, _⟩
  have contributed := (forall₂_of_mapM_eq_ok read).imp fun _ _ found =>
    Pass.contributes_of_finding found
  have reported : ∃ entry : ScoredDeclaration α,
      (⟨arithmetic, settings, loaded.source⟩ : Pass α).Reports entry diagnostic := by
    rw [Diagnostic.sort, List.mem_mergeSort, List.mem_append] at member
    rcases member with atOnce | putOff
    · rcases exists_related_of_mem (Pass.reports_declarations contributed) atOnce with
        ⟨declared, _, reports⟩
      exact ⟨declared.2, reports⟩
    · rcases exists_related_of_mem (Pass.reports_of_lateReports contributed lateMade) putOff with
        ⟨declared, _, reports⟩
      exact ⟨declared.2, reports⟩
  rcases reported with ⟨entry, reports⟩
  rw [reports.type]
  split
  · decide
  · decide

theorem interrupts_iff_of_loaded {loaded : Loaded} (loads : loadProgram tree path = .ok loaded)
    {fault : Fault} :
    Interrupts arithmetic settings tree path fault ↔
      checkProgram arithmetic settings loaded.source loaded.program = .error fault ∧
        fault ≠ .tooDeep := by
  constructor
  · intro interrupts
    cases interrupts with
    | longNumber decoded refused =>
        simp [loadProgram, decoded, readDocument, refused, bind, Except.bind] at loads
    | stoppedAnalysis otherLoads stopped shallow =>
        cases loads.symm.trans otherLoads
        exact ⟨stopped, shallow⟩
  · rintro ⟨stopped, shallow⟩
    exact .stoppedAnalysis loads stopped shallow

/-- A well-formed program stops a scan only through a score that cannot be shown. -/
theorem Interrupts.eq_unshowableScore
    (weighs : arithmetic.Weighs) (entered : 0 ≤ settings.policy.entryDepth)
    {loaded : Loaded} (loads : loadProgram tree path = .ok loaded)
    (wellFormed : WellFormed loaded.program)
    {fault : Fault} (interrupts : Interrupts arithmetic settings tree path fault) :
    fault = .unshowableScore := by
  rcases (interrupts_iff_of_loaded loads).mp interrupts with ⟨stopped, shallow⟩
  have stops := analyze_faults ⟨arithmetic, settings, loaded.source⟩ weighs entered wellFormed
    1 fault stopped
  cases stops with
  | tooDeep _ => exact absurd rfl shallow
  | unshowable _ _ => rfl

theorem isObject_of_loadProgram {loaded : Loaded} (loads : loadProgram tree path = .ok loaded) :
    loaded.program.isObject = true := by
  rcases bind_eq_ok_iff.mp loads with ⟨characters, _, loads⟩
  rcases bind_eq_ok_iff.mp loads with ⟨document, _, loads⟩
  rw [programOf] at loads
  split at loads
  · simp only at loads
    split at loads
    · rename_i isProgram
      cases loads
      exact isObject_of_isNodeOf isProgram
    · cases loads
  · cases loads

/--
A loaded program that is not nested too deep, and whose scores can be shown, interrupts a
scan exactly when a walk of it meets a declaration that is misdeclared.
-/
theorem exists_interrupts_iff
    (weighs : arithmetic.Weighs) (entered : 0 ≤ settings.policy.entryDepth)
    {loaded : Loaded} (loads : loadProgram tree path = .ok loaded)
    (shallow : loaded.program.nesting ≤ Nesting.typeRoom)
    (shown : ∀ score, (⟨arithmetic, settings, loaded.source⟩ : Pass α).Earns loaded.program score →
      arithmetic.show? score ≠ none) :
    (∃ fault, Interrupts arithmetic settings tree path fault) ↔
      ∃ node ∈ (tour loaded.program).visited, ∃ fault,
        (⟨arithmetic, settings, loaded.source⟩ : Pass α).Misdeclares node fault := by
  have isObject := isObject_of_loadProgram loads
  have halting := analyze_halts ⟨arithmetic, settings, loaded.source⟩ weighs entered isObject 1
  constructor
  · rintro ⟨fault, interrupts⟩
    have stopped := ((interrupts_iff_of_loaded loads).mp interrupts).1
    cases halting fault stopped with
    | misdeclares visited misdeclares => exact ⟨_, visited, fault, misdeclares⟩
    | stops stops =>
        cases stops with
        | tooDeep deep => omega
        | unshowable earned unshown => exact absurd unshown (shown _ earned)
  · rintro ⟨node, visited, fault, misdeclares⟩
    rcases misdeclares.exists_fault visited 1 with ⟨other, stopped⟩
    exact ⟨other, (interrupts_iff_of_loaded loads).mpr
      ⟨stopped, (halting other stopped).ne_tooDeep shallow⟩⟩

end Checks

/-! ## Several dumps -/

/-- The diagnostics of a check do not depend on the identities that it hands out. -/
theorem checkFileFrom_fst (arithmetic : Arithmetic α) (settings : Settings α) (tree : Tree)
    (supply : Nat) (path : Path) :
    (checkFileFrom arithmetic settings tree supply path).map Prod.fst =
      checkFile arithmetic settings tree path := by
  rw [checkFile]
  cases loads : loadProgram tree path with
  | ok loaded => rw [checkFileFrom_of_loaded supply loads, checkFileFrom_of_loaded 1 loads]
  | error setback =>
      cases setback with
      | refused refusal =>
          rw [checkFileFrom_of_refused supply loads, checkFileFrom_of_refused 1 loads]
      | interrupted interruption =>
          rw [checkFileFrom_of_interrupted supply loads, checkFileFrom_of_interrupted 1 loads]

/-- A scan reports on each dump what a check of the dump alone reports. -/
theorem checkFiles_eq (arithmetic : Arithmetic α) (settings : Settings α) (tree : Tree)
    (supply : Nat) (paths : List Path) :
    checkFiles arithmetic settings tree supply paths =
      (paths.mapM (checkFile arithmetic settings tree)).map List.flatten := by
  induction paths generalizing supply with
  | nil => rfl
  | cons path rest hypothesis =>
      rw [checkFiles, List.mapM_cons, ← checkFileFrom_fst arithmetic settings tree supply path]
      cases checkFileFrom arithmetic settings tree supply path with
      | error interruption => rfl
      | ok found =>
          rcases found with ⟨diagnostics, next⟩
          simp only [bind, Except.bind, Except.map, hypothesis next]
          cases rest.mapM (checkFile arithmetic settings tree) with
          | error interruption => rfl
          | ok others => rfl

theorem scan_eq {tree : Tree} {paths : List Path}
    (existing : ∀ path ∈ paths, tree.isFile path = .ok true)
    (arithmetic : Arithmetic α) (settings : Settings α) :
    scan arithmetic settings tree paths =
      (paths.mapM (checkFile arithmetic settings tree)).map fun each =>
        ⟨each.flatten, paths.length⟩ := by
  rw [scan, dumpFiles_of_isFile existing]
  simp only [bind, Except.bind, checkFiles_eq]
  cases paths.mapM (checkFile arithmetic settings tree) with
  | error interruption => rfl
  | ok each => rfl

/-- How the check of an existing dump ends. -/
structure CheckEnds (arithmetic : Arithmetic α) (settings : Settings α) (tree : Tree)
    (path : Path) : Prop where
  /-- A dump that is refused has one diagnostic about the dump itself. -/
  refused : ∀ refusal, Refuses arithmetic settings tree path refusal →
    ∃ diagnostic, checkFile arithmetic settings tree path = .ok [diagnostic] ∧
      diagnostic.type = .parseError ∧ diagnostic.file = path
  /-- A dump that is analysed to the end has no such diagnostic. -/
  analyzed : ∀ diagnostics, Analyzes arithmetic settings tree path diagnostics →
    checkFile arithmetic settings tree path = .ok diagnostics ∧
      ∀ diagnostic ∈ diagnostics, diagnostic.type ≠ .parseError
  interrupted : ∀ fault, Interrupts arithmetic settings tree path fault →
    checkFile arithmetic settings tree path = .error (.fault fault)
  cases : (∃ refusal, Refuses arithmetic settings tree path refusal) ∨
    (∃ diagnostics, Analyzes arithmetic settings tree path diagnostics) ∨
    ∃ fault, Interrupts arithmetic settings tree path fault

theorem checkEnds_of_isFile (arithmetic : Arithmetic α) (settings : Settings α)
    {tree : Tree} {path : Path} (isFile : tree.isFile path = .ok true) :
    CheckEnds arithmetic settings tree path := by
  constructor
  · intro refusal refused
    exact ⟨refusalDiagnostic path refusal, refused.checkFile_eq, rfl, rfl⟩
  · intro diagnostics analyzed
    exact ⟨analyzed.checkFile_eq, fun _ member => analyzed.type_ne member⟩
  · intro fault interrupts
    exact interrupts.checkFile_eq
  · exact check_cases isFile

/-- The check of an existing dump returns unless the dump interrupts it. -/
theorem exists_checkFile_iff {arithmetic : Arithmetic α} {settings : Settings α}
    {tree : Tree} {path : Path} (ends : CheckEnds arithmetic settings tree path) :
    (∃ diagnostics, checkFile arithmetic settings tree path = .ok diagnostics) ↔
      ∀ fault, ¬ Interrupts arithmetic settings tree path fault := by
  constructor
  · rintro ⟨diagnostics, checked⟩ fault interrupts
    rw [ends.interrupted fault interrupts] at checked
    cases checked
  · intro uninterrupted
    rcases ends.cases with ⟨refusal, refused⟩ | ⟨diagnostics, analyzed⟩ | ⟨fault, interrupts⟩
    · exact ⟨_, refused.checkFile_eq⟩
    · exact ⟨diagnostics, analyzed.checkFile_eq⟩
    · exact absurd interrupts (uninterrupted fault)

/--
Checks of existing files end as they should, except that some dumps interrupt them.  A
scan of existing files returns exactly when none of them interrupts it.  It then reports
on each of them, in order, what a check of that file alone reports, and counts them all.
With an entry depth from nought on, a well-formed program interrupts a scan only through
a score that cannot be shown.
-/
theorem scan_returns_unless_interrupted
    (arithmetic : Arithmetic α) (settings : Settings α) (tree : Tree) (paths : List Path)
    (existing : ∀ path ∈ paths, tree.isFile path = .ok true) :
    (∀ path ∈ paths, CheckEnds arithmetic settings tree path) ∧
      ((∃ report, scan arithmetic settings tree paths = .ok report) ↔
        ∀ path ∈ paths, ∀ fault, ¬ Interrupts arithmetic settings tree path fault) ∧
      (∀ report, scan arithmetic settings tree paths = .ok report →
        report.fileCount = paths.length ∧
          ∃ each, paths.mapM (checkFile arithmetic settings tree) = .ok each ∧
            report.diagnostics = each.flatten) ∧
      (arithmetic.Weighs → 0 ≤ settings.policy.entryDepth →
        ∀ path ∈ paths, ∀ loaded fault, loadProgram tree path = .ok loaded →
          WellFormed loaded.program → Interrupts arithmetic settings tree path fault →
            fault = .unshowableScore) := by
  have ends : ∀ path ∈ paths, CheckEnds arithmetic settings tree path := by
    intro path member
    exact checkEnds_of_isFile arithmetic settings (existing path member)
  refine ⟨ends, ?_, ?_, ?_⟩
  · rw [scan_eq existing]
    constructor
    · rintro ⟨report, returned⟩ path member
      rcases map_eq_ok_iff.mp returned with ⟨each, checked, _⟩
      rw [← exists_checkFile_iff (ends path member)]
      exact exists_answer_of_mem_items checked member
    · intro uninterrupted
      have faultless : FaultsOnly (fun _ => False)
          (paths.mapM (checkFile arithmetic settings tree)) := by
        apply FaultsOnly.mapM
        intro path member
        rcases (exists_checkFile_iff (ends path member)).mpr (uninterrupted path member) with
          ⟨diagnostics, checked⟩
        rw [checked]
        exact .ok diagnostics
      rcases faultless.exists_answer with ⟨each, checked⟩
      exact ⟨_, map_eq_ok_iff.mpr ⟨each, checked, rfl⟩⟩
  · intro report returned
    rw [scan_eq existing, map_eq_ok_iff] at returned
    rcases returned with ⟨each, checked, rfl⟩
    exact ⟨rfl, each, checked, rfl⟩
  · intro weighs entered path member loaded fault loads wellFormed interrupts
    exact interrupts.eq_unshowableScore weighs entered loads wellFormed

/-- A dump that holds no document, and one that holds an empty program. -/
def twoDumps : Tree :=
  ⟨[(⟨.relative, ["broken.json"]⟩, .file "[".toUTF8.toList),
    (⟨.relative, ["empty.json"]⟩, .file "\x7b\"type\":\"Program\"\x7d".toUTF8.toList)]⟩

/-- The dump that holds no document is reported on, and the scan goes on to the other one. -/
theorem twoDumps_are_scanned :
    ∃ report : ScanReport Float,
      scan doubles (.standard doubles) twoDumps
          [⟨.relative, ["broken.json"]⟩, ⟨.relative, ["empty.json"]⟩] = .ok report ∧
        report.fileCount = 2 ∧
        ∀ path ∈ ([⟨.relative, ["broken.json"]⟩, ⟨.relative, ["empty.json"]⟩] : List Path),
          ∀ fault, ¬ Interrupts doubles (.standard doubles) twoDumps path fault := by
  have existing :
      ∀ path ∈ ([⟨.relative, ["broken.json"]⟩, ⟨.relative, ["empty.json"]⟩] : List Path),
        twoDumps.isFile path = .ok true := by
    rw [List.forall_mem_cons, List.forall_mem_singleton]
    exact ⟨rfl, rfl⟩
  rcases scan_returns_unless_interrupted doubles (.standard doubles) twoDumps _ existing with
    ⟨_, returns, reports, _⟩
  have ended : (scan doubles (.standard doubles) twoDumps
      [⟨.relative, ["broken.json"]⟩, ⟨.relative, ["empty.json"]⟩]).toOption.any
        (fun _ => true) = true := by
    decide +kernel
  rcases exists_ok_of_any ended with ⟨report, scanned, _⟩
  exact ⟨report, scanned, (reports report scanned).1, returns.mp ⟨report, scanned⟩⟩

/-- A dump with an alias of a union whose types are a number. -/
def misplacedNumber : Tree :=
  ⟨[(⟨.relative, ["bad.json"]⟩,
    .file (("\x7b\"type\":\"Program\",\"body\":[\x7b\"type\":\"TSTypeAliasDeclaration\"," ++
      "\"typeAnnotation\":\x7b\"type\":\"TSUnionType\",\"types\":5\x7d\x7d]\x7d").toUTF8.toList))]⟩

/-- The scan of an existing dump, with the standard settings, stops at the misplaced number. -/
theorem misplacedNumber_stops_scan :
    misplacedNumber.isFile ⟨.relative, ["bad.json"]⟩ = .ok true ∧
      0 ≤ (Settings.standard doubles).policy.entryDepth ∧
      ∃ interruption,
        scan doubles (.standard doubles) misplacedNumber [⟨.relative, ["bad.json"]⟩] =
            .error interruption ∧
          interruption.message = "'int' object is not iterable" := by
  refine ⟨rfl, by decide, ?_⟩
  have stopped :
      (match scan doubles (.standard doubles) misplacedNumber [⟨.relative, ["bad.json"]⟩] with
      | .error interruption => interruption.message == "'int' object is not iterable"
      | .ok _ => false) = true := by
    decide +kernel
  split at stopped
  · rename_i interruption scanned
    exact ⟨interruption, scanned, beq_iff_eq.mp stopped⟩
  · cases stopped

end TypeGauge.Dump
