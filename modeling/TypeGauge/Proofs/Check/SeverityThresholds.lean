import TypeGauge.Proofs.Check.BaseThreshold

/-!
# What the thresholds for warnings and errors decide

The thresholds for warnings and errors decide how grave a report is and nothing else,
save that in performance mode the latter also caps sums.  Under policies that differ in
them alone, and not in the cap, a pass stops at the same fault or makes the same reports
in the same order, graded anew.
-/

namespace TypeGauge.Check

open TypeGauge.Data TypeGauge.Files TypeGauge.Setup TypeGauge.Score TypeGauge.Syntax

variable {α : Type}

/-- A diagnostic that is graded anew, under the given policy, and is otherwise the same. -/
def Diagnostic.regraded (arithmetic : Arithmetic α) (policy : Policy α)
    (diagnostic : Diagnostic α) : Diagnostic α :=
  { diagnostic with
    severity := (diagnostic.score.map (Severity.ofScore arithmetic policy)).getD
      diagnostic.severity }

theorem Diagnostic.sort_regraded (arithmetic : Arithmetic α) (policy : Policy α)
    (diagnostics : List (Diagnostic α)) :
    sort (diagnostics.map (regraded arithmetic policy)) =
      (sort diagnostics).map (regraded arithmetic policy) := by
  symm
  apply List.map_mergeSort
  intro first _ second _
  rfl

/-- A finding whose report is graded anew. -/
def Finding.regraded (arithmetic : Arithmetic α) (policy : Policy α) (found : Finding α) :
    Finding α :=
  { found with report := found.report.map (Diagnostic.regraded arithmetic policy) }

/-- A policy with other thresholds for warnings and errors. -/
def withGrades (policy : Policy α) (warn error : α) : Policy α :=
  { policy with warnThreshold := warn, errorThreshold := error }

/-- Two policies that differ at most in how grave they take a report to be. -/
structure DecidesAlike (policy other : Policy α) : Prop where
  scores : ScoresAlike policy other
  base : other.baseThreshold = policy.baseThreshold
  depth : other.entryDepth = policy.entryDepth

namespace Pass

variable {pass : Pass α} {policy : Policy α}

/-- The report on a decision is the same under any policy, save how grave it is. -/
theorem diagnosticOf_under (pass : Pass α) (policy : Policy α) (decision : Decision α)
    (source : Option Syntax.Position) :
    (pass.under policy).diagnosticOf decision source =
      (pass.diagnosticOf decision source).map
        (Option.map (Diagnostic.regraded pass.arithmetic policy)) := by
  cases decision with
  | noReport => rfl
  | complexInterface name score => rfl
  | missingCheck score =>
      simp only [diagnosticOf, under_arithmetic]
      cases pass.arithmetic.show? score with
      | none => rfl
      | some shown => rfl

theorem scoredFinding_under (alike : DecidesAlike pass.policy policy)
    (exposed : Option (NameKey × Value)) (kind : DeclarationKind) (name part node : Value)
    (decide : α → Decision α) :
    (pass.under policy).scoredFinding exposed kind name part node decide =
      (pass.scoredFinding exposed kind name part node decide).map
        (Finding.regraded pass.arithmetic policy) := by
  rw [scoredFinding, scoredFinding, pass.scoreOf_under alike.scores alike.depth]
  cases pass.scoreOf part with
  | error fault => rfl
  | ok score =>
      cases positionOf node with
      | error fault => rfl
      | ok source =>
          simp only [bind, Except.bind, diagnosticOf_under]
          cases pass.diagnosticOf (decide score) source with
          | error fault => rfl
          | ok report => rfl

theorem aliasFinding_under (alike : DecidesAlike pass.policy policy) (node : Value) :
    (pass.under policy).aliasFinding node =
      (pass.aliasFinding node).map (Finding.regraded pass.arithmetic policy) := by
  rw [aliasFinding, aliasFinding, under_staticMarker]
  cases reexposed (node.field "typeAnnotation") (some pass.settings.staticMarker) with
  | error fault => rfl
  | ok target =>
      simp only [bind, Except.bind]
      cases exposedName target with
      | error fault => rfl
      | ok exposed =>
          simp only []
          split
          · rw [← scoredFinding_under alike]
            congr 1
            funext score
            simp only [Decision.ofAlias, under_arithmetic, under_policy, alike.base]
          · rfl

theorem interfaceFinding_under (alike : DecidesAlike pass.policy policy) (node : Value) :
    (pass.under policy).interfaceFinding node =
      (pass.interfaceFinding node).map (Finding.regraded pass.arithmetic policy) := by
  rw [interfaceFinding, interfaceFinding, ← scoredFinding_under alike]
  congr 1
  funext score
  simp only [Decision.ofInterface, under_arithmetic, under_policy, alike.scores.penalty]

theorem declaratorFinding_under (alike : DecidesAlike pass.policy policy) (node : Value) :
    (pass.under policy).declaratorFinding node =
      (pass.declaratorFinding node).map (Finding.regraded pass.arithmetic policy) := by
  have unchecked : ∀ initial, (pass.under policy).uncheckedFinding node initial =
      (pass.uncheckedFinding node initial).map (Finding.regraded pass.arithmetic policy) := by
    intro initial
    simp only [uncheckedFinding, under_arithmetic, under_policy, Decision.ofValidator, alike.base]
    cases declaredName node with
    | error fault => rfl
    | ok name =>
        cases validatorScore pass.arithmetic initial with
        | error fault => rfl
        | ok score =>
            cases positionOf node with
            | error fault => rfl
            | ok source => rfl
  rw [declaratorFinding, declaratorFinding, under_validatorNamespace]
  split
  · cases hasExplicitCheck node with
    | error fault => rfl
    | ok isChecked =>
        cases isChecked with
        | true => rfl
        | false => exact unchecked _
  · rfl

/-- What a node contributes is the same under policies that decide alike, save the grades. -/
theorem finding_under (alike : DecidesAlike pass.policy policy) (node : Value) :
    (pass.under policy).finding node =
      (pass.finding node).map (Finding.regraded pass.arithmetic policy) := by
  simp only [finding]
  split
  · exact aliasFinding_under alike node
  · split
    · exact interfaceFinding_under alike node
    · split
      · exact declaratorFinding_under alike node
      · rfl

theorem mapM_finding_under (alike : DecidesAlike pass.policy policy) (nodes : List Value) :
    nodes.mapM (pass.under policy).finding =
      (nodes.mapM pass.finding).map (List.map (Finding.regraded pass.arithmetic policy)) := by
  rw [← mapM_map_answers]
  congr 1
  funext node
  exact finding_under alike node

theorem survey_under (alike : DecidesAlike pass.policy policy) (program : Value) :
    (pass.under policy).survey program =
      (pass.survey program).map (List.map (Finding.regraded pass.arithmetic policy)) := by
  simp only [survey, mapM_finding_under alike]
  cases requireObject program with
  | error fault => rfl
  | ok _ =>
      simp only [bind, Except.bind]
      cases (tour program).visited.mapM pass.finding with
      | error fault => rfl
      | ok findings =>
          cases (tour program).isComplete with
          | true => rfl
          | false => rfl

theorem lateReports_under (pass : Pass α) (policy : Policy α) (findings : List (Finding α)) :
    (pass.under policy).lateReports
        (findings.map (Finding.regraded pass.arithmetic policy)) =
      (pass.lateReports findings).map
        (List.map (Diagnostic.regraded pass.arithmetic policy)) := by
  have register : registerOf (findings.map (Finding.regraded pass.arithmetic policy)) =
      registerOf findings :=
    List.foldl_map
  have putOff : (findings.map (Finding.regraded pass.arithmetic policy)).filterMap
      Finding.putOff = findings.filterMap Finding.putOff :=
    List.filterMap_map
  rw [lateReports, lateReports, register, putOff]
  cases unexempted (registerOf findings).close (findings.filterMap Finding.putOff) with
  | error fault => rfl
  | ok kept =>
      simp only [bind, Except.bind, diagnosticOf_under, mapM_map_answers]
      cases kept.mapM fun deferred =>
        pass.diagnosticOf (.missingCheck deferred.score) deferred.source with
      | error fault => rfl
      | ok reports => simp [Except.map, pure, Except.pure, List.reduceOption_map]

theorem conclude_under (pass : Pass α) (policy : Policy α) (findings : List (Finding α)) :
    (pass.under policy).conclude (findings.map (Finding.regraded pass.arithmetic policy)) =
      (pass.conclude findings).map (List.map (Diagnostic.regraded pass.arithmetic policy)) := by
  have reports : (findings.map (Finding.regraded pass.arithmetic policy)).filterMap
      Finding.report = (findings.filterMap Finding.report).map
        (Diagnostic.regraded pass.arithmetic policy) := by
    rw [List.filterMap_map, List.map_filterMap]
    rfl
  rw [conclude, conclude, lateReports_under, reports]
  cases pass.lateReports findings with
  | error fault => rfl
  | ok late =>
      simp only [bind, Except.bind, Except.map, pure, Except.pure]
      rw [← List.map_append, Diagnostic.sort_regraded]

end Pass

/-- The result of a pass under a policy that decides alike. -/
theorem analyze_under
    {pass : Pass α} {policy : Policy α} (alike : DecidesAlike pass.policy policy)
    (program : Value) (supply otherSupply : Nat) :
    (analyze pass.arithmetic { pass.settings with policy := policy } pass.file program
        otherSupply).1 =
      (analyze pass.arithmetic pass.settings pass.file program supply).1.map
        (List.map (Diagnostic.regraded pass.arithmetic policy)) := by
  refine (analyze_fst (pass.under policy) program otherSupply).trans ?_
  rw [analyze_fst pass, Pass.survey_under alike]
  cases pass.survey program with
  | error fault => rfl
  | ok findings => exact pass.conclude_under policy findings

/-- Passes under policies that decide alike score the same declarations alike. -/
theorem scored_under
    {pass : Pass α} {policy : Policy α} (alike : DecidesAlike pass.policy policy)
    {program : Value} {supply otherSupply : Nat} {diagnostics others : List (Diagnostic α)}
    {state otherState : PassState α}
    (ran : analyze pass.arithmetic pass.settings pass.file program supply =
      (.ok diagnostics, state))
    (otherRan : analyze pass.arithmetic { pass.settings with policy := policy } pass.file program
      otherSupply = (.ok others, otherState)) :
    otherState.scored = state.scored := by
  rcases exists_findings_of_analyze pass ran with ⟨findings, _, _, read, _, _, scored⟩
  rcases exists_findings_of_analyze (pass.under policy) otherRan with
    ⟨otherFindings, _, _, otherRead, _, _, otherScored⟩
  rw [Pass.mapM_finding_under alike, read] at otherRead
  rw [otherScored, scored, ← Except.ok.inj otherRead, List.filterMap_map]
  rfl

/--
Other thresholds for warnings and errors change how grave a report is and nothing else:
the pass stops at the same fault, or it scores every declaration the same and returns
the same diagnostics, graded anew.  In performance mode the threshold for errors has to
stay, because it caps sums.
-/
theorem severity_thresholds_only_grade
    (arithmetic : Arithmetic α) (settings : Settings α) (file : Path) (program : Value)
    (supply otherSupply : Nat) (warn error : α)
    (capKept : settings.policy.performanceMode = true → error = settings.policy.errorThreshold) :
    (∃ fault,
      (analyze arithmetic settings file program supply).1 = .error fault ∧
        (analyze arithmetic { settings with policy := withGrades settings.policy warn error } file
          program otherSupply).1 = .error fault) ∨
    ∃ diagnostics state otherState,
      analyze arithmetic settings file program supply = (.ok diagnostics, state) ∧
        analyze arithmetic { settings with policy := withGrades settings.policy warn error } file
          program otherSupply =
            (.ok (diagnostics.map (Diagnostic.regraded arithmetic
              (withGrades settings.policy warn error))), otherState) ∧
        otherState.scored = state.scored := by
  let pass : Pass α := ⟨arithmetic, settings, file⟩
  have alike : DecidesAlike pass.policy (withGrades settings.policy warn error) :=
    ⟨⟨rfl, rfl, capKept⟩, rfl, rfl⟩
  have results := analyze_under alike program supply otherSupply
  rcases ran : analyze arithmetic settings file program supply with ⟨result, state⟩
  rcases otherRan : analyze arithmetic
    { settings with policy := withGrades settings.policy warn error } file program otherSupply with
    ⟨otherResult, otherState⟩
  rw [ran, otherRan] at results
  cases result with
  | error fault => exact .inl ⟨fault, rfl, results⟩
  | ok diagnostics =>
      obtain rfl : otherResult = _ := results
      exact .inr ⟨diagnostics, state, otherState, rfl, rfl, scored_under alike ran otherRan⟩

/-- Standard settings, without performance mode. -/
def unhurried : Settings Float :=
  { Settings.standard doubles with
    policy := { Policy.standard doubles with performanceMode := false } }

/-- With warnings from five and errors from sixteen on, both reports are graver. -/
theorem twoUnions_are_regraded :
    unhurried.policy.performanceMode = false ∧
    ∃ small large,
      (analyze doubles unhurried ⟨.relative, []⟩ twoUnions 1).1 = .ok [small, large] ∧
        small.severity = .info ∧ large.severity = .warning ∧
        (analyze doubles
          { unhurried with
            policy := withGrades unhurried.policy (doubles.ofNat 5) (doubles.ofNat 16) }
          ⟨.relative, []⟩ twoUnions 1).1 =
            .ok [{ small with severity := .warning }, { large with severity := .error }] := by
  refine ⟨rfl, ?_⟩
  have made : ((⟨doubles, unhurried, ⟨.relative, []⟩⟩ : Pass Float).reportsOn
      twoUnions).toOption.any (fun reports =>
        decide (reports.Pairwise fun first second => first.notAfter second = true) &&
          (reports.map Diagnostic.severity == [.info, .warning] &&
            reports.map (fun report => (report.regraded doubles (withGrades unhurried.policy
              (doubles.ofNat 5) (doubles.ofNat 16))).severity) == [.warning, .error])) =
      true := by
    decide +kernel
  rcases exists_ok_of_any made with ⟨reports, made, checked⟩
  rw [Bool.and_eq_true, Bool.and_eq_true, decide_eq_true_iff, beq_iff_eq, beq_iff_eq] at checked
  rcases checked with ⟨ordered, before, after⟩
  have ran := analyze_of_reportsOn made ordered 1
  rcases severity_thresholds_only_grade doubles unhurried ⟨.relative, []⟩ twoUnions 1 1
    (doubles.ofNat 5) (doubles.ofNat 16) (fun capped => by cases capped) with
    ⟨fault, stopped, _⟩ | ⟨diagnostics, state, otherState, returned, otherReturned, _⟩
  · cases stopped.symm.trans ran
  · rw [returned] at ran
    cases ran
    rcases reports with _ | ⟨small, _ | ⟨large, _ | ⟨other, rest⟩⟩⟩
    all_goals simp only [List.map_cons, List.map_nil, List.cons.injEq, reduceCtorEq, and_false,
      and_true] at before
    simp only [List.map_cons, List.map_nil, List.cons.injEq, and_true] at after
    refine ⟨small, large, by rw [returned], before.1, before.2, ?_⟩
    rw [otherReturned, ← after.1, ← after.2]
    rfl

end TypeGauge.Check
