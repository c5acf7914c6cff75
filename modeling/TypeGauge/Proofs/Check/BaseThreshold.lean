import TypeGauge.Proofs.Check.Specification
import TypeGauge.Proofs.Check.StableSort
import TypeGauge.Proofs.Number.DoubleOrder
import TypeGauge.Proofs.Score.Dependence

/-!
# What the base threshold decides

The base threshold decides which missing checks are reported and nothing else.  Raising
it leaves out the reports below the new one, from those that are made at once as from
those that were put off; the exemptions, the other reports and the order stay as they
are.

A pass is compared with the same pass under another policy, node by node: what a node
contributes under the higher threshold is what it contributes under the lower one, with
the reports below left out.  The filter then goes through the register, the reports that
were put off and the sorting in turn.
-/

namespace TypeGauge.Check

open TypeGauge.Data TypeGauge.Files TypeGauge.Setup TypeGauge.Score TypeGauge.Syntax

variable {α : Type}

/-! ## Another policy -/

/-- The same pass under another policy. -/
def Pass.under (pass : Pass α) (policy : Policy α) : Pass α :=
  { pass with settings := { pass.settings with policy := policy } }

namespace Pass

@[simp]
theorem under_arithmetic (pass : Pass α) (policy : Policy α) :
    (pass.under policy).arithmetic = pass.arithmetic :=
  rfl

@[simp]
theorem under_policy (pass : Pass α) (policy : Policy α) : (pass.under policy).policy = policy :=
  rfl

@[simp]
theorem under_staticMarker (pass : Pass α) (policy : Policy α) :
    (pass.under policy).settings.staticMarker = pass.settings.staticMarker :=
  rfl

@[simp]
theorem under_validatorNamespace (pass : Pass α) (policy : Policy α) :
    (pass.under policy).settings.validatorNamespace = pass.settings.validatorNamespace :=
  rfl

/-- A declaration has the same score under policies that score alike at the same depth. -/
theorem scoreOf_under
    (pass : Pass α) {policy : Policy α} (alike : ScoresAlike pass.policy policy)
    (sameDepth : policy.entryDepth = pass.policy.entryDepth) (node : Value) :
    (pass.under policy).scoreOf node = pass.scoreOf node := by
  rw [scoreOf, scoreOf, ← sameDepth]
  exact alike.freshScore_eq pass.arithmetic 0 node policy.entryDepth

end Pass

/-! ## A higher base threshold -/

/-- Whether a diagnostic stands at a base threshold: it is no missing check of a lower score. -/
def Diagnostic.standsAt (arithmetic : Arithmetic α) (threshold : α) (diagnostic : Diagnostic α) :
    Bool :=
  !(diagnostic.type == .missingCheck &&
    diagnostic.score.any fun score => arithmetic.less score threshold)

/-- Whether a report that was put off stands at a base threshold. -/
def DeferredReport.standsAt (arithmetic : Arithmetic α) (threshold : α)
    (report : DeferredReport α) : Bool :=
  !arithmetic.less report.score threshold

/-- A decision without the missing checks below a base threshold. -/
def Decision.raisedTo (arithmetic : Arithmetic α) (threshold : α) : Decision α → Decision α
  | .missingCheck score =>
      if arithmetic.less score threshold then .noReport else .missingCheck score
  | decision => decision

/-- A finding without the reports below a base threshold. -/
def Finding.raisedTo (arithmetic : Arithmetic α) (threshold : α) (found : Finding α) :
    Finding α :=
  { found with
    report := found.report.filter (Diagnostic.standsAt arithmetic threshold)
    putOff := found.putOff.filter (DeferredReport.standsAt arithmetic threshold) }

/-- A policy with another base threshold. -/
def withBase (policy : Policy α) (threshold : α) : Policy α :=
  { policy with baseThreshold := threshold }

/-- A threshold below which lies everything below the policy's base threshold. -/
def Raises (arithmetic : Arithmetic α) (policy : Policy α) (threshold : α) : Prop :=
  ∀ score, arithmetic.less score policy.baseThreshold = true →
    arithmetic.less score threshold = true

section Raised

variable {arithmetic : Arithmetic α} {policy : Policy α} {threshold : α}

theorem ofAlias_withBase (raises : Raises arithmetic policy threshold) (score : α)
    (isStaticOf : Bool) :
    Decision.ofAlias arithmetic (withBase policy threshold) score isStaticOf =
      (Decision.ofAlias arithmetic policy score isStaticOf).raisedTo arithmetic threshold := by
  cases isStaticOf with
  | true => rfl
  | false =>
      cases below : arithmetic.less score policy.baseThreshold with
      | true => simp [Decision.ofAlias, withBase, below, raises score below, Decision.raisedTo]
      | false => simp [Decision.ofAlias, withBase, below, Decision.raisedTo]

theorem ofValidator_withBase (raises : Raises arithmetic policy threshold) (score : α) :
    Decision.ofValidator arithmetic (withBase policy threshold) score =
      (Decision.ofValidator arithmetic policy score).raisedTo arithmetic threshold :=
  ofAlias_withBase raises score false

theorem ofInterface_withBase (name : Value) (score : α) :
    Decision.ofInterface arithmetic (withBase policy threshold) name score =
      (Decision.ofInterface arithmetic policy name score).raisedTo arithmetic threshold := by
  cases below : arithmetic.less score policy.interfacePenalty with
  | true => simp [Decision.ofInterface, withBase, below, Decision.raisedTo]
  | false => simp [Decision.ofInterface, withBase, below, Decision.raisedTo]

end Raised

namespace Pass

variable {pass : Pass α} {threshold : α}

theorem scoreOf_withBase (pass : Pass α) (threshold : α) (node : Value) :
    (pass.under (withBase pass.policy threshold)).scoreOf node = pass.scoreOf node := by
  have alike : ScoresAlike pass.policy (withBase pass.policy threshold) :=
    ⟨rfl, rfl, fun _ => rfl⟩
  exact pass.scoreOf_under alike rfl node

theorem diagnosticOf_withBase (pass : Pass α) (threshold : α) :
    (pass.under (withBase pass.policy threshold)).diagnosticOf = pass.diagnosticOf :=
  rfl

/-- The report on a decision with the missing checks left out, where the decision has one. -/
theorem diagnosticOf_raisedTo
    (threshold : α) {decision : Decision α} {source : Option Syntax.Position}
    {report : Option (Diagnostic α)} (made : pass.diagnosticOf decision source = .ok report) :
    pass.diagnosticOf (decision.raisedTo pass.arithmetic threshold) source =
      .ok (report.filter (Diagnostic.standsAt pass.arithmetic threshold)) := by
  cases decision with
  | noReport =>
      cases made
      rfl
  | complexInterface name score =>
      cases made
      rfl
  | missingCheck score =>
      rw [diagnosticOf] at made
      split at made
      · cases made
      · rename_i shown isShown
        cases made
        cases below : pass.arithmetic.less score threshold with
        | true =>
            simp [Decision.raisedTo, below, diagnosticOf, diagnostic, Diagnostic.standsAt,
              Option.filter]
        | false =>
            simp [Decision.raisedTo, below, diagnosticOf, isShown, diagnostic,
              Diagnostic.standsAt, Option.filter]

theorem scoredFinding_withBase
    {exposed : Option (NameKey × Value)} {kind : DeclarationKind} {name part node : Value}
    {decide : α → Decision α} {found : Finding α}
    (ran : pass.scoredFinding exposed kind name part node decide = .ok found) :
    (pass.under (withBase pass.policy threshold)).scoredFinding exposed kind name part node
        (fun score => (decide score).raisedTo pass.arithmetic threshold) =
      .ok (found.raisedTo pass.arithmetic threshold) := by
  rcases exists_parts_of_scoredFinding ran with
    ⟨score, source, report, scored, positioned, made, rfl⟩
  rw [scoredFinding, scoreOf_withBase, scored, positioned, diagnosticOf_withBase]
  simp only [bind, Except.bind, diagnosticOf_raisedTo threshold made]
  rfl

theorem aliasFinding_withBase (raises : Raises pass.arithmetic pass.policy threshold)
    {node : Value} {found : Finding α} (ran : pass.aliasFinding node = .ok found) :
    (pass.under (withBase pass.policy threshold)).aliasFinding node =
      .ok (found.raisedTo pass.arithmetic threshold) := by
  rw [aliasFinding, bind_eq_ok_iff] at ran
  rcases ran with ⟨target, exposes, ran⟩
  rw [bind_eq_ok_iff] at ran
  rcases ran with ⟨exposed, named, ran⟩
  rw [aliasFinding, under_staticMarker, exposes]
  simp only [bind, Except.bind, named]
  split at ran
  · rename_i isObject
    rw [if_pos isObject, ← scoredFinding_withBase ran]
    congr 1
    funext score
    exact ofAlias_withBase raises score _
  · rename_i isNoObject
    cases ran
    rw [if_neg isNoObject]
    rfl

theorem interfaceFinding_withBase {node : Value} {found : Finding α}
    (ran : pass.interfaceFinding node = .ok found) :
    (pass.under (withBase pass.policy threshold)).interfaceFinding node =
      .ok (found.raisedTo pass.arithmetic threshold) := by
  rw [← scoredFinding_withBase ran, interfaceFinding]
  congr 1
  funext score
  exact ofInterface_withBase _ score

theorem uncheckedFinding_withBase (raises : Raises pass.arithmetic pass.policy threshold)
    (node initial : Value) :
    (pass.under (withBase pass.policy threshold)).uncheckedFinding node initial =
      (pass.uncheckedFinding node initial).map (Finding.raisedTo pass.arithmetic threshold) := by
  have putOff : ∀ report : DeferredReport α,
      (if (Decision.ofValidator pass.arithmetic (withBase pass.policy threshold)
          report.score).isReport then some report else none) =
        (if (Decision.ofValidator pass.arithmetic pass.policy report.score).isReport then
          some report else none).filter (DeferredReport.standsAt pass.arithmetic threshold) := by
    intro report
    rw [ofValidator_withBase raises, Decision.ofValidator]
    cases pass.arithmetic.less report.score pass.policy.baseThreshold with
    | true => rfl
    | false =>
        cases below : pass.arithmetic.less report.score threshold <;>
          simp [Decision.raisedTo, Decision.isReport, below, Option.filter,
            DeferredReport.standsAt]
  rw [uncheckedFinding, uncheckedFinding, under_arithmetic]
  cases declaredName node with
  | error fault => rfl
  | ok name =>
      cases validatorScore pass.arithmetic initial with
      | error fault => rfl
      | ok score =>
          cases positionOf node with
          | error fault => rfl
          | ok source =>
              have kept := putOff ⟨name, score, source⟩
              exact congrArg (fun putOff : Option (DeferredReport α) => Except.ok
                (⟨none, some ⟨.validator, name, score, source⟩, none, putOff⟩ : Finding α)) kept

/-- A higher base threshold leaves out of what a node contributes the reports below it. -/
theorem finding_withBase (raises : Raises pass.arithmetic pass.policy threshold)
    {node : Value} {found : Finding α} (ran : pass.finding node = .ok found) :
    (pass.under (withBase pass.policy threshold)).finding node =
      .ok (found.raisedTo pass.arithmetic threshold) := by
  revert ran
  simp only [finding]
  split
  · exact aliasFinding_withBase raises
  · split
    · exact interfaceFinding_withBase
    · split
      · intro ran
        rw [declaratorFinding, under_validatorNamespace]
        rw [declaratorFinding] at ran
        split at ran
        · rename_i isCall
          rw [if_pos isCall]
          rw [bind_eq_ok_iff] at ran
          rcases ran with ⟨isChecked, asked, ran⟩
          simp only [asked, bind, Except.bind]
          cases isChecked with
          | true =>
              cases ran
              rfl
          | false =>
              simp only [Bool.false_eq_true, if_false] at ran ⊢
              rw [uncheckedFinding_withBase raises, ran]
              rfl
        · rename_i isNoCall
          cases ran
          rw [if_neg isNoCall]
          rfl
      · rintro ⟨⟩
        rfl

/-- Reports that are left out beforehand are left out of those on validators not exempt. -/
theorem unexempted_filter (keep : DeferredReport α → Bool) {register : Register}
    {reports kept : List (DeferredReport α)} (ran : unexempted register reports = .ok kept) :
    unexempted register (reports.filter keep) = .ok (kept.filter keep) := by
  induction reports generalizing kept with
  | nil =>
      cases ran
      rfl
  | cons report rest hypothesis =>
      rw [unexempted, bind_eq_ok_iff] at ran
      rcases ran with ⟨exempt, asked, ran⟩
      rw [bind_eq_ok_iff] at ran
      rcases ran with ⟨others, restRan, ended⟩
      cases ended
      have later := hypothesis restRan
      cases stands : keep report with
      | true =>
          rw [List.filter_cons_of_pos stands, unexempted, asked, later]
          cases exempt with
          | true => rfl
          | false => simp [bind, Except.bind, pure, Except.pure, stands]
      | false =>
          rw [List.filter_cons_of_neg (by simp [stands]), later]
          cases exempt with
          | true => rfl
          | false => simp [stands]

/-- The late reports on a list without those below a base threshold. -/
theorem mapM_diagnosticOf_filter (threshold : α) {kept : List (DeferredReport α)}
    {made : List (Option (Diagnostic α))}
    (ran : (kept.mapM fun deferred =>
      pass.diagnosticOf (.missingCheck deferred.score) deferred.source) = .ok made) :
    ∃ others,
      ((kept.filter (DeferredReport.standsAt pass.arithmetic threshold)).mapM fun deferred =>
        pass.diagnosticOf (.missingCheck deferred.score) deferred.source) = .ok others ∧
      others.reduceOption =
        made.reduceOption.filter (Diagnostic.standsAt pass.arithmetic threshold) := by
  induction kept generalizing made with
  | nil =>
      cases ran
      exact ⟨[], rfl, rfl⟩
  | cons deferred rest hypothesis =>
      rw [List.mapM_cons, bind_eq_ok_iff] at ran
      rcases ran with ⟨report, reported, ran⟩
      rw [bind_eq_ok_iff] at ran
      rcases ran with ⟨restMade, restRan, ended⟩
      cases ended
      rcases hypothesis restRan with ⟨others, othersRan, same⟩
      have filtered := diagnosticOf_raisedTo threshold reported
      have split : (report :: restMade).reduceOption.filter
          (Diagnostic.standsAt pass.arithmetic threshold) =
            (report.filter (Diagnostic.standsAt pass.arithmetic threshold)).toList ++
              others.reduceOption := by
        rw [same]
        cases report with
        | none => rfl
        | some diagnostic =>
            rw [List.reduceOption_cons_of_some, List.filter_cons, Option.filter]
            split <;> rfl
      cases below : pass.arithmetic.less deferred.score threshold with
      | true =>
          rw [Decision.raisedTo, if_pos below] at filtered
          rw [split, ← Except.ok.inj filtered,
            List.filter_cons_of_neg (by simp [DeferredReport.standsAt, below])]
          exact ⟨others, othersRan, rfl⟩
      | false =>
          rw [Decision.raisedTo, if_neg (by simp [below]), reported] at filtered
          rw [split, ← Except.ok.inj filtered,
            List.filter_cons_of_pos (by simp [DeferredReport.standsAt, below]), List.mapM_cons,
            reported, othersRan]
          refine ⟨report :: others, rfl, ?_⟩
          cases report <;> rfl

theorem lateReports_withBase
    (threshold : α) {findings : List (Finding α)} {late : List (Diagnostic α)}
    (ran : pass.lateReports findings = .ok late) :
    (pass.under (withBase pass.policy threshold)).lateReports
        (findings.map (Finding.raisedTo pass.arithmetic threshold)) =
      .ok (late.filter (Diagnostic.standsAt pass.arithmetic threshold)) := by
  rw [lateReports, bind_eq_ok_iff] at ran
  rcases ran with ⟨kept, unexempt, ran⟩
  rw [bind_eq_ok_iff] at ran
  rcases ran with ⟨made, reported, ended⟩
  cases ended
  have register : registerOf (findings.map (Finding.raisedTo pass.arithmetic threshold)) =
      registerOf findings :=
    List.foldl_map
  have putOff : (findings.map (Finding.raisedTo pass.arithmetic threshold)).filterMap
      Finding.putOff = (findings.filterMap Finding.putOff).filter
        (DeferredReport.standsAt pass.arithmetic threshold) := by
    rw [List.filterMap_map, List.filter_filterMap]
    rfl
  rcases mapM_diagnosticOf_filter threshold reported with ⟨others, ran, same⟩
  rw [lateReports, register, putOff, unexempted_filter _ unexempt, diagnosticOf_withBase]
  simp only [bind, Except.bind, ran, same]
  rfl

theorem conclude_withBase
    (threshold : α) {findings : List (Finding α)} {diagnostics : List (Diagnostic α)}
    (ran : pass.conclude findings = .ok diagnostics) :
    (pass.under (withBase pass.policy threshold)).conclude
        (findings.map (Finding.raisedTo pass.arithmetic threshold)) =
      .ok (diagnostics.filter (Diagnostic.standsAt pass.arithmetic threshold)) := by
  rw [conclude, bind_eq_ok_iff] at ran
  rcases ran with ⟨late, lateMade, ended⟩
  cases ended
  have reports : (findings.map (Finding.raisedTo pass.arithmetic threshold)).filterMap
      Finding.report = (findings.filterMap Finding.report).filter
        (Diagnostic.standsAt pass.arithmetic threshold) := by
    rw [List.filterMap_map, List.filter_filterMap]
    rfl
  rw [conclude, lateReports_withBase threshold lateMade, reports, ← Diagnostic.sort_filter,
    List.filter_append]
  rfl

theorem survey_withBase (raises : Raises pass.arithmetic pass.policy threshold)
    {program : Value} {findings : List (Finding α)} (ran : pass.survey program = .ok findings) :
    (pass.under (withBase pass.policy threshold)).survey program =
      .ok (findings.map (Finding.raisedTo pass.arithmetic threshold)) := by
  rw [survey_eq_ok_iff] at ran ⊢
  rcases ran with ⟨isObject, isComplete, read⟩
  refine ⟨isObject, isComplete, mapM_eq_ok_of_forall₂ ?_⟩
  rw [List.forall₂_map_right_iff]
  exact (forall₂_of_mapM_eq_ok read).imp fun _ _ found => finding_withBase raises found

end Pass

/--
Raising the base threshold leaves out the missing checks whose scores are below the new
threshold, and changes nothing else.
-/
theorem raising_the_base_threshold_only_filters
    (settings : Settings Float) (file : Path) (program : Value) (supply otherSupply : Nat)
    (raised : Float) (higher : settings.policy.baseThreshold ≤ raised)
    (diagnostics : List (Diagnostic Float))
    (ran : (analyze doubles settings file program supply).1 = .ok diagnostics) :
    (analyze doubles { settings with policy := { settings.policy with baseThreshold := raised } }
        file program otherSupply).1 =
      .ok (diagnostics.filter (Diagnostic.standsAt doubles raised)) := by
  have raises : Raises doubles settings.policy raised := by
    intro score below
    have less : score < settings.policy.baseThreshold := of_decide_eq_true below
    exact decide_eq_true (Number.Double.lt_of_lt_of_le less higher)
  let pass : Pass Float := ⟨doubles, settings, file⟩
  rw [analyze_fst pass program supply, bind_eq_ok_iff] at ran
  rcases ran with ⟨findings, surveyed, concluded⟩
  have surveyedRaised := pass.survey_withBase raises surveyed
  have concludedRaised := pass.conclude_withBase raised concluded
  refine (analyze_fst (pass.under (withBase settings.policy raised)) program otherSupply).trans ?_
  exact bind_eq_ok_iff.mpr ⟨_, surveyedRaised, concludedRaised⟩

/-- The reports on a program, those that were put off last, before they are sorted. -/
def Pass.reportsOn (pass : Pass α) (program : Value) : Except Fault (List (Diagnostic α)) := do
  let findings ← pass.survey program
  let late ← pass.lateReports findings
  return findings.filterMap Finding.report ++ late

/-- Reports that are made in the order of their places are returned as they are. -/
theorem analyze_of_reportsOn
    {pass : Pass α} {program : Value} {reports : List (Diagnostic α)}
    (made : pass.reportsOn program = .ok reports)
    (ordered : reports.Pairwise fun first second => first.notAfter second = true)
    (supply : Nat) :
    (analyze pass.arithmetic pass.settings pass.file program supply).1 = .ok reports := by
  rw [Pass.reportsOn, bind_eq_ok_iff] at made
  rcases made with ⟨findings, surveyed, made⟩
  rw [bind_eq_ok_iff] at made
  rcases made with ⟨late, lateMade, ended⟩
  cases ended
  rw [analyze_fst, surveyed]
  simp only [bind, Except.bind, Pass.conclude, lateMade, Diagnostic.sort,
    List.mergeSort_of_pairwise ordered]
  rfl

/-- A declared validator that combines so many others. -/
def unionNode (name : String) (count : Nat) : Value :=
  .object
    [("type", .text "VariableDeclarator"), ("id", identifierNode name),
      ("init", .object
        [("type", .text "CallExpression"),
          ("callee", .object
            [("type", .text "MemberExpression"), ("object", identifierNode "Ianitor"),
              ("property", identifierNode "union")]),
          ("arguments", .list (List.replicate count .null))])]

/-- Two validators, with the scores twelve and eighteen. -/
def twoUnions : Value :=
  .object [("type", .text "Program"), ("body", .list [unionNode "small" 6, unionNode "large" 9])]

/-- At a base threshold of ten both validators are reported, and at fifteen only the second. -/
theorem twoUnions_are_filtered :
    ∃ small large,
      (analyze doubles (.standard doubles) ⟨.relative, []⟩ twoUnions 1).1 = .ok [small, large] ∧
        (analyze doubles
          { Settings.standard doubles with
            policy := { Policy.standard doubles with baseThreshold := doubles.ofNat 15 } }
          ⟨.relative, []⟩ twoUnions 1).1 = .ok [large] := by
  have made : ((⟨doubles, .standard doubles, ⟨.relative, []⟩⟩ : Pass Float).reportsOn
      twoUnions).toOption.any (fun reports =>
        decide (reports.Pairwise fun first second => first.notAfter second = true) &&
          reports.map (Diagnostic.standsAt doubles (doubles.ofNat 15)) == [false, true]) =
      true := by
    decide +kernel
  rcases exists_ok_of_any made with ⟨reports, made, checked⟩
  rw [Bool.and_eq_true, decide_eq_true_iff, beq_iff_eq] at checked
  have ran := analyze_of_reportsOn made checked.1 1
  have higher : (Policy.standard doubles).baseThreshold ≤ doubles.ofNat 15 := by
    decide +kernel
  have filtered := raising_the_base_threshold_only_filters (.standard doubles) ⟨.relative, []⟩
    twoUnions 1 1 (doubles.ofNat 15) higher reports ran
  rcases reports with _ | ⟨small, _ | ⟨large, _ | ⟨other, rest⟩⟩⟩
  all_goals simp only [List.map_cons, List.map_nil, List.cons.injEq, reduceCtorEq, and_false,
    and_true] at checked
  have left : [small, large].filter (Diagnostic.standsAt doubles (doubles.ofNat 15)) = [large] := by
    simp [checked.2.1, checked.2.2]
  rw [left] at filtered
  exact ⟨small, large, ran, filtered⟩

end TypeGauge.Check
