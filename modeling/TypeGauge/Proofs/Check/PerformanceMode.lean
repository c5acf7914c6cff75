import TypeGauge.Proofs.Check.Specification
import TypeGauge.Proofs.Score.Capping
import Mathlib.Algebra.Order.Field.Rat
import Mathlib.Tactic.NormNum

/-!
# Performance mode

Performance mode caps sums at twice the error threshold.  As long as no threshold
lies above that, passes in both modes find the same: they score the same
declarations, and where the scores differ no threshold tells them apart.  So they
make the same reports in the same order and with the same severities, and only the
scores in them and the texts of these scores may differ.
-/

namespace TypeGauge.Check

open TypeGauge.Data TypeGauge.Files TypeGauge.Setup TypeGauge.Score TypeGauge.Syntax
open TypeGauge.Types

variable {K : Type} [Field K] [LinearOrder K] [IsStrictOrderedRing K]

/-- No threshold of a policy lies above the ceiling. -/
structure ThresholdsBelowCeiling (scoring : ExactScoring K) : Prop where
  base : scoring.policy.baseThreshold ≤ scoring.ceiling
  warn : scoring.policy.warnThreshold ≤ scoring.ceiling
  penalty : scoring.policy.interfacePenalty ≤ scoring.ceiling

/-- A pass with performance mode on or off. -/
def modePass (scoring : ExactScoring K) (settings : Settings K) (file : Path)
    (isCapped : Bool) : Pass K :=
  ⟨scoring.arithmetic, { settings with policy := scoring.mode isCapped }, file⟩

/-- Two scored declarations that differ at most in scores which agree below the ceiling. -/
structure SameDeclaration (ceiling : K) (first second : Value × ScoredDeclaration K) : Prop where
  node : first.1 = second.1
  kind : first.2.kind = second.2.kind
  name : first.2.name = second.2.name
  source : first.2.source = second.2.source
  score : SameBelow ceiling first.2.score second.2.score

/-- Two diagnostics that differ at most in their scores and in how a message shows them. -/
structure SameButScore (pass : Pass K) (first second : Diagnostic K) : Prop where
  type : first.type = second.type
  file : first.file = second.file
  line : first.line = second.line
  column : first.column = second.column
  severity : first.severity = second.severity
  name : first.name = second.name
  message : first.message = second.message ∨
    ∃ firstShown secondShown,
      first.score.bind pass.arithmetic.show? = some firstShown ∧
        second.score.bind pass.arithmetic.show? = some secondShown ∧
        first.message = pass.plainMessage firstShown ∧
        second.message = pass.plainMessage secondShown

section

variable {scoring : ExactScoring K} {settings : Settings K} {file : Path}

/-! ## The same declarations -/

theorem validatorScore_nonneg
    {node : Value} {score : K} (scored : validatorScore scoring.arithmetic node = .ok score) :
    0 ≤ score := by
  rw [validatorScore] at scored
  cases counted : validatorPoints node with
  | error fault => simp [counted, Except.map] at scored
  | ok points =>
      simp only [counted, Except.map, Except.ok.injEq] at scored
      rw [← scored]
      exact div_nonneg (Nat.cast_nonneg _) zero_le_two

theorem sameDeclaration_of_describes
    {node : Value} {first second : ScoredDeclaration K}
    (firstDescribed : (modePass scoring settings file true).Describes node first)
    (secondDescribed : (modePass scoring settings file false).Describes node second) :
    SameDeclaration scoring.ceiling (node, first) (node, second) := by
  have kind : first.kind = second.kind := by
    have same := firstDescribed.kind.symm.trans secondDescribed.kind
    exact Option.some.inj same
  constructor
  · rfl
  · exact kind
  · have named := firstDescribed.name
    rw [kind, secondDescribed.name] at named
    exact (Except.ok.inj named).symm
  · have positioned := firstDescribed.source
    rw [secondDescribed.source] at positioned
    exact (Except.ok.inj positioned).symm
  · have firstScored := firstDescribed.score 0
    have secondScored := secondDescribed.score 0
    rw [kind] at firstScored
    cases declared : second.kind with
    | typeAlias =>
        rw [declared] at firstScored secondScored
        exact scoring.sameBelow_of_freshScore firstScored secondScored
    | interface =>
        rw [declared] at firstScored secondScored
        exact scoring.sameBelow_of_freshScore firstScored secondScored
    | validator =>
        rw [declared] at firstScored secondScored
        have same : first.score = second.score :=
          Except.ok.inj (firstScored.symm.trans secondScored)
        rw [same]
        exact .refl _ (validatorScore_nonneg secondScored)

theorem sameDeclarations
    {firsts seconds : List (Value × ScoredDeclaration K)}
    (firstDescribed : ∀ item ∈ firsts,
      (modePass scoring settings file true).Describes item.1 item.2)
    (secondDescribed : ∀ item ∈ seconds,
      (modePass scoring settings file false).Describes item.1 item.2)
    (sameNodes : firsts.map Prod.fst = seconds.map Prod.fst) :
    List.Forall₂ (SameDeclaration scoring.ceiling) firsts seconds := by
  induction firsts generalizing seconds with
  | nil =>
      rcases seconds with _ | ⟨second, others⟩
      · exact .nil
      · simp at sameNodes
  | cons first rest hypothesis =>
      rcases seconds with _ | ⟨second, others⟩
      · simp at sameNodes
      · rw [List.forall_mem_cons] at firstDescribed secondDescribed
        rw [List.map_cons, List.map_cons, List.cons.injEq] at sameNodes
        rcases sameNodes with ⟨sameNode, sameRest⟩
        have secondHere := secondDescribed.1
        rw [← sameNode] at secondHere
        have same := sameDeclaration_of_describes firstDescribed.1 secondHere
        refine .cons ⟨sameNode, same.kind, same.name, same.source, same.score⟩ ?_
        exact hypothesis firstDescribed.2 secondDescribed.2 sameRest

/-! ## The same reports -/

theorem less_eq_of_sameBelow
    {ceiling threshold : K} (below : threshold ≤ ceiling) {first second : K}
    (same : SameBelow ceiling first second) :
    scoring.arithmetic.less first threshold = scoring.arithmetic.less second threshold := by
  have sides := same.le_iff below
  simp only [ExactScoring.arithmetic, Arithmetic.exact, decide_eq_decide]
  rw [← not_le, ← not_le, sides]

theorem atMost_eq_of_sameBelow
    {ceiling threshold : K} (below : threshold ≤ ceiling) {first second : K}
    (same : SameBelow ceiling first second) :
    scoring.arithmetic.atMost threshold first = scoring.arithmetic.atMost threshold second := by
  simp only [ExactScoring.arithmetic, Arithmetic.exact, decide_eq_decide]
  exact same.le_iff below

variable (below : ThresholdsBelowCeiling scoring)

include below

theorem isReportedAtOnce_eq
    {first second : Value × ScoredDeclaration K}
    (same : SameDeclaration scoring.ceiling first second) :
    (modePass scoring settings file true).isReportedAtOnce first =
      (modePass scoring settings file false).isReportedAtOnce second := by
  have base : scoring.arithmetic.less first.2.score scoring.policy.baseThreshold =
      scoring.arithmetic.less second.2.score scoring.policy.baseThreshold :=
    less_eq_of_sameBelow below.base same.score
  have penalty : scoring.arithmetic.less first.2.score scoring.policy.interfacePenalty =
      scoring.arithmetic.less second.2.score scoring.policy.interfacePenalty :=
    less_eq_of_sameBelow below.penalty same.score
  rw [Pass.isReportedAtOnce, Pass.isReportedAtOnce, same.kind, same.node]
  cases second.2.kind with
  | typeAlias => exact congrArg (_ && !·) base
  | interface => exact congrArg (!·) penalty
  | validator => rfl

theorem isReportedLate_eq
    (nodes : List Value) {first second : Value × ScoredDeclaration K}
    (same : SameDeclaration scoring.ceiling first second) :
    (modePass scoring settings file true).isReportedLate nodes first =
      (modePass scoring settings file false).isReportedLate nodes second := by
  have base : scoring.arithmetic.less first.2.score scoring.policy.baseThreshold =
      scoring.arithmetic.less second.2.score scoring.policy.baseThreshold :=
    less_eq_of_sameBelow below.base same.score
  have putOff : (modePass scoring settings file true).isPutOff first =
      (modePass scoring settings file false).isPutOff second := by
    rw [Pass.isPutOff, Pass.isPutOff, same.kind]
    cases second.2.kind with
    | typeAlias => rfl
    | interface => rfl
    | validator => exact congrArg (!·) base
  rw [Pass.isReportedLate, Pass.isReportedLate, putOff, same.name]
  rfl

theorem severity_eq
    {first second : K} (same : SameBelow scoring.ceiling first second) :
    Severity.ofScore scoring.arithmetic (scoring.mode true) first =
      Severity.ofScore scoring.arithmetic (scoring.mode false) second := by
  have errorBelow : scoring.policy.errorThreshold ≤ scoring.ceiling := by
    rw [ExactScoring.ceiling, two_mul]
    exact le_add_of_nonneg_right scoring.error_nonneg
  have error : scoring.arithmetic.atMost scoring.policy.errorThreshold first =
      scoring.arithmetic.atMost scoring.policy.errorThreshold second :=
    atMost_eq_of_sameBelow errorBelow same
  have warn : scoring.arithmetic.atMost scoring.policy.warnThreshold first =
      scoring.arithmetic.atMost scoring.policy.warnThreshold second :=
    atMost_eq_of_sameBelow below.warn same
  simp only [Severity.ofScore, ExactScoring.mode, error, warn]
  rfl

theorem sameButScore_of_reports
    {first second : Value × ScoredDeclaration K}
    (same : SameDeclaration scoring.ceiling first second) {report other : Diagnostic K}
    (reports : (modePass scoring settings file true).Reports first.2 report)
    (otherReports : (modePass scoring settings file false).Reports second.2 other) :
    SameButScore (modePass scoring settings file true) report other := by
  constructor
  · rw [reports.type, otherReports.type, same.kind]
  · rw [reports.file, otherReports.file]
    rfl
  · rw [reports.line, otherReports.line, same.source]
  · rw [reports.column, otherReports.column, same.source]
  · rw [reports.severity, otherReports.severity]
    exact severity_eq below same.score
  · rw [reports.name, otherReports.name, same.kind, same.name]
  · have message := reports.message
    have otherMessage := otherReports.message
    rw [same.kind, same.name] at message
    by_cases isInterface : second.2.kind = .interface
    · left
      rw [if_pos isInterface] at message otherMessage
      rw [message, otherMessage]
      rfl
    · right
      rw [if_neg isInterface] at message otherMessage
      rcases message with ⟨shown, showed, text⟩
      rcases otherMessage with ⟨otherShown, otherShowed, otherText⟩
      refine ⟨shown, otherShown, ?_, ?_, text, otherText⟩
      · rw [reports.score]
        exact showed
      · rw [otherReports.score]
        exact otherShowed

theorem sameButScore_of_forall₂
    {firsts seconds : List (Value × ScoredDeclaration K)}
    (same : List.Forall₂ (SameDeclaration scoring.ceiling) firsts seconds)
    {reports others : List (Diagnostic K)}
    (reported : List.Forall₂
      (fun item report => (modePass scoring settings file true).Reports item.2 report)
      firsts reports)
    (otherReported : List.Forall₂
      (fun item report => (modePass scoring settings file false).Reports item.2 report)
      seconds others) :
    List.Forall₂ (SameButScore (modePass scoring settings file true)) reports others := by
  induction same generalizing reports others with
  | nil =>
      cases reported
      cases otherReported
      exact .nil
  | cons head _ hypothesis =>
      cases reported with
      | cons report rest =>
          cases otherReported with
          | cons otherReport otherRest =>
              exact .cons (sameButScore_of_reports below head report otherReport)
                (hypothesis rest otherRest)

/-- Passes in both modes that end well make the same reports. -/
theorem sameButScore_of_analyze
    {program : Value} {supply otherSupply : Nat}
    {diagnostics others : List (Diagnostic K)} {state otherState : PassState K}
    (ran : analyze scoring.arithmetic { settings with policy := scoring.mode true } file program
      supply = (.ok diagnostics, state))
    (otherRan : analyze scoring.arithmetic { settings with policy := scoring.mode false } file
      program otherSupply = (.ok others, otherState)) :
    List.Forall₂ (SameButScore (modePass scoring settings file true)) diagnostics others := by
  rcases exists_findings_of_analyze (modePass scoring settings file true) ran with
    ⟨findings, late, _, read, lateMade, rfl, _⟩
  rcases exists_findings_of_analyze (modePass scoring settings file false) otherRan with
    ⟨otherFindings, otherLate, _, otherRead, otherLateMade, rfl, _⟩
  have contributed := (forall₂_of_mapM_eq_ok read).imp fun _ _ => Pass.contributes_of_finding
  have otherContributed :=
    (forall₂_of_mapM_eq_ok otherRead).imp fun _ _ => Pass.contributes_of_finding
  rcases Pass.describes_declarations contributed with ⟨described, nodes, _⟩
  rcases Pass.describes_declarations otherContributed with ⟨otherDescribed, otherNodes, _⟩
  have same := sameDeclarations described otherDescribed (nodes.trans otherNodes.symm)
  apply Diagnostic.forall₂_sort
  · intro first second alike
    rw [Diagnostic.place, Diagnostic.place, alike.line, alike.column]
  · apply List.rel_append
    · apply sameButScore_of_forall₂ below _ (Pass.reports_declarations contributed)
        (Pass.reports_declarations otherContributed)
      apply List.rel_filter _ same
      intro first second alike
      exact Bool.eq_iff_iff.mp (isReportedAtOnce_eq below alike)
    · apply sameButScore_of_forall₂ below _ (Pass.reports_of_lateReports contributed lateMade)
        (Pass.reports_of_lateReports otherContributed otherLateMade)
      apply List.rel_filter _ same
      intro first second alike
      exact Bool.eq_iff_iff.mp (isReportedLate_eq below _ alike)

end

/--
In exact arithmetic, scorers in both modes that answer the same requests finish the
same nodes in the same order at the same depths, and the capped score of a node is
the smaller of the weighed ceiling and its score without caps.  Hence, if no
threshold lies above the ceiling, passes in both modes make the same reports.
-/
theorem performance_mode_is_faithful (scoring : ExactScoring K) :
    (∀ (graph : TypeGraph) (requests : List Request),
      (∀ request ∈ requests, 0 ≤ request.depth) →
        ∃ scores after journal plainScores plainAfter plainJournal,
          (∀ room, graph.nodes.length < room →
            outcome ((scoring.scorer true).scoreAllWithin graph room requests) .empty =
                (.ok scores, after) ∧
              outcome ((scoring.scorer false).scoreAllWithin graph room requests) .empty =
                (.ok plainScores, plainAfter)) ∧
            Visits (scoring.scorer true) graph requests .empty scores after journal ∧
            Visits (scoring.scorer false) graph requests .empty plainScores plainAfter
              plainJournal ∧
            after.scores = journal.map Finish.entry ∧
            plainAfter.scores = plainJournal.map Finish.entry ∧
            List.Forall₂ scoring.Clamps journal plainJournal) ∧
      (ThresholdsBelowCeiling scoring →
        ∀ (settings : Settings K) (file : Path) (program : Value) (supply plainSupply : Nat)
          (diagnostics plainDiagnostics : List (Diagnostic K)) (state plainState : PassState K),
          analyze scoring.arithmetic { settings with policy := scoring.mode true } file program
              supply = (.ok diagnostics, state) →
            analyze scoring.arithmetic { settings with policy := scoring.mode false } file program
                plainSupply = (.ok plainDiagnostics, plainState) →
              List.Forall₂ (SameButScore (modePass scoring settings file true)) diagnostics
                plainDiagnostics) := by
  constructor
  · intro graph requests nonnegative
    have weighs : ∀ isCapped, (scoring.scorer isCapped).arithmetic.Weighs := by
      intro isCapped
      exact Arithmetic.exact_weighs _ _
    rcases Scorer.exists_answers (weighs true) graph .empty requests nonnegative with
      ⟨scores, after, journal, visits, runs⟩
    rcases Scorer.exists_answers (weighs false) graph .empty requests nonnegative with
      ⟨plainScores, plainAfter, plainJournal, plainVisits, plainRuns⟩
    rcases visits.uncapped .empty with ⟨_, _, _, followed, _, _, clamps⟩
    rcases followed.unique plainVisits with ⟨rfl, rfl, rfl⟩
    refine ⟨scores, after, journal, _, _, _, ?_, visits, plainVisits, visits.scores_eq,
      plainVisits.scores_eq, clamps⟩
    intro room roomy
    exact ⟨runs room roomy, plainRuns room roomy⟩
  · intro below settings file program supply plainSupply diagnostics plainDiagnostics state
      plainState ran plainRan
    exact sameButScore_of_analyze below ran plainRan

/-- Rational scores under the standard thresholds, where a depth is its own weight. -/
def rationalScoring : ExactScoring ℚ where
  weight depth := depth
  show? score := some (toString score)
  policy := { Policy.standard (.exact (fun depth => (depth : ℚ)) fun _ => none) with
    entryDepth := 1 }
  weight_zero := by norm_num
  one_le_weight := by
    intro depth positive
    exact_mod_cast positive
  penalty_nonneg := by
    exact div_nonneg (Nat.cast_nonneg _) zero_le_two
  error_nonneg := by
    exact div_nonneg (Nat.cast_nonneg _) zero_le_two

theorem rationalScoring_below : ThresholdsBelowCeiling rationalScoring := by
  constructor <;> decide +kernel

/-- An interface that extends seven others, whose score is above the ceiling. -/
def wideInterface : Value :=
  .object
    [("type", .text "TSInterfaceDeclaration"), ("id", identifierNode "User"),
      ("extends", .list (List.replicate 7 .null))]

/--
The self-containing union is finished alike in both modes, also when it is asked for
twice.  The wide interface has a score above the ceiling and is reported alike.
-/
theorem rationalScoring_is_faithful :
    (∃ scores after journal plainScores plainAfter plainJournal,
      Visits (rationalScoring.scorer true) selfContainingUnion [⟨1, 3⟩, ⟨0, 1⟩] .empty scores
          after journal ∧
        Visits (rationalScoring.scorer false) selfContainingUnion [⟨1, 3⟩, ⟨0, 1⟩] .empty
          plainScores plainAfter plainJournal ∧
        List.Forall₂ rationalScoring.Clamps journal plainJournal) ∧
      ∃ diagnostics plainDiagnostics,
        (analyze rationalScoring.arithmetic
            { Settings.standard rationalScoring.arithmetic with
              policy := rationalScoring.mode true }
            ⟨.relative, []⟩ wideInterface 1).1 = .ok diagnostics ∧
          (analyze rationalScoring.arithmetic
            { Settings.standard rationalScoring.arithmetic with
              policy := rationalScoring.mode false }
            ⟨.relative, []⟩ wideInterface 1).1 = .ok plainDiagnostics ∧
          List.Forall₂
            (SameButScore
              (modePass rationalScoring (.standard rationalScoring.arithmetic) ⟨.relative, []⟩
                true))
            diagnostics plainDiagnostics := by
  rcases performance_mode_is_faithful rationalScoring with ⟨scoring, reporting⟩
  constructor
  · rcases scoring selfContainingUnion [⟨1, 3⟩, ⟨0, 1⟩] (by decide) with
      ⟨scores, after, journal, plainScores, plainAfter, plainJournal, _, visits, plainVisits, _, _,
        clamps⟩
    exact ⟨scores, after, journal, plainScores, plainAfter, plainJournal, visits, plainVisits,
      clamps⟩
  · have returns : ∀ isCapped, ∃ diagnostics state,
        analyze rationalScoring.arithmetic
          { Settings.standard rationalScoring.arithmetic with
            policy := rationalScoring.mode isCapped }
          ⟨.relative, []⟩ wideInterface 1 = (.ok diagnostics, state) := by
      intro isCapped
      apply exists_answer_of_toBool
      cases isCapped <;> decide +kernel
    rcases returns true with ⟨diagnostics, state, ran⟩
    rcases returns false with ⟨plainDiagnostics, plainState, plainRan⟩
    refine ⟨diagnostics, plainDiagnostics, by rw [ran], by rw [plainRan], ?_⟩
    exact reporting rationalScoring_below _ _ _ _ _ _ _ _ _ ran plainRan

end TypeGauge.Check
