import TypeGauge.Proofs.Check.Specification
import TypeGauge.Proofs.Score.Dependence
import TypeGauge.Proofs.Score.Monotonicity

/-!
# What the entry depth decides

Declarations are scored at the entry depth, so the weight of that depth multiplies every
score of an alias or an interface.  At the depth nought the weight is nought: such scores
are nought, and where the thresholds are above nought only validators are reported, whose
scores are not weighed.  From the depth one on the weight is at least one, and an
interface, whose own penalty is part of its score, never falls below that penalty: every
interface is reported, exactly once.
-/

namespace TypeGauge.Score

open TypeGauge.Data TypeGauge.Setup TypeGauge.Syntax TypeGauge.Types

/-- The score of a node on its own is the plain score of the tree that it is built to. -/
theorem plainScore_of_freshScore
    {α : Type} {scorer : Scorer α} (weighs : scorer.arithmetic.Weighs)
    {supply : Nat} {node : Value} {depth : Int} (entered : 0 ≤ depth) {score : α}
    (scored : scorer.freshScore supply node depth = .ok score) :
    ∃ tree next, outcome (build node) supply = (.ok tree, next) ∧
      tree.plainScore scorer depth = some score := by
  rw [Scorer.freshScore] at scored
  split at scored
  · cases scored
  · rename_i tree next built
    have untouched : ∀ node ∈ tree.toGraph.nodes,
        (ScoreCache.empty : ScoreCache Nat α).Untouched node.identity :=
      fun _ _ => ⟨rfl, List.not_mem_nil⟩
    rcases outcome_score_of_build weighs built entered untouched with ⟨other, after, ran, plain⟩
    rw [ran] at scored
    cases scored
    exact ⟨tree, next, built, plain⟩

variable {K : Type} [Field K] [LinearOrder K]

/-- A weight for every depth from nought on: nought at nought, and from there on at least one. -/
structure Weighting (weight : Nat → K) : Prop where
  nought : weight 0 = 0
  above : ∀ depth, 1 ≤ depth → 1 ≤ weight depth

variable {weight : Nat → K} {show? : K → Option String} {policy : Policy K}

theorem freshScore_at_nought (weighting : Weighting weight) {supply : Nat} {node : Value}
    {score : K}
    (scored : (⟨.exact weight show?, policy⟩ : Scorer K).freshScore supply node 0 = .ok score) :
    score = 0 := by
  have weighs := Arithmetic.exact_weighs weight show?
  rcases plainScore_of_freshScore weighs (le_refl 0) scored with ⟨tree, _, _, plain⟩
  cases tree with
  | node head children =>
      simp only [TypeTree.plainScore, Option.bind_eq_bind, Option.bind_eq_some_iff,
        Option.pure_def, Option.some.injEq] at plain
      rcases plain with ⟨scores, _, factor, weighed, rfl⟩
      have isNought : factor = 0 := by
        rw [← weighting.nought]
        exact (Option.some.inj weighed).symm
      rw [isNought]
      exact mul_zero _

variable [IsStrictOrderedRing K]

namespace ExactScoring

variable (scoring : ExactScoring K)

/-- The total of an interface without caps is at least its penalty. -/
theorem penalty_le_total_uncapped {node : TypeNode} (isInterface : node.kind = .interface)
    {scores : List K} (nonnegative : ∀ score ∈ scores, 0 ≤ score) :
    scoring.policy.interfacePenalty ≤ (scoring.scorer false).total node scores := by
  have rule : Rule.ofNode node =
      ⟨[.penalty, .whole (5 * node.extendsCount), .whole (2 * node.memberCount)], none, []⟩ := by
    simp [Rule.ofNode, isInterface]
  have extended := scoring.amount_nonneg (.whole (5 * node.extendsCount))
  have members := scoring.amount_nonneg (.whole (2 * node.memberCount))
  have children : 0 ≤ (scores.map ((scoring.scorer false).withSurcharge none)).sum := by
    apply List.sum_nonneg
    rw [List.forall_mem_map]
    intro score member
    exact scoring.withSurcharge_nonneg none (nonnegative score member)
  have penalty : (scoring.scorer false).amount .penalty = scoring.policy.interfacePenalty := rfl
  rw [total_uncapped, rule]
  simp only [List.map_cons, List.map_nil, List.sum_cons, List.sum_nil, add_zero, penalty]
  linarith

theorem penalty_le_total (isCapped : Bool)
    (roomy : isCapped = true → scoring.policy.interfacePenalty ≤ scoring.ceiling)
    {node : TypeNode} (isInterface : node.kind = .interface)
    {scores : List K} (nonnegative : ∀ score ∈ scores, 0 ≤ score) :
    scoring.policy.interfacePenalty ≤ (scoring.scorer isCapped).total node scores := by
  have plain := scoring.penalty_le_total_uncapped isInterface nonnegative
  cases isCapped with
  | false => exact plain
  | true =>
      rw [(scoring.total_caps_self node nonnegative).capped_eq]
      exact le_min (roomy rfl) plain

/-- From the depth one on, an interface scores at least its penalty. -/
theorem penalty_le_plainScore (isCapped : Bool)
    (roomy : isCapped = true → scoring.policy.interfacePenalty ≤ scoring.ceiling)
    {tree : TypeTree} (isInterface : tree.head.kind = .interface)
    {depth : Int} (entered : 1 ≤ depth) {score : K}
    (scored : tree.plainScore (scoring.scorer isCapped) depth = some score) :
    scoring.policy.interfacePenalty ≤ score := by
  cases tree with
  | node head children =>
      rcases exists_scores_of_plainScore scored with ⟨scores, childrenScored, rfl⟩
      have nonnegative := plainScores_nonneg head.kind children childrenScored
      have rootKind : (TypeTree.node head children).rootNode.kind = .interface := isInterface
      have total := scoring.penalty_le_total isCapped roomy rootKind nonnegative
      have weight := scoring.one_le_weight depth.toNat (by omega)
      exact total.trans (le_mul_of_one_le_right (scoring.penalty_nonneg.trans total) weight)

end ExactScoring

/-- From the depth one on, what an interface declaration is built to scores its penalty or more. -/
theorem penalty_le_freshScore (weighting : Weighting weight)
    (penalty : 0 ≤ policy.interfacePenalty)
    (roomy : policy.performanceMode = true →
      policy.interfacePenalty ≤ 2 * policy.errorThreshold)
    {supply : Nat} {node : Value}
    (isInterface : (typeOf node).isText "TSInterfaceDeclaration" = true)
    {depth : Int} (entered : 1 ≤ depth) {score : K}
    (scored : (⟨.exact weight show?, policy⟩ : Scorer K).freshScore supply node depth =
      .ok score) :
    policy.interfacePenalty ≤ score := by
  -- Without caps the threshold for errors may be anything, and is not read.
  let scoring : ExactScoring K :=
    { weight := weight
      show? := show?
      policy := { policy with errorThreshold := max 0 policy.errorThreshold }
      weight_zero := weighting.nought
      one_le_weight := weighting.above
      penalty_nonneg := penalty
      error_nonneg := le_max_left _ _ }
  have thresholdKept : policy.performanceMode = true →
      max 0 policy.errorThreshold = policy.errorThreshold := by
    intro capped
    have ceiling := penalty.trans (roomy capped)
    exact max_eq_right (by linarith)
  have alike : ScoresAlike policy (scoring.mode policy.performanceMode) :=
    ⟨rfl, rfl, thresholdKept⟩
  rw [← alike.freshScore_eq] at scored
  have weighs := Arithmetic.exact_weighs weight show?
  rcases plainScore_of_freshScore weighs (by omega) scored with ⟨tree, next, built, plain⟩
  have kind : tree.head.kind = .interface := by
    have declared := kind_of_buildWithin built
    rw [Value.isText_iff.mp isInterface] at declared
    exact (Except.ok.inj declared).symm
  refine scoring.penalty_le_plainScore policy.performanceMode ?_ kind entered plain
  intro capped
  have ceiling : scoring.ceiling = 2 * policy.errorThreshold :=
    congrArg (2 * ·) (thresholdKept capped)
  rw [ceiling]
  exact roomy capped

end TypeGauge.Score

namespace TypeGauge.Check

open TypeGauge.Data TypeGauge.Files TypeGauge.Setup TypeGauge.Score TypeGauge.Syntax

section

variable {α : Type}

/-- Whether a node declares an interface. -/
def isInterfaceNode (node : Value) : Bool :=
  (typeOf node).isText "TSInterfaceDeclaration"

/-- The nodes that are scored as interfaces are those that declare one. -/
theorem declarationKind?_eq_interface_iff (settings : Settings α) (node : Value) :
    declarationKind? settings node = some .interface ↔ isInterfaceNode node = true := by
  rw [declarationKind?, isInterfaceNode]
  constructor
  · intro declared
    split at declared
    · split at declared <;> cases declared
    · split at declared
      · assumption
      · split at declared <;> cases declared
  · intro isInterface
    rw [Value.isText_iff.mp isInterface]
    rfl

namespace Pass

/-- A pass that ends well has a finding for every node of the walk, and the late reports. -/
theorem exists_contributions_of_analyze
    (pass : Pass α) {program : Value} {supply : Nat}
    {diagnostics : List (Diagnostic α)} {state : PassState α}
    (ran : analyze pass.arithmetic pass.settings pass.file program supply =
      (.ok diagnostics, state)) :
    ∃ findings late,
      List.Forall₂ pass.Contributes (tour program).visited findings ∧
        pass.lateReports findings = .ok late ∧
        diagnostics = Diagnostic.sort (findings.filterMap Finding.report ++ late) ∧
        state.scored = (declarations (tour program).visited findings).map Prod.snd := by
  rcases exists_findings_of_analyze pass ran with
    ⟨findings, late, _, read, lateMade, sorted, scored⟩
  have contributed : List.Forall₂ pass.Contributes (tour program).visited findings :=
    (forall₂_of_mapM_eq_ok read).imp fun _ _ found => contributes_of_finding found
  refine ⟨findings, late, contributed, lateMade, sorted, ?_⟩
  rw [scored, (describes_declarations contributed).2.2]

variable {pass : Pass α} {nodes : List Value} {findings : List (Finding α)}

/-- The declarations that are scored as interfaces are those of the nodes that declare one. -/
theorem interface_declarations (contributed : List.Forall₂ pass.Contributes nodes findings) :
    ((declarations nodes findings).filter fun declared => declared.2.kind == .interface).map
        Prod.fst =
      nodes.filter isInterfaceNode := by
  rcases describes_declarations contributed with ⟨described, declaring, _⟩
  have sameKind : ((declarations nodes findings).filter fun declared =>
      declared.2.kind == .interface) =
        (declarations nodes findings).filter (isInterfaceNode ∘ Prod.fst) := by
    apply List.filter_congr
    intro declared member
    rw [Bool.eq_iff_iff, beq_iff_eq, Function.comp_apply,
      ← declarationKind?_eq_interface_iff pass.settings, (described declared member).kind,
      Option.some.injEq]
  rw [sameKind, ← List.filter_map, declaring, List.filter_filter]
  apply List.filter_congr
  intro node _
  cases isInterface : isInterfaceNode node with
  | false => rfl
  | true =>
      rw [(declarationKind?_eq_interface_iff pass.settings node).mpr isInterface]
      rfl

theorem Reports.type_eq_complexInterface_iff
    {entry : ScoredDeclaration α} {diagnostic : Diagnostic α}
    (reports : pass.Reports entry diagnostic) :
    diagnostic.type = .complexInterface ↔ entry.kind = .interface := by
  rw [reports.type]
  split <;> simp [*]

/-- The reports on interfaces, where all of them are reported, are one for each of their nodes. -/
theorem reports_on_interfaces (contributed : List.Forall₂ pass.Contributes nodes findings)
    (reported : ∀ declared ∈ declarations nodes findings, declared.2.kind = .interface →
      pass.isReportedAtOnce declared = true) :
    List.Forall₂
      (fun node diagnostic => ∃ entry, pass.Describes node entry ∧ entry.kind = .interface ∧
        pass.Reports entry diagnostic)
      (nodes.filter isInterfaceNode)
      ((findings.filterMap Finding.report).filter fun diagnostic =>
        diagnostic.type == .complexInterface) := by
  have described := (describes_declarations contributed).1
  have selected : ((declarations nodes findings).filter pass.isReportedAtOnce).filter
      (fun declared => declared.2.kind == .interface) =
        (declarations nodes findings).filter fun declared => declared.2.kind == .interface := by
    rw [List.filter_filter]
    apply List.filter_congr
    intro declared member
    cases isInterface : declared.2.kind == .interface with
    | false => rfl
    | true => rw [reported declared member (beq_iff_eq.mp isInterface), Bool.and_self]
  have paired : List.Forall₂ (fun declared diagnostic => pass.Reports declared.2 diagnostic)
      (((declarations nodes findings).filter pass.isReportedAtOnce).filter fun declared =>
        declared.2.kind == .interface)
      ((findings.filterMap Finding.report).filter fun diagnostic =>
        diagnostic.type == .complexInterface) := by
    apply List.rel_filter _ (reports_declarations contributed)
    intro declared diagnostic reports
    simp only [beq_iff_eq, reports.type_eq_complexInterface_iff]
  rw [selected] at paired
  have facts : ∀ declared ∈ (declarations nodes findings).filter fun declared =>
      declared.2.kind == .interface,
        pass.Describes declared.1 declared.2 ∧ declared.2.kind = .interface := by
    intro declared member
    rw [List.mem_filter, beq_iff_eq] at member
    exact ⟨described declared member.1, member.2⟩
  rw [← interface_declarations contributed, List.forall₂_map_left_iff]
  refine ((List.forall₂_and_left _ _).mpr ⟨facts, paired⟩).imp ?_
  rintro declared diagnostic ⟨⟨describes, isInterface⟩, reports⟩
  exact ⟨declared.2, describes, isInterface, reports⟩

theorem kind_of_isReportedLate
    {declared : Value × ScoredDeclaration α} (late : pass.isReportedLate nodes declared = true) :
    declared.2.kind = .validator := by
  rw [isReportedLate, Bool.and_eq_true] at late
  exact kind_of_isPutOff late.1

/-- Late reports are never about interfaces. -/
theorem late_filter_eq_nil (contributed : List.Forall₂ pass.Contributes nodes findings)
    {late : List (Diagnostic α)} (lateMade : pass.lateReports findings = .ok late) :
    (late.filter fun diagnostic => diagnostic.type == .complexInterface) = [] := by
  rw [List.filter_eq_nil_iff]
  intro diagnostic member
  rcases exists_related_of_mem (reports_of_lateReports contributed lateMade) member with
    ⟨declared, listed, reports⟩
  rw [List.mem_filter] at listed
  rw [beq_iff_eq, reports.type_eq_complexInterface_iff, kind_of_isReportedLate listed.2]
  decide

end Pass

end

/-! ## The two sides -/

section

variable {K : Type} [Field K] [LinearOrder K]

/-- A pass that scores exactly. -/
abbrev exactPass (weight : Nat → K) (show? : K → Option String) (settings : Settings K)
    (file : Path) : Pass K :=
  ⟨.exact weight show?, settings, file⟩

variable {weight : Nat → K} {show? : K → Option String} {settings : Settings K} {file : Path}
variable {node : Value} {entry : ScoredDeclaration K}

/-- At the depth nought, aliases and interfaces score nought. -/
theorem score_at_nought (weighting : Weighting weight) (entered : settings.policy.entryDepth = 0)
    (described : (exactPass weight show? settings file).Describes node entry)
    (isWeighed : entry.kind ≠ .validator) : entry.score = 0 := by
  have depth : (exactPass weight show? settings file).policy.entryDepth = 0 := entered
  have scored := described.score 0
  cases kind : entry.kind with
  | validator => exact absurd kind isWeighed
  | typeAlias | interface =>
      rw [kind, Pass.scoreFrom, depth] at scored
      exact freshScore_at_nought weighting scored

/-- At the depth nought and with thresholds above nought, nothing is reported at once. -/
theorem not_isReportedAtOnce_at_nought (weighting : Weighting weight)
    (entered : settings.policy.entryDepth = 0) (base : 0 < settings.policy.baseThreshold)
    (penalty : 0 < settings.policy.interfacePenalty)
    (described : (exactPass weight show? settings file).Describes node entry) :
    (exactPass weight show? settings file).isReportedAtOnce (node, entry) = false := by
  have nought := score_at_nought weighting entered described
  cases kind : entry.kind with
  | validator => simp [Pass.isReportedAtOnce, kind]
  | typeAlias =>
      have isNought := nought (by simp [kind])
      simp [Pass.isReportedAtOnce, kind, isNought, Arithmetic.exact, Pass.policy, base]
  | interface =>
      have isNought := nought (by simp [kind])
      simp [Pass.isReportedAtOnce, kind, isNought, Arithmetic.exact, Pass.policy, penalty]

/-- At the depth nought and with thresholds above nought, only validators are reported. -/
theorem exists_validator_of_report (weighting : Weighting weight)
    (entered : settings.policy.entryDepth = 0) (base : 0 < settings.policy.baseThreshold)
    (penalty : 0 < settings.policy.interfacePenalty)
    {nodes : List Value} {findings : List (Finding K)}
    (contributed : List.Forall₂ (exactPass weight show? settings file).Contributes nodes findings)
    {late : List (Diagnostic K)}
    (lateMade : (exactPass weight show? settings file).lateReports findings = .ok late)
    {diagnostic : Diagnostic K} (member : diagnostic ∈ findings.filterMap Finding.report ++ late) :
    ∃ declared ∈ Pass.declarations nodes findings,
      declared.2.kind = .validator ∧
        (exactPass weight show? settings file).Reports declared.2 diagnostic := by
  rcases List.mem_append.mp member with atOnce | isLate
  · rcases exists_related_of_mem (Pass.reports_declarations contributed) atOnce with
      ⟨declared, listed, _⟩
    rw [List.mem_filter] at listed
    have described := (Pass.describes_declarations contributed).1 declared listed.1
    have silent := not_isReportedAtOnce_at_nought weighting entered base penalty described
    exact absurd (silent.symm.trans listed.2) Bool.false_ne_true
  · rcases exists_related_of_mem (Pass.reports_of_lateReports contributed lateMade) isLate with
      ⟨declared, listed, reports⟩
    rw [List.mem_filter] at listed
    exact ⟨declared, listed.1, Pass.kind_of_isReportedLate listed.2, reports⟩

variable [IsStrictOrderedRing K]

/-- From the depth one on, every interface is reported at once. -/
theorem isReportedAtOnce_of_interface (weighting : Weighting weight)
    (entered : 1 ≤ settings.policy.entryDepth) (penalty : 0 ≤ settings.policy.interfacePenalty)
    (roomy : settings.policy.performanceMode = true →
      settings.policy.interfacePenalty ≤ 2 * settings.policy.errorThreshold)
    (described : (exactPass weight show? settings file).Describes node entry)
    (kind : entry.kind = .interface) :
    (exactPass weight show? settings file).isReportedAtOnce (node, entry) = true := by
  have isInterface : isInterfaceNode node = true := by
    rw [← declarationKind?_eq_interface_iff settings, ← kind]
    exact described.kind
  have scored := described.score 0
  rw [kind, Pass.scoreFrom] at scored
  have reaches := penalty_le_freshScore weighting penalty roomy isInterface entered scored
  simp [Pass.isReportedAtOnce, kind, Arithmetic.exact, Pass.policy, reaches]

/--
In exact arithmetic, whatever a program holds that is analysed to the end: at the entry
depth nought, and with thresholds above nought, every alias and interface scores nought and
every diagnostic is about a validator.  From the depth one on, where there is no ceiling or
it leaves room for the penalty, the diagnostics about interfaces are one for each node of
the walk that declares an interface, sorted.
-/
theorem entry_depth_decides_what_is_reported
    (weighting : Weighting weight) (show? : K → Option String) (settings : Settings K)
    (file : Path) (program : Value) (supply : Nat)
    (diagnostics : List (Diagnostic K)) (state : PassState K)
    (ran : analyze (.exact weight show?) settings file program supply =
      (.ok diagnostics, state)) :
    (settings.policy.entryDepth = 0 → 0 < settings.policy.baseThreshold →
      0 < settings.policy.interfacePenalty →
        (∀ entry ∈ state.scored, entry.kind ≠ .validator → entry.score = 0) ∧
          ∀ diagnostic ∈ diagnostics, ∃ node ∈ (tour program).visited, ∃ entry ∈ state.scored,
            entry.kind = .validator ∧
              (exactPass weight show? settings file).Describes node entry ∧
              (exactPass weight show? settings file).Reports entry diagnostic) ∧
    (1 ≤ settings.policy.entryDepth → 0 ≤ settings.policy.interfacePenalty →
      (settings.policy.performanceMode = false ∨
        settings.policy.interfacePenalty ≤ 2 * settings.policy.errorThreshold) →
          ∃ reports,
            (diagnostics.filter fun diagnostic => diagnostic.type == .complexInterface) =
                Diagnostic.sort reports ∧
              List.Forall₂
                (fun node diagnostic => ∃ entry,
                  (exactPass weight show? settings file).Describes node entry ∧
                    entry.kind = .interface ∧
                    (exactPass weight show? settings file).Reports entry diagnostic)
                ((tour program).visited.filter isInterfaceNode) reports) := by
  rcases (exactPass weight show? settings file).exists_contributions_of_analyze ran with
    ⟨findings, late, contributed, lateMade, rfl, scored⟩
  rcases Pass.describes_declarations contributed with ⟨described, declaring, _⟩
  constructor
  · intro entered base penalty
    rw [scored]
    constructor
    · intro entry member
      rcases List.mem_map.mp member with ⟨declared, listed, rfl⟩
      exact score_at_nought weighting entered (described declared listed)
    · intro diagnostic member
      rcases exists_validator_of_report weighting entered base penalty contributed lateMade
        (List.mem_mergeSort.mp member) with ⟨declared, listed, isValidator, reports⟩
      have visited : declared.1 ∈ (tour program).visited := by
        have isNode := List.mem_map_of_mem (f := Prod.fst) listed
        rw [declaring] at isNode
        exact List.mem_of_mem_filter isNode
      exact ⟨declared.1, visited, declared.2, List.mem_map_of_mem listed, isValidator,
        described declared listed, reports⟩
  · intro entered penalty modes
    have roomy : settings.policy.performanceMode = true →
        settings.policy.interfacePenalty ≤ 2 * settings.policy.errorThreshold := by
      intro capped
      exact modes.resolve_left (by simp [capped])
    refine ⟨_, ?_, Pass.reports_on_interfaces contributed ?_⟩
    · rw [← Diagnostic.sort_filter, List.filter_append,
        Pass.late_filter_eq_nil contributed lateMade, List.append_nil]
    · intro declared member kind
      exact isReportedAtOnce_of_interface weighting entered penalty roomy
        (described declared member) kind

end

/-- An interface that declares its name and nothing else. -/
def bareInterface (name : String) : Value :=
  .object [("type", .text "TSInterfaceDeclaration"), ("id", identifierNode name)]

/-- An interface, one in a block and a validator. -/
def nestedInterfaces : Value :=
  .object
    [("type", .text "Program"),
      ("body", .list
        [bareInterface "Outer",
          .object [("type", .text "TSModuleBlock"), ("body", .list [bareInterface "Inner"])],
          validatorNode "order"])]

/-- Standard settings with another entry depth. -/
noncomputable def enteredAt (depth : Int) : Settings ℝ :=
  { Settings.standard reals with policy := { Policy.standard reals with entryDepth := depth } }

theorem enteredAt_thresholds (depth : Int) :
    (enteredAt depth).policy.baseThreshold = 10 ∧
      (enteredAt depth).policy.interfacePenalty = 20 ∧
      (enteredAt depth).policy.errorThreshold = 25 := by
  simp only [enteredAt, Policy.standard, Policy.standardBase, Policy.standardPenalty,
    Policy.standardError, reals, Arithmetic.ofNat, Arithmetic.exact]
  norm_num

/-- The binary logarithm of a depth's successor is nought at nought and then at least one. -/
theorem logWeight_weighting : Weighting logWeight := by
  rcases enteredAt_thresholds 0 with ⟨_, penalty, error⟩
  let scoring := realScoring (enteredAt 0).policy (by rw [penalty]; norm_num)
    (by rw [error]; norm_num)
  exact ⟨scoring.weight_zero, scoring.one_le_weight⟩

theorem exists_analysis_of_nestedInterfaces
    {depth : Int} (entered : 0 ≤ depth) (bounded : Real.logb 2 (depth + 1) ≤ 1) :
    ∃ diagnostics state,
      analyze reals (enteredAt depth) ⟨.relative, []⟩ nestedInterfaces 1 =
        (.ok diagnostics, state) := by
  have wellFormed : WellFormed nestedInterfaces := ⟨rfl, by decide⟩
  have weighs : reals.Weighs := Arithmetic.exact_weighs _ _
  rcases enteredAt_thresholds depth with ⟨_, penalty, error⟩
  have ceiling : 2 * (enteredAt depth).policy.errorThreshold *
      Real.logb 2 ((enteredAt depth).policy.entryDepth + 1) ≤ 10 ^ 26 := by
    rw [error, show (enteredAt depth).policy.entryDepth = depth from rfl]
    linarith
  have faultless : FaultsOnly (fun _ => False)
      (analyze reals (enteredAt depth) ⟨.relative, []⟩ nestedInterfaces 1).1 := by
    refine (analyze_faults ⟨reals, enteredAt depth, ⟨.relative, []⟩⟩ weighs entered wellFormed
      1).imp ?_
    intro fault stops
    cases stops with
    | tooDeep deep => exact absurd deep (by decide)
    | unshowable earned unshown =>
        have shown := show?_isSome_of_earns wellFormed rfl entered (by rw [penalty]; norm_num)
          (by rw [error]; norm_num) ceiling earned
        have hidden : reals.show? _ = none := unshown
        rw [hidden] at shown
        cases shown
  rcases faultless.exists_answer with ⟨diagnostics, returned⟩
  exact ⟨diagnostics, _, Prod.ext returned rfl⟩

/-- At the depth nought only the validator is reported, and at the depth one both interfaces are. -/
theorem nestedInterfaces_are_reported_by_depth :
    (∃ diagnostics,
      (analyze reals (enteredAt 0) ⟨.relative, []⟩ nestedInterfaces 1).1 = .ok diagnostics ∧
        ∀ diagnostic ∈ diagnostics, diagnostic.type = .missingCheck) ∧
    ∃ diagnostics,
      (analyze reals (enteredAt 1) ⟨.relative, []⟩ nestedInterfaces 1).1 = .ok diagnostics ∧
        (diagnostics.filter fun diagnostic => diagnostic.type == .complexInterface).length = 2 := by
  constructor
  · rcases exists_analysis_of_nestedInterfaces (le_refl 0) (by simp) with
      ⟨diagnostics, state, ran⟩
    refine ⟨diagnostics, by rw [ran], ?_⟩
    intro diagnostic member
    rcases enteredAt_thresholds 0 with ⟨base, penalty, _⟩
    have decided := (entry_depth_decides_what_is_reported logWeight_weighting _ (enteredAt 0) _ _ _
      diagnostics state ran).1 rfl (by rw [base]; norm_num) (by rw [penalty]; norm_num)
    rcases decided.2 diagnostic member with ⟨_, _, entry, _, isValidator, _, reports⟩
    rw [reports.type, if_neg (by simp [isValidator])]
  · rcases exists_analysis_of_nestedInterfaces zero_le_one (by norm_num) with
      ⟨diagnostics, state, ran⟩
    refine ⟨diagnostics, by rw [ran], ?_⟩
    rcases enteredAt_thresholds 1 with ⟨_, penalty, error⟩
    have decided := (entry_depth_decides_what_is_reported logWeight_weighting _ (enteredAt 1) _ _ _
      diagnostics state ran).2 le_rfl (by rw [penalty]; norm_num)
      (.inr (by rw [penalty, error]; norm_num))
    rcases decided with ⟨reports, filtered, paired⟩
    rw [filtered, Diagnostic.sort, List.length_mergeSort, ← paired.length_eq]
    decide +kernel

end TypeGauge.Check
