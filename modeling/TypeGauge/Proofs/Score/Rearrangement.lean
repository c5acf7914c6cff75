import TypeGauge.Proofs.Score.Monotonicity

/-!
# The order of parts does not matter

Two type trees are rearrangements of each other when permuting the children of nodes, at any
level, makes them the same but for identities and for what scoring does not read.  In exact
arithmetic they have the same score.

Totals are added up from left to right, and with caps every partial sum is cut off at the
ceiling.  Since nothing negative is ever added, all these cuts together are one cut at the end:
the raw score of a node is the smaller of the ceiling and the base of its kind plus what its
scored children contribute, a sum in which the order of the children does not count.
-/

namespace TypeGauge.Types

/-- The second tree is the first one with the children of its nodes in some other order. -/
inductive TypeTree.Rearranges : TypeTree → TypeTree → Prop
  | node {head other : TypeHead} {children permuted others : List TypeTree}
      (kind : head.kind = other.kind)
      (members : head.memberCount = other.memberCount)
      (extended : head.extendsCount = other.extendsCount)
      (order : children.Perm permuted)
      (parts : List.Forall₂ TypeTree.Rearranges permuted others) :
      TypeTree.Rearranges (.node head children) (.node other others)

theorem TypeTree.Rearranges.kind_eq {tree other : TypeTree} (rearranges : tree.Rearranges other) :
    tree.head.kind = other.head.kind := by
  cases rearranges with
  | node kind members extended order parts => exact kind

end TypeGauge.Types

namespace TypeGauge.Score

open TypeGauge.Setup TypeGauge.Types

/-! ## Raw scores -/

/-- A rule depends on the kind of a node and on what the node counts. -/
theorem Rule.ofNode_congr
    {node other : TypeNode} (kind : node.kind = other.kind)
    (members : node.memberCount = other.memberCount)
    (extended : node.extendsCount = other.extendsCount)
    (children : node.children.length = other.children.length) :
    Rule.ofNode node = Rule.ofNode other := by
  rw [Rule.ofNode, Rule.ofNode, kind, members, extended, children]

namespace Scorer

/-- Whatever way its scored children come to these scores, a node then has this raw score. -/
def GivesRaw {α : Type} (scorer : Scorer α) (graph : TypeGraph) (node : TypeNode)
    (scores : List α) (raw : α) : Prop :=
  ∀ (scoreOne : Nat → ScoreM α α) (cache after : ScoreCache Nat α),
    outcome ((scoredChildren graph node).mapM scoreOne) cache = (.ok scores, after) →
      outcome (scorer.rawScore graph scoreOne node) cache = (.ok raw, after)

theorem givesRaw_total {α : Type} (scorer : Scorer α) (graph : TypeGraph) (node : TypeNode)
    (scores : List α) : scorer.GivesRaw graph node scores (scorer.total node scores) := by
  intro scoreOne cache after ran
  rw [rawScore_eq, outcome_map, ran]
  rfl

variable {K : Type} [Field K] [LinearOrder K] [IsStrictOrderedRing K]

/-- What the rule of a node adds up apart from the children. -/
def base (scorer : Scorer K) (node : TypeNode) : K :=
  (((Rule.ofNode node).opening ++ (Rule.ofNode node).closing).map scorer.amount).sum

/-- What a scored child contributes to the raw score of a node. -/
def contribution (scorer : Scorer K) (node : TypeNode) (score : K) : K :=
  scorer.withSurcharge (Rule.ofNode node).surcharge score

end Scorer

variable {K : Type} [Field K] [LinearOrder K] [IsStrictOrderedRing K]

namespace ExactScoring

section Totals

variable (scoring : ExactScoring K)

/-- Without caps a total is the base of a node and what its scored children contribute. -/
theorem total_uncapped_eq (node : TypeNode) (scores : List K) :
    (scoring.scorer false).total node scores =
      (scoring.scorer false).base node +
        (scores.map ((scoring.scorer false).contribution node)).sum := by
  rw [total_uncapped, Scorer.base, List.map_append, List.sum_append, add_right_comm]
  rfl

/-- With caps all the cuts at the ceiling are one cut at the end. -/
theorem total_capped_eq (node : TypeNode) {scores : List K}
    (nonnegative : ∀ score ∈ scores, 0 ≤ score) :
    (scoring.scorer true).total node scores =
      min scoring.ceiling ((scoring.scorer true).base node +
        (scores.map ((scoring.scorer true).contribution node)).sum) := by
  rw [(scoring.total_caps_self node nonnegative).capped_eq, total_uncapped_eq]
  rfl

/-- In either mode, a total does not depend on the order of the scores. -/
theorem total_eq_of_perm (isCapped : Bool) {node other : TypeNode}
    (rules : Rule.ofNode node = Rule.ofNode other) {scores others : List K}
    (order : scores.Perm others) (nonnegative : ∀ score ∈ scores, 0 ≤ score) :
    (scoring.scorer isCapped).total node scores = (scoring.scorer isCapped).total other others := by
  have plain : (scoring.scorer false).total node scores =
      (scoring.scorer false).total other others := by
    rw [total_uncapped, total_uncapped, rules, (order.map _).sum_eq]
  cases isCapped with
  | false => exact plain
  | true =>
      have othersNonnegative : ∀ score ∈ others, 0 ≤ score := by
        intro score member
        exact nonnegative score (order.mem_iff.mpr member)
      rw [(scoring.total_caps_self node nonnegative).capped_eq,
        (scoring.total_caps_self other othersNonnegative).capped_eq, plain]

end Totals

/-! ## Trees -/

variable {scoring : ExactScoring K} {isCapped : Bool}

/-- The plain scores of trees are those of the ones that are scored, each on its own. -/
theorem plainScores_eq_some_iff
    {parent : TypeKind} {trees : List TypeTree} {depth : Int} {scores : List K} :
    TypeTree.plainScores (scoring.scorer isCapped) parent trees depth = some scores ↔
      List.Forall₂ (fun tree score => tree.plainScore (scoring.scorer isCapped) depth = some score)
        (trees.filter fun tree => follows parent tree.head.kind) scores := by
  induction trees generalizing scores with
  | nil => simp [TypeTree.plainScores, eq_comm]
  | cons tree rest hypothesis =>
      by_cases followed : follows parent tree.head.kind = true
      · rw [List.filter_cons, if_pos followed, List.forall₂_cons_left_iff]
        simp only [TypeTree.plainScores, followed, if_true, Option.bind_eq_bind,
          Option.bind_eq_some_iff, Option.pure_def, Option.some.injEq, hypothesis]
        grind
      · rw [List.filter_cons, if_neg followed, plainScores_cons_of_not_follows followed, hypothesis]

/-- Trees in another order have their plain scores in another order. -/
theorem exists_plainScores_of_perm
    {parent : TypeKind} {trees permuted : List TypeTree} (order : trees.Perm permuted)
    {depth : Int} {scores : List K}
    (scored : TypeTree.plainScores (scoring.scorer isCapped) parent trees depth = some scores) :
    ∃ permutedScores,
      TypeTree.plainScores (scoring.scorer isCapped) parent permuted depth = some permutedScores ∧
        permutedScores.Perm scores := by
  rcases List.perm_comp_forall₂ (order.symm.filter _) (plainScores_eq_some_iff.mp scored) with
    ⟨permutedScores, permutedScored, scoresOrder⟩
  exact ⟨permutedScores, plainScores_eq_some_iff.mpr permutedScored, scoresOrder⟩

mutual

/-- A tree and a rearrangement of it have the same plain score. -/
theorem plainScore_of_rearranges
    {tree : TypeTree} (other : TypeTree) (rearranges : tree.Rearranges other)
    {depth : Int} {score : K}
    (scored : tree.plainScore (scoring.scorer isCapped) depth = some score) :
    other.plainScore (scoring.scorer isCapped) depth = some score := by
  cases other with
  | node otherHead others =>
      cases rearranges with
      | @node head _ children permuted _ kind members extended order parts =>
          simp only [TypeTree.plainScore, Option.bind_eq_bind, Option.bind_eq_some_iff,
            Option.pure_def, Option.some.injEq] at scored ⊢
          rcases scored with ⟨scores, childrenScored, factor, weighed, rfl⟩
          have nonnegative := plainScores_nonneg head.kind children childrenScored
          rcases exists_plainScores_of_perm order childrenScored with
            ⟨permutedScores, permutedScored, scoresOrder⟩
          rw [kind] at permutedScored
          have othersScored := plainScores_of_rearranges otherHead.kind others parts permutedScored
          have rules : Rule.ofNode (TypeTree.node head children).rootNode =
              Rule.ofNode (TypeTree.node otherHead others).rootNode := by
            apply Rule.ofNode_congr kind members extended
            simpa [TypeTree.rootNode] using order.length_eq.trans parts.length_eq
          have totals := scoring.total_eq_of_perm isCapped rules scoresOrder.symm nonnegative
          exact ⟨permutedScores, othersScored, factor, weighed, by rw [totals]⟩

theorem plainScores_of_rearranges
    (parent : TypeKind) {trees : List TypeTree} (others : List TypeTree)
    (parts : List.Forall₂ TypeTree.Rearranges trees others) {depth : Int} {scores : List K}
    (scored : TypeTree.plainScores (scoring.scorer isCapped) parent trees depth = some scores) :
    TypeTree.plainScores (scoring.scorer isCapped) parent others depth = some scores := by
  cases parts with
  | nil => exact scored
  | @cons tree other rest others rearranges restParts =>
      by_cases followed : follows parent other.head.kind = true
      · rcases exists_score_of_plainScores_cons (rearranges.kind_eq ▸ followed) scored with
          ⟨score, restScores, treeScored, restScored, rfl⟩
        rw [TypeTree.plainScores, if_pos followed,
          plainScore_of_rearranges other rearranges treeScored,
          plainScores_of_rearranges parent others restParts restScored]
        rfl
      · rw [plainScores_cons_of_not_follows (rearranges.kind_eq ▸ followed)] at scored
        rw [plainScores_cons_of_not_follows followed]
        exact plainScores_of_rearranges parent others restParts scored

end

end ExactScoring

/-! ## Every node of a tree -/

/-- Every node of a graded graph is finished with its total, weighed at its depth. -/
theorem Visits.exists_scores_of_path
    {α : Type} {scorer : Scorer α} (weighs : scorer.arithmetic.Weighs)
    {graph : TypeGraph} {root : Nat} (graded : Graded graph root) {depth : Int}
    (entered : 0 ≤ depth) {score : α} {after : ScoreCache Nat α} {journal : List (Finish α)}
    (visits : Visits scorer graph [⟨root, depth⟩] .empty [score] after journal)
    {target length : Nat} (path : ScoredPath graph root target length) :
    ∃ scores factor,
      List.Forall₂ (fun child found => after.get? child = some found)
          (scoredChildren graph (graph.nodeAt target)) scores ∧
        scorer.arithmetic.weight? (depth + length) = some factor ∧
        after.get? target =
          some (scorer.arithmetic.mul (scorer.total (graph.nodeAt target) scores) factor) := by
  rcases visits.plain_of_untouched graded fun _ _ _ => ⟨rfl, List.not_mem_nil⟩ with ⟨_, below⟩
  rcases weighs (depth + length) (by omega) with ⟨factor, weighed⟩
  rcases below target length path with ⟨found, finished, plain⟩
  have children : ∀ child ∈ scoredChildren graph (graph.nodeAt target),
      after.get? child = some ((after.get? child).getD score) ∧
        scorer.Plain graph child (depth + length + 1) ((after.get? child).getD score) := by
    intro child edge
    rcases below child (length + 1) (path.step edge) with ⟨childFound, childFinished, childPlain⟩
    rw [childFinished, Option.getD_some]
    rw [Nat.cast_add_one, ← add_assoc] at childPlain
    exact ⟨rfl, childPlain⟩
  refine ⟨(scoredChildren graph (graph.nodeAt target)).map fun child =>
    (after.get? child).getD score, factor, ?_, weighed, ?_⟩
  · rw [List.forall₂_map_right_iff, List.forall₂_same]
    exact fun child edge => (children child edge).1
  · rw [finished, Option.some.injEq]
    refine plain.unique (.intro ?_ weighed)
    rw [List.forall₂_map_right_iff, List.forall₂_same]
    exact fun child edge => (children child edge).2

/-- A fresh cache is left with scores that are not negative. -/
theorem Visits.get?_nonneg
    {scoring : ExactScoring K} {graph : TypeGraph} {requests : List Request}
    {scores : List K} {after : ScoreCache Nat K} {journal : List (Finish K)}
    (visits : Visits (scoring.scorer true) graph requests .empty scores after journal)
    {target : Nat} {score : K} (finished : after.get? target = some score) : 0 ≤ score := by
  rcases visits.uncapped .empty with ⟨_, _, _, _, _, agree, _⟩
  rcases agree.exists_finished finished with ⟨_, _, same⟩
  exact same.first_nonneg

/-- With caps, every node of a tree is finished with its base and what its scored children
contribute, cut at the ceiling and weighed at its depth. -/
theorem ExactScoring.exists_scores_of_path
    (scoring : ExactScoring K) {tree : TypeTree} (distinct : tree.Distinct) {depth : Int}
    (entered : 0 ≤ depth) {score : K} {after : ScoreCache Nat K} {journal : List (Finish K)}
    (visits : Visits (scoring.scorer true) tree.toGraph [⟨tree.identity, depth⟩] .empty [score]
      after journal)
    {target length : Nat} (path : ScoredPath tree.toGraph tree.identity target length) :
    ∃ scores raw,
      List.Forall₂ (fun child found => after.get? child = some found)
          (scoredChildren tree.toGraph (tree.toGraph.nodeAt target)) scores ∧
        (scoring.scorer true).GivesRaw tree.toGraph (tree.toGraph.nodeAt target) scores raw ∧
        raw = min scoring.ceiling
          ((scoring.scorer true).base (tree.toGraph.nodeAt target) +
            (scores.map
              ((scoring.scorer true).contribution (tree.toGraph.nodeAt target))).sum) ∧
        after.get? target = some (raw * scoring.weight (depth + length).toNat) := by
  rcases visits.exists_scores_of_path (Arithmetic.exact_weighs _ _) (graded_of_distinct distinct)
    entered path with ⟨scores, factor, children, weighed, finished⟩
  rcases scoring.weight?_eq_some weighed with rfl
  have nonnegative : ∀ score ∈ scores, 0 ≤ score := by
    intro found member
    rcases exists_related_of_mem children member with ⟨child, _, childFinished⟩
    exact visits.get?_nonneg childFinished
  exact ⟨scores, _, children, Scorer.givesRaw_total _ _ _ _,
    scoring.total_capped_eq _ nonnegative, finished⟩

/--
In exact arithmetic, with a penalty and an error threshold that are not negative and at every
depth from nought on, a type tree and a rearrangement of it have the same score in fresh
caches, with or without caps.  With caps, every node that is scored is finished with a raw
score times the weight of its depth, and the raw score is the smaller of twice the error
threshold and the base of the node plus what its scored children contribute.
-/
theorem order_of_parts_does_not_matter
    (policy : Policy ℝ) (penalty : 0 ≤ policy.interfacePenalty)
    (threshold : 0 ≤ policy.errorThreshold) (depth : Int) (entered : 0 ≤ depth) :
    (∀ tree other : TypeTree, tree.Distinct → other.Distinct → tree.Rearranges other →
      ∃ score after otherAfter,
        (⟨reals, policy⟩ : Scorer ℝ).Answers tree.toGraph ⟨tree.identity, depth⟩ .empty
            score after ∧
          (⟨reals, policy⟩ : Scorer ℝ).Answers other.toGraph ⟨other.identity, depth⟩ .empty
            score otherAfter) ∧
      (policy.performanceMode = true → ∀ tree : TypeTree, tree.Distinct →
        ∃ score after,
          (⟨reals, policy⟩ : Scorer ℝ).Answers tree.toGraph ⟨tree.identity, depth⟩ .empty
              score after ∧
            ∀ target length, ScoredPath tree.toGraph tree.identity target length →
              ∃ scores raw,
                List.Forall₂ (fun child found => after.get? child = some found)
                    (scoredChildren tree.toGraph (tree.toGraph.nodeAt target)) scores ∧
                  (⟨reals, policy⟩ : Scorer ℝ).GivesRaw tree.toGraph (tree.toGraph.nodeAt target)
                    scores raw ∧
                  raw = min (2 * policy.errorThreshold)
                    ((⟨reals, policy⟩ : Scorer ℝ).base (tree.toGraph.nodeAt target) +
                      (scores.map ((⟨reals, policy⟩ : Scorer ℝ).contribution
                        (tree.toGraph.nodeAt target))).sum) ∧
                  after.get? target = some (raw * logWeight (depth + length).toNat)) := by
  let scoring := realScoring policy penalty threshold
  have scorer : (⟨reals, policy⟩ : Scorer ℝ) = scoring.scorer policy.performanceMode := rfl
  have weighs : (scoring.scorer policy.performanceMode).arithmetic.Weighs :=
    Arithmetic.exact_weighs _ _
  rw [scorer]
  constructor
  · intro tree other distinct otherDistinct rearranges
    rcases exists_answer_of_distinct weighs distinct entered with
      ⟨score, after, answers, scored⟩
    rcases exists_answer_of_distinct weighs otherDistinct entered with
      ⟨otherScore, otherAfter, otherAnswers, otherScored⟩
    rw [ExactScoring.plainScore_of_rearranges other rearranges scored,
      Option.some.injEq] at otherScored
    subst otherScored
    exact ⟨score, after, otherAfter, answers, otherAnswers⟩
  · intro capped tree distinct
    rcases Scorer.exists_answer weighs tree.toGraph .empty ⟨tree.identity, depth⟩ entered with
      ⟨score, after, journal, visits, answers⟩
    rw [capped] at visits answers ⊢
    refine ⟨score, after, answers, ?_⟩
    intro target length path
    exact scoring.exists_scores_of_path distinct entered visits path

/-- A union of a tuple with an optional text and an array of texts. -/
def tupleFirst : TypeTree :=
  bareTree 0 .union 0
    [bareTree 1 .tuple 0 [bareTree 2 .optional 0 [], bareTree 3 .primitive 0 []],
      bareTree 4 .array 0 [bareTree 5 .primitive 0 []]]

/-- The same union with the members the other way round, and with those of the tuple so too. -/
def tupleLast : TypeTree :=
  bareTree 0 .union 0
    [bareTree 1 .array 0 [bareTree 2 .primitive 0 []],
      bareTree 3 .tuple 0 [bareTree 4 .primitive 0 [], bareTree 5 .optional 0 []]]

/--
Turning a union and a tuple inside it round changes no score.  Of the two members of the tuple
only the text is scored, and the ceiling is fifty.
-/
theorem tupleLast_scores_like_tupleFirst :
    tupleFirst.Distinct ∧ tupleLast.Distinct ∧ tupleFirst.Rearranges tupleLast ∧
      (∃ score after otherAfter,
        (⟨reals, .standard reals⟩ : Scorer ℝ).Answers tupleFirst.toGraph ⟨0, 1⟩ .empty
            score after ∧
          (⟨reals, .standard reals⟩ : Scorer ℝ).Answers tupleLast.toGraph ⟨0, 1⟩ .empty
            score otherAfter) ∧
      ∃ score after text,
        (⟨reals, .standard reals⟩ : Scorer ℝ).Answers tupleFirst.toGraph ⟨0, 1⟩ .empty
            score after ∧
          after.get? 3 = some text ∧
          after.get? 1 = some (min 50 (4 + text) * logWeight 2) := by
  have distinct : tupleFirst.Distinct := by
    unfold TypeTree.Distinct
    decide
  have otherDistinct : tupleLast.Distinct := by
    unfold TypeTree.Distinct
    decide
  have leaf (identity other : Nat) (kind : TypeKind) :
      (bareTree identity kind 0 []).Rearranges (bareTree other kind 0 []) :=
    .node rfl rfl rfl .nil .nil
  have tuple :
      (bareTree 1 .tuple 0 [bareTree 2 .optional 0 [], bareTree 3 .primitive 0 []]).Rearranges
        (bareTree 3 .tuple 0 [bareTree 4 .primitive 0 [], bareTree 5 .optional 0 []]) :=
    .node rfl rfl rfl (.swap _ _ _) (.cons (leaf 3 4 _) (.cons (leaf 2 5 _) .nil))
  have array : (bareTree 4 .array 0 [bareTree 5 .primitive 0 []]).Rearranges
      (bareTree 1 .array 0 [bareTree 2 .primitive 0 []]) :=
    .node rfl rfl rfl (.refl _) (.cons (leaf 5 2 _) .nil)
  have rearranges : tupleFirst.Rearranges tupleLast :=
    .node rfl rfl rfl (.swap _ _ _) (.cons array (.cons tuple .nil))
  have penalty : 0 ≤ (Policy.standard reals).interfacePenalty := by
    simp [Policy.standard, reals, Arithmetic.ofNat, Arithmetic.exact]
  have threshold : (Policy.standard reals).errorThreshold = 25 := by
    norm_num [Policy.standard, Policy.standardError, reals, Arithmetic.ofNat, Arithmetic.exact]
  rcases order_of_parts_does_not_matter (.standard reals) penalty (by rw [threshold]; norm_num) 1
    (by decide) with ⟨alike, finishes⟩
  refine ⟨distinct, otherDistinct, rearranges,
    alike tupleFirst tupleLast distinct otherDistinct rearranges, ?_⟩
  rcases finishes rfl tupleFirst distinct with ⟨score, after, answers, below⟩
  have edge : ScoredEdge tupleFirst.toGraph 0 1 := by decide
  rcases below 1 1 (ScoredPath.here.step edge) with ⟨scores, raw, children, _, summed, finished⟩
  have followed : scoredChildren tupleFirst.toGraph (tupleFirst.toGraph.nodeAt 1) = [3] := by decide
  rw [followed, List.forall₂_cons_left_iff] at children
  rcases children with ⟨text, _, textFinished, none, rfl⟩
  cases none
  have node : tupleFirst.toGraph.nodeAt 1 = ⟨1, .tuple, 0, 0, [2, 3]⟩ := rfl
  have base : (⟨reals, .standard reals⟩ : Scorer ℝ).base ⟨1, .tuple, 0, 0, [2, 3]⟩ = 4 := by
    norm_num [Scorer.base, Rule.ofNode, Scorer.amount, Addend.whole, reals, Arithmetic.exact]
  have contributed : (⟨reals, .standard reals⟩ : Scorer ℝ).contribution
      ⟨1, .tuple, 0, 0, [2, 3]⟩ text = text := rfl
  have ceiling : (2 : ℝ) * 25 = 50 := by norm_num
  rw [node, threshold, ceiling, base, List.map_singleton, List.sum_singleton,
    contributed] at summed
  subst summed
  exact ⟨score, after, text, answers, textFinished, finished⟩

end TypeGauge.Score
