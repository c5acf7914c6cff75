import TypeGauge.Proofs.Check.ExactCompletion
import TypeGauge.Proofs.Score.TreeRecursion
import Mathlib.Algebra.Order.BigOperators.Group.List

/-!
# More structure never lowers a score

A type tree embeds in another when the other has more members or more extended types, or
type expressions inserted anywhere among its children, at any level.  In exact arithmetic
such a tree scores at least as much, also when it stands deeper.

Without caps the total of a node is a plain sum.  Every addend of its rule grows with the
numbers of members, extended types and children, and children that are inserted add
something from nought on.  With caps the total is the smaller of that sum and the ceiling,
so it grows as well, and so does its product with a weight that grows with the depth.

Identities are distinct, as they are in every tree that is built, so a fresh cache gives
the plain scores of both trees.
-/

namespace TypeGauge.Types

/-- The second tree is the first one, possibly with more members, extended types and children. -/
inductive TypeTree.Embeds : TypeTree → TypeTree → Prop
  | node {head other : TypeHead} {children others : List TypeTree}
      (kind : head.kind = other.kind)
      (members : head.memberCount ≤ other.memberCount)
      (extended : head.extendsCount ≤ other.extendsCount)
      (inserted : List.SublistForall₂ TypeTree.Embeds children others) :
      TypeTree.Embeds (.node head children) (.node other others)

theorem TypeTree.Embeds.kind_eq {tree other : TypeTree} (embeds : tree.Embeds other) :
    tree.head.kind = other.head.kind := by
  cases embeds with
  | node kind members extended inserted => exact kind

end TypeGauge.Types

namespace TypeGauge.Score

open TypeGauge.Setup TypeGauge.Types

/-! ## Rules -/

/-- Addends of one sort, of which the second is not the smaller one. -/
inductive Addend.Le : Addend → Addend → Prop
  | penalty : Addend.Le .penalty .penalty
  | halves {count other : Nat} (fewer : count ≤ other) : Addend.Le (.halves count) (.halves other)

/-- Rules that add up alike, of which the second adds no less. -/
structure Rule.Le (rule other : Rule) : Prop where
  opening : List.Forall₂ Addend.Le rule.opening other.opening
  surcharge : rule.surcharge = other.surcharge
  closing : List.Forall₂ Addend.Le rule.closing other.closing

/-- Nodes of one kind have rules that grow with what the nodes count. -/
theorem Rule.ofNode_le
    {node other : TypeNode} (kind : node.kind = other.kind)
    (members : node.memberCount ≤ other.memberCount)
    (extended : node.extendsCount ≤ other.extendsCount)
    (children : node.children.length ≤ other.children.length) :
    (Rule.ofNode node).Le (Rule.ofNode other) := by
  have whole {count more : Nat} (fewer : count ≤ more) :
      (Addend.whole count).Le (Addend.whole more) :=
    .halves (Nat.mul_le_mul_left 2 fewer)
  have same (count : Nat) : (Addend.whole count).Le (Addend.whole count) :=
    whole le_rfl
  rw [Rule.ofNode, Rule.ofNode, kind]
  cases other.kind with
  | primitive | rest | optional | unknown => exact ⟨.cons (same 1) .nil, rfl, .nil⟩
  | shortCircuit => exact ⟨.nil, rfl, .nil⟩
  | interface =>
      refine ⟨.cons .penalty (.cons (whole ?_) (.cons (whole ?_) .nil)), rfl, .nil⟩
      · exact Nat.mul_le_mul_left 5 extended
      · exact Nat.mul_le_mul_left 2 members
  | typeLiteral => exact ⟨.cons (same 2) (.cons (.halves members) .nil), rfl, .nil⟩
  | union =>
      refine ⟨.nil, rfl, .cons (whole ?_) .nil⟩
      exact Nat.mul_le_mul_left 2 (Nat.sub_le_sub_right children 1)
  | intersection => exact ⟨.nil, rfl, .cons (whole (Nat.mul_le_mul_left 3 children)) .nil⟩
  | array => exact ⟨.nil, rfl, .cons (same 1) .nil⟩
  | tuple =>
      exact ⟨.cons (same 1) .nil, rfl, .cons (.halves (Nat.mul_le_mul_left 3 children)) .nil⟩
  | reference | function => exact ⟨.cons (same 2) .nil, rfl, .nil⟩
  | conditional => exact ⟨.cons (same 3) .nil, rfl, .nil⟩
  | mapped => exact ⟨.cons (same 5) .nil, rfl, .nil⟩

/-! ## Totals -/

variable {K : Type} [Field K] [LinearOrder K] [IsStrictOrderedRing K]

namespace ExactScoring

variable (scoring : ExactScoring K)

theorem amount_nonneg (addend : Addend) : 0 ≤ (scoring.scorer false).amount addend :=
  (scoring.amount_sameBelow addend).second_nonneg

theorem amount_le {addend other : Addend} (le : addend.Le other) :
    (scoring.scorer false).amount addend ≤ (scoring.scorer false).amount other := by
  cases le with
  | penalty => exact le_rfl
  | @halves count other fewer =>
      have cast : (count : K) ≤ other := Nat.cast_le.mpr fewer
      exact div_le_div_of_nonneg_right cast zero_le_two

theorem sum_amounts_le {addends others : List Addend} (le : List.Forall₂ Addend.Le addends others) :
    (addends.map (scoring.scorer false).amount).sum ≤
      (others.map (scoring.scorer false).amount).sum := by
  apply List.Forall₂.sum_le_sum
  rw [List.forall₂_map_left_iff, List.forall₂_map_right_iff]
  exact le.imp fun _ _ => scoring.amount_le

theorem withSurcharge_nonneg (surcharge : Option Addend) {score : K} (nonnegative : 0 ≤ score) :
    0 ≤ (scoring.scorer false).withSurcharge surcharge score := by
  cases surcharge with
  | none => exact nonnegative
  | some addend => exact add_nonneg nonnegative (scoring.amount_nonneg addend)

theorem withSurcharge_le (surcharge : Option Addend) {score other : K} (le : score ≤ other) :
    (scoring.scorer false).withSurcharge surcharge score ≤
      (scoring.scorer false).withSurcharge surcharge other := by
  cases surcharge with
  | none => exact le
  | some addend => exact add_le_add_left le _

/-- Without caps the total of a node is a plain sum. -/
theorem total_uncapped (node : TypeNode) (scores : List K) :
    (scoring.scorer false).total node scores =
      ((Rule.ofNode node).opening.map (scoring.scorer false).amount).sum +
        (scores.map ((scoring.scorer false).withSurcharge (Rule.ofNode node).surcharge)).sum +
        ((Rule.ofNode node).closing.map (scoring.scorer false).amount).sum := by
  have summed {β : Type} (value : β → K) (items : List β) (current : K) :
      items.foldl (fun sum item => (scoring.scorer false).addScore sum (value item)) current =
        current + (items.map value).sum := by
    simp only [addScore_uncapped]
    rw [← List.foldl_map]
    exact List.foldl_eq_apply_foldr
  have nothing : (scoring.scorer false).arithmetic.nothing = 0 := by
    simp [scorer, arithmetic, Arithmetic.nothing, Arithmetic.exact]
  simp only [Scorer.total, Scorer.addAll, summed, nothing, zero_add]

/-- A total grows with the rule and with the scores, also when further scores are inserted. -/
theorem total_uncapped_le
    {node other : TypeNode} (rules : (Rule.ofNode node).Le (Rule.ofNode other))
    {scores others : List K} (inserted : List.SublistForall₂ (· ≤ ·) scores others)
    (nonnegative : ∀ score ∈ others, 0 ≤ score) :
    (scoring.scorer false).total node scores ≤ (scoring.scorer false).total other others := by
  rw [total_uncapped, total_uncapped, rules.surcharge]
  have charged : (scores.map
      ((scoring.scorer false).withSurcharge (Rule.ofNode other).surcharge)).sum ≤
        (others.map ((scoring.scorer false).withSurcharge (Rule.ofNode other).surcharge)).sum := by
    apply List.SublistForall₂.sum_le_sum
    · rw [List.sublistForall₂_map_left_iff, List.sublistForall₂_map_right_iff]
      rcases List.sublistForall₂_iff.mp inserted with ⟨chosen, le, sublist⟩
      refine List.sublistForall₂_iff.mpr ⟨chosen, le.imp ?_, sublist⟩
      intro score other
      exact scoring.withSurcharge_le _
    · rw [List.forall_mem_map]
      intro score member
      exact scoring.withSurcharge_nonneg _ (nonnegative score member)
  exact add_le_add (add_le_add (scoring.sum_amounts_le rules.opening) charged)
    (scoring.sum_amounts_le rules.closing)

theorem total_caps_self (node : TypeNode) {scores : List K}
    (nonnegative : ∀ score ∈ scores, 0 ≤ score) :
    Caps scoring.ceiling ((scoring.scorer true).total node scores)
      ((scoring.scorer false).total node scores) := by
  apply scoring.total_caps
  rw [List.forall₂_same]
  intro score member
  exact .refl _ (nonnegative score member)

theorem total_nonneg (isCapped : Bool) (node : TypeNode) {scores : List K}
    (nonnegative : ∀ score ∈ scores, 0 ≤ score) :
    0 ≤ (scoring.scorer isCapped).total node scores := by
  have caps := scoring.total_caps_self node nonnegative
  cases isCapped with
  | false => exact caps.plain_nonneg
  | true =>
      rw [caps.capped_eq]
      exact le_min scoring.ceiling_nonneg caps.plain_nonneg

/-- In either mode, a total grows with the rule and with the scores. -/
theorem total_le (isCapped : Bool) {node other : TypeNode}
    (rules : (Rule.ofNode node).Le (Rule.ofNode other))
    {scores others : List K} (inserted : List.SublistForall₂ (· ≤ ·) scores others)
    (nonnegative : ∀ score ∈ scores, 0 ≤ score) (othersNonnegative : ∀ score ∈ others, 0 ≤ score) :
    (scoring.scorer isCapped).total node scores ≤ (scoring.scorer isCapped).total other others := by
  have plain := scoring.total_uncapped_le rules inserted othersNonnegative
  cases isCapped with
  | false => exact plain
  | true =>
      rw [(scoring.total_caps_self node nonnegative).capped_eq,
        (scoring.total_caps_self other othersNonnegative).capped_eq]
      exact min_le_min_left _ plain

/-! ## Trees -/

section Trees

variable {scoring} {isCapped : Bool}

/-- A plain score is the total of a node times the weight of its depth. -/
theorem exists_scores_of_plainScore
    {head : TypeHead} {children : List TypeTree} {depth : Int} {score : K}
    (scored : (TypeTree.node head children).plainScore (scoring.scorer isCapped) depth =
      some score) :
    ∃ scores,
      TypeTree.plainScores (scoring.scorer isCapped) head.kind children (depth + 1) =
          some scores ∧
        score = (scoring.scorer isCapped).total (TypeTree.node head children).rootNode scores *
          scoring.weight depth.toNat := by
  simp only [TypeTree.plainScore, Option.bind_eq_bind, Option.bind_eq_some_iff, Option.pure_def,
    Option.some.injEq] at scored
  rcases scored with ⟨scores, childrenScored, factor, weighed, rfl⟩
  rw [scoring.weight?_eq_some weighed]
  exact ⟨scores, childrenScored, rfl⟩

theorem exists_score_of_plainScores_cons
    {parent : TypeKind} {tree : TypeTree} {rest : List TypeTree} {depth : Int} {scores : List K}
    (followed : follows parent tree.head.kind = true)
    (scored : TypeTree.plainScores (scoring.scorer isCapped) parent (tree :: rest) depth =
      some scores) :
    ∃ score others,
      tree.plainScore (scoring.scorer isCapped) depth = some score ∧
        TypeTree.plainScores (scoring.scorer isCapped) parent rest depth = some others ∧
          scores = score :: others := by
  simp only [TypeTree.plainScores, followed, if_true, Option.bind_eq_bind, Option.bind_eq_some_iff,
    Option.pure_def, Option.some.injEq] at scored
  rcases scored with ⟨score, treeScored, others, restScored, rfl⟩
  exact ⟨score, others, treeScored, restScored, rfl⟩

theorem plainScores_cons_of_not_follows
    {parent : TypeKind} {tree : TypeTree} (skipped : follows parent tree.head.kind ≠ true)
    (rest : List TypeTree) (depth : Int) :
    TypeTree.plainScores (scoring.scorer isCapped) parent (tree :: rest) depth =
      TypeTree.plainScores (scoring.scorer isCapped) parent rest depth := by
  rw [TypeTree.plainScores, if_neg skipped]

mutual

theorem plainScore_nonneg
    (tree : TypeTree) {depth : Int} {score : K}
    (scored : tree.plainScore (scoring.scorer isCapped) depth = some score) : 0 ≤ score := by
  cases tree with
  | node head children =>
      rcases exists_scores_of_plainScore scored with ⟨scores, childrenScored, rfl⟩
      have nonnegative := plainScores_nonneg head.kind children childrenScored
      exact mul_nonneg (scoring.total_nonneg isCapped _ nonnegative) (scoring.weight_nonneg _)

theorem plainScores_nonneg
    (parent : TypeKind) (trees : List TypeTree) {depth : Int} {scores : List K}
    (scored : TypeTree.plainScores (scoring.scorer isCapped) parent trees depth = some scores) :
    ∀ score ∈ scores, 0 ≤ score := by
  cases trees with
  | nil =>
      rw [TypeTree.plainScores, Option.some.injEq] at scored
      subst scored
      exact List.forall_mem_nil _
  | cons tree rest =>
      by_cases followed : follows parent tree.head.kind = true
      · rcases exists_score_of_plainScores_cons followed scored with
          ⟨score, others, treeScored, restScored, rfl⟩
        rw [List.forall_mem_cons]
        exact ⟨plainScore_nonneg tree treeScored, plainScores_nonneg parent rest restScored⟩
      · rw [plainScores_cons_of_not_follows followed] at scored
        exact plainScores_nonneg parent rest scored

end

-- Both recursions are on the tree that has more: its children are used up one by one, whether
-- they stand for a child of the other tree or were inserted.
mutual

/-- A tree that embeds in another scores no more than the other does at the same depth or below. -/
theorem plainScore_le
    (grows : Monotone scoring.weight) {tree : TypeTree} (other : TypeTree)
    (embeds : tree.Embeds other) {depth deeper : Int} (below : depth ≤ deeper)
    {score otherScore : K}
    (scored : tree.plainScore (scoring.scorer isCapped) depth = some score)
    (otherScored : other.plainScore (scoring.scorer isCapped) deeper = some otherScore) :
    score ≤ otherScore := by
  cases other with
  | node otherHead others =>
      cases embeds with
      | @node head _ children _ kind members extended inserted =>
          rcases exists_scores_of_plainScore scored with ⟨scores, childrenScored, rfl⟩
          rcases exists_scores_of_plainScore otherScored with ⟨otherScores, othersScored, rfl⟩
          rw [kind] at childrenScored
          have nonnegative := plainScores_nonneg otherHead.kind children childrenScored
          have othersNonnegative := plainScores_nonneg otherHead.kind others othersScored
          have scoresInserted : List.SublistForall₂ (· ≤ ·) scores otherScores :=
            plainScores_le grows otherHead.kind others inserted (by omega) childrenScored
              othersScored
          have longer : children.length ≤ others.length := by
            rcases List.sublistForall₂_iff.mp inserted with ⟨chosen, related, sublist⟩
            exact related.length_eq.trans_le sublist.length_le
          have rules : (Rule.ofNode (TypeTree.node head children).rootNode).Le
              (Rule.ofNode (TypeTree.node otherHead others).rootNode) := by
            apply Rule.ofNode_le kind members extended
            simpa [TypeTree.rootNode] using longer
          have totals := scoring.total_le isCapped rules scoresInserted nonnegative
            othersNonnegative
          have weights : scoring.weight depth.toNat ≤ scoring.weight deeper.toNat :=
            grows (Int.toNat_le_toNat below)
          exact mul_le_mul totals weights (scoring.weight_nonneg _)
            (scoring.total_nonneg isCapped _ othersNonnegative)

theorem plainScores_le
    (grows : Monotone scoring.weight) (parent : TypeKind) {trees : List TypeTree}
    (others : List TypeTree) (inserted : List.SublistForall₂ TypeTree.Embeds trees others)
    {depth deeper : Int} (below : depth ≤ deeper) {scores otherScores : List K}
    (scored : TypeTree.plainScores (scoring.scorer isCapped) parent trees depth = some scores)
    (othersScored : TypeTree.plainScores (scoring.scorer isCapped) parent others deeper =
      some otherScores) :
    List.SublistForall₂ (· ≤ ·) scores otherScores := by
  cases inserted with
  | nil =>
      rw [TypeTree.plainScores, Option.some.injEq] at scored
      subst scored
      exact .nil
  | @cons tree other rest others embeds restInserted =>
      by_cases followed : follows parent other.head.kind = true
      · rcases exists_score_of_plainScores_cons (embeds.kind_eq ▸ followed) scored with
          ⟨score, restScores, treeScored, restScored, rfl⟩
        rcases exists_score_of_plainScores_cons followed othersScored with
          ⟨otherScore, otherRest, otherScored, otherRestScored, rfl⟩
        exact .cons (plainScore_le grows other embeds below treeScored otherScored)
          (plainScores_le grows parent others restInserted below restScored otherRestScored)
      · rw [plainScores_cons_of_not_follows (embeds.kind_eq ▸ followed)] at scored
        rw [plainScores_cons_of_not_follows followed] at othersScored
        exact plainScores_le grows parent others restInserted below scored othersScored
  | @cons_right other _ others restInserted =>
      by_cases followed : follows parent other.head.kind = true
      · rcases exists_score_of_plainScores_cons followed othersScored with
          ⟨otherScore, otherRest, otherScored, otherRestScored, rfl⟩
        exact .cons_right
          (plainScores_le grows parent others restInserted below scored otherRestScored)
      · rw [plainScores_cons_of_not_follows followed] at othersScored
        exact plainScores_le grows parent others restInserted below scored othersScored

end

end Trees

end ExactScoring

/-- Scoring a tree with distinct identities in a fresh cache gives the plain score of the tree. -/
theorem exists_answer_of_distinct
    {α : Type} {scorer : Scorer α} (weighs : scorer.arithmetic.Weighs)
    {tree : TypeTree} (distinct : tree.Distinct) {depth : Int} (entered : 0 ≤ depth) :
    ∃ score after, scorer.Answers tree.toGraph ⟨tree.identity, depth⟩ .empty score after ∧
      tree.plainScore scorer depth = some score := by
  rcases Scorer.exists_answer weighs tree.toGraph .empty ⟨tree.identity, depth⟩ entered with
    ⟨score, after, journal, visits, answers⟩
  have plain := (visits.plain_of_untouched (graded_of_distinct distinct)
    fun _ _ _ => ⟨rfl, List.not_mem_nil⟩).1
  rcases tree.exists_plainScore weighs depth entered with ⟨treeScore, scored⟩
  rw [← plain.unique (tree.plain_of_plainScore distinct.toGraph_holds scored)] at scored
  exact ⟨score, after, answers, scored⟩

theorem logWeight_monotone : Monotone logWeight := by
  intro depth deeper below
  have cast : (depth : ℝ) ≤ deeper := Nat.cast_le.mpr below
  rw [logWeight_eq, logWeight_eq]
  exact Real.logb_le_logb_of_le one_lt_two (by positivity) (by linarith)

/--
In exact arithmetic, with a penalty and an error threshold that are not negative and with
or without caps, take a type tree that embeds in another, and for the other the same depth,
from nought on, or one below it.  Each has a score in a fresh cache, the scores are not
negative, and the first one is not the larger.
-/
theorem more_structure_never_lowers_a_score
    (policy : Policy ℝ) (penalty : 0 ≤ policy.interfacePenalty)
    (threshold : 0 ≤ policy.errorThreshold)
    (tree other : TypeTree) (distinct : tree.Distinct) (otherDistinct : other.Distinct)
    (embeds : tree.Embeds other)
    (depth deeper : Int) (entered : 0 ≤ depth) (below : depth ≤ deeper) :
    ∃ score otherScore after otherAfter,
      (⟨reals, policy⟩ : Scorer ℝ).Answers tree.toGraph ⟨tree.identity, depth⟩ .empty
          score after ∧
        (⟨reals, policy⟩ : Scorer ℝ).Answers other.toGraph ⟨other.identity, deeper⟩ .empty
          otherScore otherAfter ∧
        0 ≤ score ∧ score ≤ otherScore := by
  have scorer : (⟨reals, policy⟩ : Scorer ℝ) =
      (realScoring policy penalty threshold).scorer policy.performanceMode :=
    rfl
  rw [scorer]
  have weighs : ((realScoring policy penalty threshold).scorer
      policy.performanceMode).arithmetic.Weighs :=
    Arithmetic.exact_weighs _ _
  rcases exists_answer_of_distinct weighs distinct entered with
    ⟨score, after, answers, scored⟩
  rcases exists_answer_of_distinct weighs otherDistinct (entered.trans below) with
    ⟨otherScore, otherAfter, otherAnswers, otherScored⟩
  refine ⟨score, otherScore, after, otherAfter, answers, otherAnswers, ?_, ?_⟩
  · exact ExactScoring.plainScore_nonneg tree scored
  · exact ExactScoring.plainScore_le logWeight_monotone other embeds below scored otherScored

/-- A type expression of a kind with so many members. -/
def bareTree (identity : Nat) (kind : TypeKind) (memberCount : Nat) (children : List TypeTree) :
    TypeTree :=
  .node ⟨identity, kind, .null, memberCount, 0, none, .null⟩ children

/-- A literal with one member, a union of a text. -/
def smallLiteral : TypeTree :=
  bareTree 0 .typeLiteral 1 [bareTree 1 .union 0 [bareTree 2 .primitive 0 []]]

/-- The same literal with a tuple before the member and an array before the text. -/
def largeLiteral : TypeTree :=
  bareTree 0 .typeLiteral 2
    [bareTree 1 .tuple 0 [bareTree 2 .optional 0 [], bareTree 3 .primitive 0 []],
      bareTree 4 .union 0
        [bareTree 5 .array 0 [bareTree 6 .primitive 0 []], bareTree 7 .primitive 0 []]]

/-- What is inserted at two levels of a literal does not lower its score one level deeper. -/
theorem largeLiteral_scores_no_less :
    smallLiteral.Distinct ∧ largeLiteral.Distinct ∧ smallLiteral.Embeds largeLiteral ∧
      ∃ score otherScore after otherAfter,
        (⟨reals, .standard reals⟩ : Scorer ℝ).Answers smallLiteral.toGraph ⟨0, 1⟩ .empty
            score after ∧
          (⟨reals, .standard reals⟩ : Scorer ℝ).Answers largeLiteral.toGraph ⟨0, 2⟩ .empty
            otherScore otherAfter ∧
          0 ≤ score ∧ score ≤ otherScore := by
  have distinct : smallLiteral.Distinct := by
    unfold TypeTree.Distinct
    decide
  have otherDistinct : largeLiteral.Distinct := by
    unfold TypeTree.Distinct
    decide
  have text (identity other : Nat) :
      (bareTree identity .primitive 0 []).Embeds (bareTree other .primitive 0 []) :=
    .node rfl le_rfl le_rfl .nil
  have union : (bareTree 1 .union 0 [bareTree 2 .primitive 0 []]).Embeds
      (bareTree 4 .union 0
        [bareTree 5 .array 0 [bareTree 6 .primitive 0 []], bareTree 7 .primitive 0 []]) :=
    .node rfl le_rfl le_rfl (.cons_right (.cons (text 2 7) .nil))
  have embeds : smallLiteral.Embeds largeLiteral :=
    .node rfl (by decide) le_rfl (.cons_right (.cons union .nil))
  refine ⟨distinct, otherDistinct, embeds, ?_⟩
  apply more_structure_never_lowers_a_score (.standard reals) _ _ smallLiteral largeLiteral
    distinct otherDistinct embeds 1 2 (by decide) (by decide)
  · simp [Policy.standard, reals, Arithmetic.ofNat, Arithmetic.exact]
  · simp [Policy.standard, reals, Arithmetic.ofNat, Arithmetic.exact]

end TypeGauge.Score
