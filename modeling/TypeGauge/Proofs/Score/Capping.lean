import TypeGauge.Proofs.Score.Renaming
import Mathlib.Algebra.Order.Field.Basic
import Mathlib.Data.List.Forall2

/-!
# Capped sums

In performance mode every sum is capped at a ceiling, and capped scores are then
weighed and added up again.  In exact arithmetic none of this can be seen below the
ceiling.  A capped total is the smaller of the ceiling and the total without caps,
and a score at a depth is the smaller of the weighed ceiling and the score without
caps.  A weight is nought or at least one, so the weighed ceiling is never a smaller
bound than the ceiling unless both scores are nought.

`Visits.uncapped` follows a derivation with caps by one without: the same nodes are
finished in the same order and at the same depths.
-/

namespace TypeGauge.Score

open TypeGauge.Setup TypeGauge.Types

variable {K : Type} [Field K] [LinearOrder K] [IsStrictOrderedRing K]

/-- Scores as exact numbers, with a weight for every depth from nought on. -/
def Arithmetic.exact (weight : Nat → K) (show? : K → Option String) : Arithmetic K where
  ofHalves count := count / 2
  add first second := first + second
  mul first second := first * second
  less first second := decide (first < second)
  atMost first second := decide (first ≤ second)
  weight? depth := if 0 ≤ depth then some (weight depth.toNat) else none
  show? := show?

omit [IsStrictOrderedRing K] in
theorem Arithmetic.exact_weighs (weight : Nat → K) (show? : K → Option String) :
    (Arithmetic.exact weight show?).Weighs := by
  intro depth nonnegative
  exact ⟨weight depth.toNat, if_pos nonnegative⟩

/-- Exact scoring under a policy whose penalty and error threshold are not negative. -/
structure ExactScoring (K : Type) [Field K] [LinearOrder K] [IsStrictOrderedRing K] where
  weight : Nat → K
  show? : K → Option String
  policy : Policy K
  weight_zero : weight 0 = 0
  one_le_weight : ∀ depth, 1 ≤ depth → 1 ≤ weight depth
  penalty_nonneg : 0 ≤ policy.interfacePenalty
  error_nonneg : 0 ≤ policy.errorThreshold

namespace ExactScoring

variable (scoring : ExactScoring K)

def arithmetic : Arithmetic K :=
  .exact scoring.weight scoring.show?

/-- The policy with performance mode on or off. -/
def mode (isCapped : Bool) : Policy K :=
  { scoring.policy with performanceMode := isCapped }

/-- The scorer with performance mode on or off. -/
def scorer (isCapped : Bool) : Scorer K :=
  ⟨scoring.arithmetic, scoring.mode isCapped⟩

/-- The ceiling of capped sums. -/
def ceiling : K :=
  2 * scoring.policy.errorThreshold

theorem ceiling_nonneg : 0 ≤ scoring.ceiling :=
  mul_nonneg zero_le_two scoring.error_nonneg

theorem scorer_ceiling (isCapped : Bool) :
    (scorer scoring isCapped).ceiling = scoring.ceiling := by
  simp only [Scorer.ceiling, Policy.ceiling, scorer, mode, arithmetic, Arithmetic.exact,
    Arithmetic.ofNat, ceiling]
  norm_num [mul_comm]

theorem addScore_capped (current addition : K) :
    (scoring.scorer true).addScore current addition =
      min scoring.ceiling (current + addition) := by
  have ceiling := scoring.scorer_ceiling true
  rw [Scorer.addScore, ceiling]
  by_cases above : scoring.ceiling < current + addition
  · simp [scorer, mode, arithmetic, Arithmetic.exact, above, min_eq_left above.le]
  · simp [scorer, mode, arithmetic, Arithmetic.exact, above, min_eq_right (not_lt.mp above)]

theorem addScore_uncapped (current addition : K) :
    (scoring.scorer false).addScore current addition = current + addition := by
  simp [Scorer.addScore, scorer, mode, arithmetic, Arithmetic.exact]

theorem weight_nonneg (depth : Nat) : 0 ≤ scoring.weight depth := by
  rcases Nat.eq_zero_or_pos depth with rfl | positive
  · exact scoring.weight_zero.ge
  · exact zero_le_one.trans (scoring.one_le_weight depth positive)

end ExactScoring

/-! ## Numbers that agree below a ceiling -/

/-- Two numbers from nought on that a ceiling makes equal. -/
structure SameBelow (ceiling first second : K) : Prop where
  first_nonneg : 0 ≤ first
  second_nonneg : 0 ≤ second
  capped : min ceiling first = min ceiling second

namespace SameBelow

variable {ceiling first second : K}

omit [IsStrictOrderedRing K] in
theorem refl (ceiling : K) {number : K} (nonnegative : 0 ≤ number) :
    SameBelow ceiling number number :=
  ⟨nonnegative, nonnegative, rfl⟩

omit [IsStrictOrderedRing K] in
/-- A number and its capped self agree. -/
theorem cap (ceiling_nonneg : 0 ≤ ceiling) (nonnegative : 0 ≤ second) :
    SameBelow ceiling (min ceiling second) second := by
  constructor
  · exact le_min ceiling_nonneg nonnegative
  · exact nonnegative
  · rw [← min_assoc, min_self]

theorem min_min_add {ceiling first second : K} (nonnegative : 0 ≤ second) :
    min ceiling (min ceiling first + second) = min ceiling (first + second) := by
  rcases le_total ceiling first with above | below
  · have capped : ceiling ≤ ceiling + second := le_add_of_nonneg_right nonnegative
    have plain : ceiling ≤ first + second := above.trans (le_add_of_nonneg_right nonnegative)
    rw [min_eq_left above, min_eq_left capped, min_eq_left plain]
  · rw [min_eq_right below]

theorem add
    {otherFirst otherSecond : K} (same : SameBelow ceiling first second)
    (others : SameBelow ceiling otherFirst otherSecond) :
    SameBelow ceiling (first + otherFirst) (second + otherSecond) := by
  constructor
  · exact add_nonneg same.first_nonneg others.first_nonneg
  · exact add_nonneg same.second_nonneg others.second_nonneg
  · calc
      min ceiling (first + otherFirst)
          = min ceiling (min ceiling second + otherFirst) := by
            rw [← same.capped, min_min_add others.first_nonneg]
      _ = min ceiling (min ceiling otherSecond + second) := by
            rw [min_min_add others.first_nonneg, add_comm, ← others.capped,
              min_min_add same.second_nonneg]
      _ = min ceiling (second + otherSecond) := by
            rw [min_min_add same.second_nonneg, add_comm]

omit [IsStrictOrderedRing K] in
/-- A threshold up to the ceiling does not tell such numbers apart. -/
theorem le_iff (same : SameBelow ceiling first second)
    {threshold : K} (below : threshold ≤ ceiling) :
    threshold ≤ first ↔ threshold ≤ second := by
  calc
    threshold ≤ first ↔ threshold ≤ min ceiling first := by simp [below]
    _ ↔ threshold ≤ min ceiling second := by rw [same.capped]
    _ ↔ threshold ≤ second := by simp [below]

end SameBelow

/-! ## Totals -/

/-- A total with caps and the same total without. -/
structure Caps (ceiling capped plain : K) : Prop where
  plain_nonneg : 0 ≤ plain
  capped_eq : capped = min ceiling plain

omit [IsStrictOrderedRing K] in
theorem Caps.sameBelow {ceiling capped plain : K} (caps : Caps ceiling capped plain)
    (ceiling_nonneg : 0 ≤ ceiling) : SameBelow ceiling capped plain := by
  rw [caps.capped_eq]
  exact .cap ceiling_nonneg caps.plain_nonneg

namespace ExactScoring

variable (scoring : ExactScoring K)

theorem addScore_caps
    {capped plain addition otherAddition : K} (caps : Caps scoring.ceiling capped plain)
    (same : SameBelow scoring.ceiling addition otherAddition) :
    Caps scoring.ceiling ((scoring.scorer true).addScore capped addition)
      ((scoring.scorer false).addScore plain otherAddition) := by
  have sums := (caps.sameBelow scoring.ceiling_nonneg).add same
  constructor
  · rw [addScore_uncapped]
    exact sums.second_nonneg
  · rw [addScore_uncapped, addScore_capped]
    exact sums.capped

theorem amount_sameBelow (addend : Addend) :
    SameBelow scoring.ceiling ((scoring.scorer true).amount addend)
      ((scoring.scorer false).amount addend) := by
  cases addend with
  | penalty => exact .refl _ scoring.penalty_nonneg
  | halves count => exact .refl _ (div_nonneg (Nat.cast_nonneg count) zero_le_two)

theorem addAll_caps
    {capped plain : K} (caps : Caps scoring.ceiling capped plain) (addends : List Addend) :
    Caps scoring.ceiling ((scoring.scorer true).addAll capped addends)
      ((scoring.scorer false).addAll plain addends) := by
  induction addends generalizing capped plain with
  | nil => exact caps
  | cons addend rest hypothesis =>
      apply hypothesis
      exact scoring.addScore_caps caps (scoring.amount_sameBelow addend)

theorem withSurcharge_sameBelow
    {first second : K} (same : SameBelow scoring.ceiling first second)
    (surcharge : Option Addend) :
    SameBelow scoring.ceiling ((scoring.scorer true).withSurcharge surcharge first)
      ((scoring.scorer false).withSurcharge surcharge second) := by
  cases surcharge with
  | none => exact same
  | some addend => exact same.add (scoring.amount_sameBelow addend)

theorem addChildren_caps
    {capped plain : K} (caps : Caps scoring.ceiling capped plain) (surcharge : Option Addend)
    {scores others : List K} (same : List.Forall₂ (SameBelow scoring.ceiling) scores others) :
    Caps scoring.ceiling
      (scores.foldl
        (fun sum score => (scoring.scorer true).addScore sum
          ((scoring.scorer true).withSurcharge surcharge score)) capped)
      (others.foldl
        (fun sum score => (scoring.scorer false).addScore sum
          ((scoring.scorer false).withSurcharge surcharge score)) plain) := by
  induction same generalizing capped plain with
  | nil => exact caps
  | cons head _ hypothesis =>
      apply hypothesis
      exact scoring.addScore_caps caps (scoring.withSurcharge_sameBelow head surcharge)

/-- Whatever its kind, the total of a node with caps is the capped total without. -/
theorem total_caps (node : TypeNode)
    {scores others : List K} (same : List.Forall₂ (SameBelow scoring.ceiling) scores others) :
    Caps scoring.ceiling ((scoring.scorer true).total node scores)
      ((scoring.scorer false).total node others) := by
  have nothing : Caps scoring.ceiling (scoring.scorer true).arithmetic.nothing
      (scoring.scorer false).arithmetic.nothing := by
    constructor
    · simp [scorer, arithmetic, Arithmetic.nothing, Arithmetic.exact]
    · simp [scorer, arithmetic, Arithmetic.nothing, Arithmetic.exact, scoring.ceiling_nonneg]
  apply scoring.addAll_caps
  apply scoring.addChildren_caps _ _ same
  exact scoring.addAll_caps nothing _

/-! ## Finished scores -/

/-- The same node is finished at the same depth, with the capped score and without. -/
structure Clamps (capped plain : Finish K) : Prop where
  identity : capped.identity = plain.identity
  depth : capped.depth = plain.depth
  score : capped.score =
    min (scoring.ceiling * scoring.weight plain.depth.toNat) plain.score

theorem mul_weight_of_caps
    {capped plain : K} (caps : Caps scoring.ceiling capped plain) (depth : Nat) :
    capped * scoring.weight depth =
        min (scoring.ceiling * scoring.weight depth) (plain * scoring.weight depth) ∧
      SameBelow scoring.ceiling (capped * scoring.weight depth)
        (plain * scoring.weight depth) := by
  have weight_nonneg := scoring.weight_nonneg depth
  have weighed : capped * scoring.weight depth =
      min (scoring.ceiling * scoring.weight depth) (plain * scoring.weight depth) := by
    rw [caps.capped_eq, min_mul_of_nonneg _ _ weight_nonneg]
  refine ⟨weighed, ?_⟩
  have plain_nonneg := mul_nonneg caps.plain_nonneg weight_nonneg
  rcases Nat.eq_zero_or_pos depth with rfl | positive
  · simp only [scoring.weight_zero, mul_zero]
    exact .refl _ le_rfl
  · -- From depth one on the weighed ceiling is not below the ceiling.
    have larger : scoring.ceiling ≤ scoring.ceiling * scoring.weight depth :=
      le_mul_of_one_le_right scoring.ceiling_nonneg (scoring.one_le_weight depth positive)
    rw [weighed]
    constructor
    · exact le_min (scoring.ceiling_nonneg.trans larger) plain_nonneg
    · exact plain_nonneg
    · rw [← min_assoc, min_eq_left larger]

/-- Caches that hold scores of the same nodes which agree below the ceiling. -/
structure CachesAgree (capped plain : ScoreCache Nat K) : Prop where
  active : capped.active = plain.active
  finished : ∀ identity,
    Option.Rel (SameBelow scoring.ceiling) (capped.get? identity) (plain.get? identity)

namespace CachesAgree

variable {scoring : ExactScoring K} {capped plain : ScoreCache Nat K}

theorem empty : scoring.CachesAgree .empty .empty := by
  constructor
  · rfl
  · intro identity
    exact .none

theorem mark (agree : scoring.CachesAgree capped plain) (identity : Nat) :
    scoring.CachesAgree (capped.mark identity) (plain.mark identity) := by
  constructor
  · simp only [ScoreCache.mark, agree.active]
  · exact agree.finished

theorem finish (agree : scoring.CachesAgree capped plain) (identity : Nat)
    {score other : K} (same : SameBelow scoring.ceiling score other) :
    scoring.CachesAgree ((capped.unmark identity).put identity score)
      ((plain.unmark identity).put identity other) := by
  constructor
  · simp only [ScoreCache.put_active, ScoreCache.unmark, agree.active]
  · intro name
    by_cases here : name = identity
    · subst here
      simpa using same
    · simpa [ScoreCache.get?_put_other here] using agree.finished name

theorem exists_finished (agree : scoring.CachesAgree capped plain) {identity : Nat} {score : K}
    (finished : capped.get? identity = some score) :
    ∃ other, plain.get? identity = some other ∧ SameBelow scoring.ceiling score other := by
  have related := agree.finished identity
  rw [finished] at related
  cases found : plain.get? identity with
  | none =>
      rw [found] at related
      cases related
  | some other =>
      rw [found] at related
      exact ⟨other, rfl, by cases related; assumption⟩

theorem get?_eq_none (agree : scoring.CachesAgree capped plain) {identity : Nat}
    (unfinished : capped.get? identity = none) : plain.get? identity = none := by
  have related := agree.finished identity
  rw [unfinished] at related
  cases found : plain.get? identity with
  | none => rfl
  | some other =>
      rw [found] at related
      cases related

end CachesAgree

theorem weight?_eq_some {depth : Int} {factor : K}
    (weighed : scoring.arithmetic.weight? depth = some factor) :
    factor = scoring.weight depth.toNat := by
  simp only [arithmetic, Arithmetic.exact] at weighed
  split at weighed
  · cases weighed
    rfl
  · cases weighed

end ExactScoring

/-- A derivation with caps is followed by one without, from caches that agree. -/
theorem Visits.uncapped
    {scoring : ExactScoring K} {graph : TypeGraph}
    {requests : List Request} {cache after : ScoreCache Nat K}
    {scores : List K} {journal : List (Finish K)}
    (visits : Visits (scoring.scorer true) graph requests cache scores after journal)
    {plain : ScoreCache Nat K} (agree : scoring.CachesAgree cache plain) :
    ∃ plainScores plainAfter plainJournal,
      Visits (scoring.scorer false) graph requests plain plainScores plainAfter plainJournal ∧
        List.Forall₂ (SameBelow scoring.ceiling) scores plainScores ∧
        scoring.CachesAgree after plainAfter ∧
        List.Forall₂ scoring.Clamps journal plainJournal := by
  induction visits generalizing plain with
  | done => exact ⟨[], plain, [], .done, .nil, agree, .nil⟩
  | known finished _ hypothesis =>
      rcases agree.exists_finished finished with ⟨other, plainFinished, same⟩
      rcases hypothesis agree with ⟨others, plainAfter, plainJournal, rest, sameRest, left, clamps⟩
      exact ⟨_, _, _, .known plainFinished rest, .cons same sameRest, left, clamps⟩
  | cycle unfinished active _ hypothesis =>
      rcases hypothesis agree with ⟨others, plainAfter, plainJournal, rest, sameRest, left, clamps⟩
      have same : SameBelow scoring.ceiling (scoring.scorer true).cycleScore
          (scoring.scorer false).cycleScore :=
        scoring.amount_sameBelow (.whole 50)
      rw [agree.active] at active
      exact ⟨_, _, _, .cycle (agree.get?_eq_none unfinished) active rest, .cons same sameRest, left,
        clamps⟩
  | @finish identity depth _ _ _ _ factor score childScores _ _ _ untouched _ weighed scored _
      childHypothesis hypothesis =>
      rcases childHypothesis (agree.mark identity) with
        ⟨plainChildScores, inner, inside, children, sameChildren, innerAgree, insideClamps⟩
      rcases scoring.weight?_eq_some weighed with rfl
      have plainUntouched : plain.Untouched identity := by
        constructor
        · exact agree.get?_eq_none untouched.1
        · rw [← agree.active]
          exact untouched.2
      have caps := scoring.total_caps (graph.nodeAt identity) sameChildren
      rcases scoring.mul_weight_of_caps caps depth.toNat with ⟨clamped, same⟩
      subst scored
      rcases hypothesis (innerAgree.finish identity same) with
        ⟨others, plainAfter, plainJournal, rest, sameRest, left, clamps⟩
      refine ⟨_, _, _, .finish plainUntouched children weighed rfl rest, .cons same sameRest,
        left, ?_⟩
      apply List.rel_append insideClamps
      exact .cons ⟨rfl, rfl, clamped⟩ clamps

/-- The two modes give a node scores that agree below the ceiling. -/
theorem ExactScoring.sameBelow_of_freshScore
    (scoring : ExactScoring K) {supply : Nat} {node : Data.Value} {depth : Int} {capped plain : K}
    (cappedScored : (scoring.scorer true).freshScore supply node depth = .ok capped)
    (plainScored : (scoring.scorer false).freshScore supply node depth = .ok plain) :
    SameBelow scoring.ceiling capped plain := by
  rw [Scorer.freshScore] at cappedScored plainScored
  rcases built : outcome (build node) supply with ⟨result, next⟩
  rw [built] at cappedScored plainScored
  cases result with
  | error fault => cases cappedScored
  | ok tree =>
      simp only at cappedScored plainScored
      rcases cappedRan : outcome ((scoring.scorer true).score tree.toGraph tree.identity depth)
        .empty with ⟨cappedResult, cappedAfter⟩
      rcases plainRan : outcome ((scoring.scorer false).score tree.toGraph tree.identity depth)
        .empty with ⟨plainResult, plainAfter⟩
      rw [cappedRan] at cappedScored
      rw [plainRan] at plainScored
      simp only at cappedScored plainScored
      subst cappedScored plainScored
      rcases Scorer.visits_of_scoreWithin ⟨tree.identity, depth⟩ cappedRan with
        ⟨journal, cappedVisits⟩
      rcases Scorer.visits_of_scoreWithin ⟨tree.identity, depth⟩ plainRan with
        ⟨plainJournal, plainVisits⟩
      rcases cappedVisits.uncapped .empty with ⟨scores, after, _, visits, same, _, _⟩
      rcases plainVisits.unique visits with ⟨rfl, _, _⟩
      cases same with
      | cons first _ => exact first

/-- With caps, the score of a node lies between nought and the weighed ceiling. -/
theorem ExactScoring.freshScore_bounds
    (scoring : ExactScoring K) {supply : Nat} {node : Data.Value} {depth : Int} {score : K}
    (scored : (scoring.scorer true).freshScore supply node depth = .ok score) :
    0 ≤ score ∧ score ≤ scoring.ceiling * scoring.weight depth.toNat := by
  rw [Scorer.freshScore] at scored
  rcases built : outcome (build node) supply with ⟨result, next⟩
  rw [built] at scored
  cases result with
  | error fault => cases scored
  | ok tree =>
      simp only at scored
      rcases ran : outcome ((scoring.scorer true).score tree.toGraph tree.identity depth)
        .empty with ⟨answer, after⟩
      rw [ran] at scored
      simp only at scored
      subst scored
      rcases Scorer.visits_of_scoreWithin ⟨tree.identity, depth⟩ ran with ⟨journal, visits⟩
      -- In an empty cache the root is neither known nor active, so it was finished just now.
      cases visits with
      | known finished _ => cases finished
      | cycle _ active _ => cases active
      | finish untouched children weighed scored _ =>
          rcases children.uncapped (ExactScoring.CachesAgree.empty.mark tree.identity) with
            ⟨_, _, _, _, sameChildren, _, _⟩
          have caps := scoring.total_caps (tree.toGraph.nodeAt tree.identity) sameChildren
          rcases scoring.weight?_eq_some weighed with rfl
          rcases scoring.mul_weight_of_caps caps depth.toNat with ⟨clamped, same⟩
          rw [scored]
          refine ⟨same.first_nonneg, ?_⟩
          exact clamped.le.trans (min_le_left _ _)

end TypeGauge.Score
