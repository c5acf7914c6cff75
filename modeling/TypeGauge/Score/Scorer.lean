import TypeGauge.Fault
import TypeGauge.Nesting
import TypeGauge.Setup.Basic
import TypeGauge.Score.Cache
import TypeGauge.Score.Rule

/-!
# Scoring

The score of a type expression at a depth is its raw score times the weight of
the depth, and its children are scored one level deeper.  A score that is finished
is not computed again, whatever the depth, and a node that is reached again while
it is being scored contributes a fixed amount instead.  In performance mode every
sum is capped at the policy's ceiling.

A score that cannot be computed leaves the cache as it is at that moment: the
nodes that were being scored stay marked.
-/

namespace TypeGauge.Score

open TypeGauge.Setup TypeGauge.Types

/-- What scores are computed with. -/
structure Scorer (α : Type) where
  arithmetic : Arithmetic α
  policy : Policy α

/-- Scoring updates a cache and may fail; the cache is kept either way. -/
abbrev ScoreM (α β : Type) : Type :=
  ExceptT Fault (StateM (ScoreCache Nat α)) β

namespace Scorer

variable {α : Type}

/-- What a node contributes that is reached again while it is being scored. -/
def cycleScore (scorer : Scorer α) : α :=
  scorer.arithmetic.ofNat 50

/-- The largest sum in performance mode. -/
def ceiling (scorer : Scorer α) : α :=
  scorer.policy.ceiling scorer.arithmetic

/-- Add to a running total, which performance mode caps. -/
def addScore (scorer : Scorer α) (current addition : α) : α :=
  let total := scorer.arithmetic.add current addition
  if scorer.policy.performanceMode && scorer.arithmetic.less scorer.ceiling total then
    scorer.ceiling
  else total

/-- The amount of an addend. -/
def amount (scorer : Scorer α) : Addend → α
  | .penalty => scorer.policy.interfacePenalty
  | .halves count => scorer.arithmetic.ofHalves count

/-- Add several addends in turn. -/
def addAll (scorer : Scorer α) (current : α) (addends : List Addend) : α :=
  addends.foldl (fun total addend => scorer.addScore total (scorer.amount addend)) current

/-- The score of a child with the surcharge of its parent's rule. -/
def withSurcharge (scorer : Scorer α) (surcharge : Option Addend) (score : α) : α :=
  match surcharge with
  | none => score
  | some addend => scorer.arithmetic.add score (scorer.amount addend)

/-- Score children in turn and add them to a running total. -/
def addChildren (scorer : Scorer α) (surcharge : Option Addend) (scoreOne : Nat → ScoreM α α) :
    List Nat → α → ScoreM α α
  | [], total => return total
  | child :: rest, total => do
      let score ← scoreOne child
      addChildren scorer surcharge scoreOne rest
        (scorer.addScore total (scorer.withSurcharge surcharge score))

/-- The raw score of a node, given how to score its children. -/
def rawScore (scorer : Scorer α) (graph : TypeGraph) (scoreOne : Nat → ScoreM α α)
    (node : TypeNode) : ScoreM α α := do
  let rule := Rule.ofNode node
  let opened := scorer.addAll scorer.arithmetic.nothing rule.opening
  let summed ← scorer.addChildren rule.surcharge scoreOne (scoredChildren graph node) opened
  return scorer.addAll summed rule.closing

/-- The weight of a depth. -/
def weight (scorer : Scorer α) (depth : Int) : Except Fault α :=
  match scorer.arithmetic.weight? depth with
  | some factor => .ok factor
  | none => .error .negativeDepth

/-- Score the node with an identity, followed at most `room` levels deep. -/
def scoreWithin (scorer : Scorer α) (graph : TypeGraph) :
    (room : Nat) → (identity : Nat) → (depth : Int) → ScoreM α α
  | 0, _, _ => throw .tooDeep
  | room + 1, identity, depth => do
      let cache ← get
      match cache.get? identity with
      | some score => return score
      | none =>
          if cache.isActive identity then return scorer.cycleScore
          else
            set (cache.mark identity)
            let node := (graph.find? identity).getD ⟨identity, .unknown, 0, 0, []⟩
            let raw ← scorer.rawScore graph
              (fun child => scorer.scoreWithin graph room child (depth + 1)) node
            let factor ← scorer.weight depth
            let score := scorer.arithmetic.mul raw factor
            modify fun cache => (cache.unmark identity).put identity score
            return score

/-- Score the node with an identity at a depth. -/
def score (scorer : Scorer α) (graph : TypeGraph) (identity : Nat) (depth : Int) : ScoreM α α :=
  scorer.scoreWithin graph Nesting.typeRoom identity depth

end Scorer

end TypeGauge.Score
