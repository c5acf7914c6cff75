import TypeGauge.Proofs.Outcome
import TypeGauge.Proofs.Score.CacheLaws
import TypeGauge.Score.Scorer

/-!
# What scoring a node does

`Visits` is the scorer as a relation.  A list of requests, each for a node at a
depth, is answered in turn: a finished node gives the score that it has, a node
that is being scored gives the fixed amount of a cycle, and any other node is
marked, its scored children are requested one level deeper, and it is finished.
The relation keeps a journal of the nodes that are finished, in order, with the
depth and the score at which that happened; the cache itself forgets the depth.

There is no room in the relation, so it describes scoring without a limit to
the nesting.  `visits_of_scoreWithin` takes a run of the scorer that ends well
to a derivation, and `Visits.unique` says that requests have at most one
derivation.  Everything that is proved about scoring starts from these two and
from `outcome_scoreWithin_succ`, which says what one call does in every case.
-/

namespace TypeGauge.Types.TypeGraph

/-- The node with an identity; a reference that leads nowhere is a leaf of unknown kind. -/
def nodeAt (graph : TypeGraph) (identity : Nat) : TypeNode :=
  (graph.find? identity).getD ⟨identity, .unknown, 0, 0, []⟩

end TypeGauge.Types.TypeGraph

namespace TypeGauge.Score

open TypeGauge.Setup TypeGauge.Types

variable {α : Type}

/-- A node that is to be scored at a depth. -/
structure Request where
  identity : Nat
  depth : Int
deriving DecidableEq, Repr, Inhabited

/-- A node that has been finished: the depth it was scored at, and its score. -/
structure Finish (α : Type) where
  identity : Nat
  depth : Int
  score : α
deriving Inhabited

/-- The entry of a cache that finishing a node leaves. -/
def Finish.entry (finish : Finish α) : Nat × α :=
  (finish.identity, finish.score)

/-- The requests that scoring a node at a depth makes. -/
def childRequests (graph : TypeGraph) (identity : Nat) (depth : Int) : List Request :=
  (scoredChildren graph (graph.nodeAt identity)).map fun child => ⟨child, depth + 1⟩

namespace Scorer

/-- The sum of a node's own addends and of the scores of its scored children. -/
def total (scorer : Scorer α) (node : TypeNode) (scores : List α) : α :=
  let rule := Rule.ofNode node
  let opened := scorer.addAll scorer.arithmetic.nothing rule.opening
  let summed := scores.foldl
    (fun sum score => scorer.addScore sum (scorer.withSurcharge rule.surcharge score)) opened
  scorer.addAll summed rule.closing

/-- Answer requests in turn, each within the same room. -/
def scoreAllWithin (scorer : Scorer α) (graph : TypeGraph) (room : Nat)
    (requests : List Request) : ScoreM α (List α) :=
  requests.mapM fun request => scorer.scoreWithin graph room request.identity request.depth

/-! ## Sums apart from the traversal -/

/-- Scoring the children in turn and adding the scores up are two separate steps. -/
theorem addChildren_eq
    (scorer : Scorer α) (surcharge : Option Addend)
    (scoreOne : Nat → ScoreM α α) (children : List Nat) (sum : α) :
    scorer.addChildren surcharge scoreOne children sum =
      (fun scores : List α =>
        scores.foldl
          (fun sum score => scorer.addScore sum (scorer.withSurcharge surcharge score)) sum) <$>
        children.mapM scoreOne := by
  induction children generalizing sum with
  | nil => simp [addChildren]
  | cons child rest hypothesis =>
      simp [addChildren, hypothesis, List.mapM_cons]

/-- The raw score of a node is the total of the scores of its scored children. -/
theorem rawScore_eq
    (scorer : Scorer α) (graph : TypeGraph)
    (scoreOne : Nat → ScoreM α α) (node : TypeNode) :
    scorer.rawScore graph scoreOne node =
      scorer.total node <$> (scoredChildren graph node).mapM scoreOne := by
  simp only [rawScore, addChildren_eq, bind_pure_comp, Functor.map_map]
  rfl

/-- Requesting the children of a node is scoring its scored children one level deeper. -/
theorem scoreAllWithin_childRequests
    (scorer : Scorer α) (graph : TypeGraph) (room identity : Nat) (depth : Int) :
    scorer.scoreAllWithin graph room (childRequests graph identity depth) =
      (scoredChildren graph (graph.nodeAt identity)).mapM
        fun child => scorer.scoreWithin graph room child (depth + 1) := by
  simp only [scoreAllWithin, childRequests, List.mapM_map]
  rfl

/-! ## One call -/

/-- What a call does, in every case. -/
theorem outcome_scoreWithin_succ
    (scorer : Scorer α) (graph : TypeGraph) (room identity : Nat) (depth : Int)
    (cache : ScoreCache Nat α) :
    outcome (scorer.scoreWithin graph (room + 1) identity depth) cache =
      match cache.get? identity with
      | some score => (.ok score, cache)
      | none =>
          if identity ∈ cache.active then (.ok scorer.cycleScore, cache)
          else
            match outcome (scorer.scoreAllWithin graph room (childRequests graph identity depth))
                (cache.mark identity) with
            | (.error fault, inner) => (.error fault, inner)
            | (.ok scores, inner) =>
                match scorer.arithmetic.weight? depth with
                | none => (.error .negativeDepth, inner)
                | some factor =>
                    let score :=
                      scorer.arithmetic.mul (scorer.total (graph.nodeAt identity) scores) factor
                    (.ok score, (inner.unmark identity).put identity score) := by
  rw [scoreWithin]
  simp only [outcome_bind, outcome_get]
  cases finished : cache.get? identity with
  | some score => simp
  | none =>
      by_cases active : identity ∈ cache.active
      · simp [ScoreCache.isActive, active]
      · have missed : cache.isActive identity = false := by
          simp [ScoreCache.isActive, active]
        have node :
            (graph.find? identity).getD ⟨identity, .unknown, 0, 0, []⟩ =
              graph.nodeAt identity :=
          rfl
        simp only [missed, active, if_false, Bool.false_eq_true, outcome_bind, outcome_set,
          node, rawScore_eq, outcome_map, scoreAllWithin_childRequests]
        rcases outcome
          ((scoredChildren graph (graph.nodeAt identity)).mapM
            fun child => scorer.scoreWithin graph room child (depth + 1))
          (cache.mark identity) with ⟨result, inner⟩
        cases result with
        | error fault => rfl
        | ok scores =>
            cases weighed : scorer.arithmetic.weight? depth with
            | none => simp [Except.map, weight, weighed]
            | some factor => simp [Except.map, weight, weighed]

/--
What marking and finishing untouched nodes keeps, a call keeps, whether it ends well or not.
Only nodes that the requested node leads to are marked and finished.
-/
theorem scoreWithin_keeps
    {scorer : Scorer α} {graph : TypeGraph}
    (kept : ScoreCache Nat α → Prop) (reached : Nat → Prop)
    (leads : ∀ identity depth, reached identity →
      ∀ child ∈ childRequests graph identity depth, reached child.identity)
    (marks : ∀ cache identity, reached identity → kept cache → kept (cache.mark identity))
    (finishes : ∀ cache inner identity score, reached identity → cache.Untouched identity →
      kept cache → kept inner → kept ((inner.unmark identity).put identity score))
    (room : Nat) {request : Request} {cache : ScoreCache Nat α}
    (start : reached request.identity) (before : kept cache) :
    kept (outcome (scorer.scoreWithin graph room request.identity request.depth) cache).2 := by
  induction room generalizing request cache with
  | zero => exact before
  | succ room hypothesis =>
      rw [outcome_scoreWithin_succ]
      cases requested : cache.get? request.identity with
      | some known => exact before
      | none =>
          by_cases active : request.identity ∈ cache.active
          · simpa [active] using before
          · have inside : kept (outcome
                (scorer.scoreAllWithin graph room
                  (childRequests graph request.identity request.depth))
                (cache.mark request.identity)).2 := by
              apply outcome_mapM_keeps kept _ (marks cache _ start before)
              intro child member between
              exact hypothesis (leads _ _ start child member)
            simp only [active, if_false]
            rcases childrenRan :
              outcome
                (scorer.scoreAllWithin graph room
                  (childRequests graph request.identity request.depth))
                (cache.mark request.identity) with ⟨result, inner⟩
            rw [childrenRan] at inside
            cases result with
            | error fault => exact inside
            | ok scores =>
                cases scorer.arithmetic.weight? request.depth with
                | none => exact inside
                | some factor =>
                    exact finishes cache inner _ _ start ⟨requested, active⟩ before inside

end Scorer

/-! ## Scoring as a relation -/

/--
Requests are answered in turn, in a cache, by scores.  This leaves a cache and a
journal of the nodes that were finished on the way.
-/
inductive Visits (scorer : Scorer α) (graph : TypeGraph) :
    List Request → ScoreCache Nat α → List α → ScoreCache Nat α → List (Finish α) → Prop
  | done {cache : ScoreCache Nat α} :
      Visits scorer graph [] cache [] cache []
  | known {identity : Nat} {depth : Int} {rest : List Request} {cache after : ScoreCache Nat α}
      {score : α} {scores : List α} {journal : List (Finish α)}
      (finished : cache.get? identity = some score)
      (others : Visits scorer graph rest cache scores after journal) :
      Visits scorer graph (⟨identity, depth⟩ :: rest) cache (score :: scores) after journal
  | cycle {identity : Nat} {depth : Int} {rest : List Request} {cache after : ScoreCache Nat α}
      {scores : List α} {journal : List (Finish α)}
      (unfinished : cache.get? identity = none)
      (active : identity ∈ cache.active)
      (others : Visits scorer graph rest cache scores after journal) :
      Visits scorer graph (⟨identity, depth⟩ :: rest) cache (scorer.cycleScore :: scores)
        after journal
  | finish {identity : Nat} {depth : Int} {rest : List Request}
      {cache inner after : ScoreCache Nat α} {factor score : α} {childScores scores : List α}
      {inside journal : List (Finish α)}
      (untouched : cache.Untouched identity)
      (children : Visits scorer graph (childRequests graph identity depth)
        (cache.mark identity) childScores inner inside)
      (weighed : scorer.arithmetic.weight? depth = some factor)
      (scored : score =
        scorer.arithmetic.mul (scorer.total (graph.nodeAt identity) childScores) factor)
      (others : Visits scorer graph rest ((inner.unmark identity).put identity score)
        scores after journal) :
      Visits scorer graph (⟨identity, depth⟩ :: rest) cache (score :: scores) after
        (inside ++ ⟨identity, depth, score⟩ :: journal)

namespace Visits

variable {scorer : Scorer α} {graph : TypeGraph}

/-- The answer to one request goes before the answers to others. -/
theorem cons
    {request : Request} {rest : List Request} {cache between after : ScoreCache Nat α}
    {score : α} {scores : List α} {first journal : List (Finish α)}
    (head : Visits scorer graph [request] cache [score] between first)
    (others : Visits scorer graph rest between scores after journal) :
    Visits scorer graph (request :: rest) cache (score :: scores) after (first ++ journal) := by
  cases head with
  | known finished ended =>
      cases ended
      exact .known finished others
  | cycle unfinished active ended =>
      cases ended
      exact .cycle unfinished active others
  | finish untouched children weighed scored ended =>
      cases ended
      rw [List.append_assoc]
      exact .finish untouched children weighed scored others

/-- Requests have one answer, leave one cache and finish the same nodes in the same order. -/
theorem unique
    {requests : List Request} {cache after otherAfter : ScoreCache Nat α}
    {scores otherScores : List α} {journal otherJournal : List (Finish α)}
    (visits : Visits scorer graph requests cache scores after journal)
    (other : Visits scorer graph requests cache otherScores otherAfter otherJournal) :
    otherScores = scores ∧ otherAfter = after ∧ otherJournal = journal := by
  induction visits generalizing otherScores otherAfter otherJournal with
  | done =>
      cases other
      exact ⟨rfl, rfl, rfl⟩
  | known finished others hypothesis =>
      cases other with
      | known otherFinished otherOthers =>
          rcases hypothesis otherOthers with ⟨rfl, rfl, rfl⟩
          rw [finished] at otherFinished
          cases otherFinished
          exact ⟨rfl, rfl, rfl⟩
      | cycle unfinished _ _ => simp [finished] at unfinished
      | finish untouched _ _ _ _ => exact absurd finished (by simp [untouched.1])
  | cycle unfinished active others hypothesis =>
      cases other with
      | known finished _ => simp [finished] at unfinished
      | cycle _ _ otherOthers =>
          rcases hypothesis otherOthers with ⟨rfl, rfl, rfl⟩
          exact ⟨rfl, rfl, rfl⟩
      | finish untouched _ _ _ _ => exact absurd active untouched.2
  | finish untouched children weighed scored others childHypothesis hypothesis =>
      cases other with
      | known finished _ => exact absurd finished (by simp [untouched.1])
      | cycle _ active _ => exact absurd active untouched.2
      | finish _ otherChildren otherWeighed otherScored otherOthers =>
          rcases childHypothesis otherChildren with ⟨rfl, rfl, rfl⟩
          rw [weighed] at otherWeighed
          cases otherWeighed
          subst scored otherScored
          rcases hypothesis otherOthers with ⟨rfl, rfl, rfl⟩
          exact ⟨rfl, rfl, rfl⟩

end Visits

namespace Scorer

variable {scorer : Scorer α} {graph : TypeGraph}

/-- Answers to several requests derive from the answer to each. -/
theorem visits_of_scoreAllWithin
    {room : Nat}
    (single : ∀ (request : Request) (cache after : ScoreCache Nat α) (score : α),
      outcome (scorer.scoreWithin graph room request.identity request.depth) cache =
          (.ok score, after) →
        ∃ journal, Visits scorer graph [request] cache [score] after journal)
    {requests : List Request} {cache after : ScoreCache Nat α} {scores : List α}
    (ran : outcome (scorer.scoreAllWithin graph room requests) cache = (.ok scores, after)) :
    ∃ journal, Visits scorer graph requests cache scores after journal := by
  induction requests generalizing cache scores with
  | nil =>
      simp only [scoreAllWithin, List.mapM_nil, outcome_pure, Prod.mk.injEq,
        Except.ok.injEq] at ran
      rcases ran with ⟨rfl, rfl⟩
      exact ⟨[], .done⟩
  | cons request rest hypothesis =>
      rcases outcome_mapM_cons_eq_ok_iff.mp ran with
        ⟨score, between, others, headRan, restRan, rfl⟩
      rcases single request cache between score headRan with ⟨first, head⟩
      rcases hypothesis restRan with ⟨journal, tail⟩
      exact ⟨first ++ journal, head.cons tail⟩

/-- A call that ends well is described by a derivation. -/
theorem visits_of_scoreWithin
    {room : Nat} (request : Request) {cache after : ScoreCache Nat α} {score : α}
    (ran : outcome (scorer.scoreWithin graph room request.identity request.depth) cache =
      (.ok score, after)) :
    ∃ journal, Visits scorer graph [request] cache [score] after journal := by
  induction room generalizing request cache after score with
  | zero => simp [scoreWithin] at ran
  | succ room hypothesis =>
      rcases request with ⟨identity, depth⟩
      rw [outcome_scoreWithin_succ] at ran
      cases finished : cache.get? identity with
      | some known =>
          simp only [finished, Prod.mk.injEq, Except.ok.injEq] at ran
          rcases ran with ⟨rfl, rfl⟩
          exact ⟨[], .known finished .done⟩
      | none =>
          by_cases active : identity ∈ cache.active
          · simp only [finished, active, if_true, Prod.mk.injEq, Except.ok.injEq] at ran
            rcases ran with ⟨rfl, rfl⟩
            exact ⟨[], .cycle finished active .done⟩
          · simp only [finished, active, if_false] at ran
            rcases childrenRan :
              outcome (scorer.scoreAllWithin graph room (childRequests graph identity depth))
                (cache.mark identity) with ⟨result, inner⟩
            rw [childrenRan] at ran
            cases result with
            | error fault => simp at ran
            | ok childScores =>
                cases weighed : scorer.arithmetic.weight? depth with
                | none => simp [weighed] at ran
                | some factor =>
                    simp only [weighed, Prod.mk.injEq, Except.ok.injEq] at ran
                    rcases ran with ⟨rfl, rfl⟩
                    rcases visits_of_scoreAllWithin
                      (fun child _ _ _ single => hypothesis child single) childrenRan with
                      ⟨inside, children⟩
                    exact ⟨_, .finish ⟨finished, active⟩ children weighed rfl .done⟩

end Scorer

end TypeGauge.Score
