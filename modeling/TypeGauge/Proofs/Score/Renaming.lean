import TypeGauge.Proofs.Score.TreeRecursion

/-!
# Identities are only names

Scoring uses identities to look nodes and scores up and for nothing else.  Let every
identity of a graph be shifted by the same number, and let a second cache say about
the shifted identities what the first one says about the old ones.  Then a call gives
the same result in both, be it a score or a fault, and the caches still agree.  Only
identities that the graph refers to matter, so the caches need to agree from some
identity on that is below them all.

So the score of a tree that is built depends neither on the supply that numbers it
nor on what a cache holds about smaller identities.
-/

namespace TypeGauge.Types

/-! ## Shifted graphs -/

/-- The same node with its identity and those of its children shifted. -/
def TypeNode.shift (offset : Nat) (node : TypeNode) : TypeNode :=
  { node with
    identity := node.identity + offset
    children := node.children.map fun child => child + offset }

/-- The same graph with every identity shifted. -/
def TypeGraph.shift (offset : Nat) (graph : TypeGraph) : TypeGraph where
  nodes := graph.nodes.map (TypeNode.shift offset)

namespace TypeGraph

variable (graph : TypeGraph) (offset identity : Nat)

theorem find?_shift :
    (graph.shift offset).find? (identity + offset) =
      (graph.find? identity).map (TypeNode.shift offset) := by
  simp only [find?, shift, List.find?_map]
  congr 2
  ext node
  simp [TypeNode.shift]

@[simp]
theorem kindOf_shift :
    (graph.shift offset).kindOf (identity + offset) = graph.kindOf identity := by
  simp only [kindOf, find?_shift]
  cases graph.find? identity with
  | none => rfl
  | some node => rfl

@[simp]
theorem nodeAt_shift :
    (graph.shift offset).nodeAt (identity + offset) =
      (graph.nodeAt identity).shift offset := by
  simp only [nodeAt, find?_shift]
  cases graph.find? identity with
  | none => rfl
  | some node => rfl

/-- All children in a graph have identities from the given one on. -/
def ChildrenFrom (base : Nat) : Prop :=
  ∀ node ∈ graph.nodes, ∀ child ∈ node.children, base ≤ child

end TypeGraph

namespace TypeTree

@[simp]
theorem identity_shift (offset : Nat) (tree : TypeTree) :
    (tree.shift offset).identity = tree.identity + offset := by
  cases tree with
  | node root children => simp [shift, identity, head]

theorem map_identity_shiftAll (offset : Nat) (trees : List TypeTree) :
    (shiftAll offset trees).map identity =
      (trees.map identity).map fun child => child + offset := by
  induction trees with
  | nil => simp [shiftAll]
  | cons tree rest hypothesis => simp [shiftAll, hypothesis]

mutual

theorem graphNodes_shift (offset : Nat) (tree : TypeTree) :
    (tree.shift offset).graphNodes = tree.graphNodes.map (TypeNode.shift offset) := by
  cases tree with
  | node head children =>
      simp only [shift, graphNodes, List.map_cons, graphNodesAll_shift offset children]
      simp [rootNode, TypeNode.shift, map_identity_shiftAll]

theorem graphNodesAll_shift (offset : Nat) (trees : List TypeTree) :
    graphNodesAll (shiftAll offset trees) =
      (graphNodesAll trees).map (TypeNode.shift offset) := by
  cases trees with
  | nil => simp [shiftAll, graphNodesAll]
  | cons tree rest =>
      simp only [shiftAll, graphNodesAll, List.map_append, graphNodes_shift offset tree,
        graphNodesAll_shift offset rest]

end

theorem toGraph_shift (offset : Nat) (tree : TypeTree) :
    (tree.shift offset).toGraph = tree.toGraph.shift offset := by
  simp [toGraph, TypeGraph.shift, graphNodes_shift]

end TypeTree

end TypeGauge.Types

namespace TypeGauge.Score

open TypeGauge.Data TypeGauge.Setup TypeGauge.Types

variable {α : Type}

theorem scoredChildren_shift (graph : TypeGraph) (offset : Nat) (node : TypeNode) :
    scoredChildren (graph.shift offset) (node.shift offset) =
      (scoredChildren graph node).map fun child => child + offset := by
  simp only [scoredChildren, TypeNode.shift, List.filter_map]
  congr 2
  ext child
  simp

/-- The same request for the shifted node. -/
def Request.shift (offset : Nat) (request : Request) : Request :=
  ⟨request.identity + offset, request.depth⟩

theorem childRequests_shift (graph : TypeGraph) (offset identity : Nat) (depth : Int) :
    childRequests (graph.shift offset) (identity + offset) depth =
      (childRequests graph identity depth).map (Request.shift offset) := by
  simp [childRequests, scoredChildren_shift, Request.shift]

@[simp]
theorem ofNode_shift (offset : Nat) (node : TypeNode) :
    Rule.ofNode (node.shift offset) = Rule.ofNode node := by
  simp only [Rule.ofNode, TypeNode.shift, List.length_map]

@[simp]
theorem Scorer.total_shift (scorer : Scorer α) (offset : Nat) (node : TypeNode)
    (scores : List α) :
    scorer.total (node.shift offset) scores = scorer.total node scores := by
  simp [Scorer.total]

/-! ## Shifted caches -/

/-- A second cache says about shifted identities what the first says about the old ones. -/
structure AgreesFrom (base offset : Nat) (cache shifted : ScoreCache Nat α) : Prop where
  finished : ∀ identity, base ≤ identity →
    shifted.get? (identity + offset) = cache.get? identity
  active : ∀ identity, base ≤ identity →
    (identity + offset ∈ shifted.active ↔ identity ∈ cache.active)

namespace AgreesFrom

variable {base offset : Nat} {cache shifted : ScoreCache Nat α}

theorem mark (agrees : AgreesFrom base offset cache shifted) (identity : Nat) :
    AgreesFrom base offset (cache.mark identity) (shifted.mark (identity + offset)) := by
  constructor
  · intro other above
    simpa using agrees.finished other above
  · intro other above
    simp [ScoreCache.mem_active_mark, agrees.active other above]

theorem finish (agrees : AgreesFrom base offset cache shifted) (identity : Nat) (score : α) :
    AgreesFrom base offset ((cache.unmark identity).put identity score)
      ((shifted.unmark (identity + offset)).put (identity + offset) score) := by
  constructor
  · intro other above
    by_cases same : other = identity
    · subst same
      simp
    · have different : other + offset ≠ identity + offset := by omega
      simpa [ScoreCache.get?_put_other same, ScoreCache.get?_put_other different] using
        agrees.finished other above
  · intro other above
    simp [ScoreCache.unmark, agrees.active other above]

end AgreesFrom

theorem base_le_of_mem_childRequests
    {graph : TypeGraph} {base : Nat} (within : graph.ChildrenFrom base)
    {identity : Nat} {depth : Int} {request : Request}
    (member : request ∈ childRequests graph identity depth) :
    base ≤ request.identity := by
  have edge := ((mem_childRequests_iff graph identity depth request).mp member).1
  cases found : graph.find? identity with
  | none => simp [ScoredEdge, TypeGraph.nodeAt, found, scoredChildren] at edge
  | some node =>
      simp only [ScoredEdge, TypeGraph.nodeAt, found, Option.getD_some, scoredChildren] at edge
      exact within node (List.mem_of_find?_eq_some found) _ (List.mem_of_mem_filter edge)

/-- A call on the shifted graph in an agreeing cache has the same result. -/
theorem Scorer.alike_scoreWithin_shift
    (scorer : Scorer α) {graph : TypeGraph} {base : Nat} (offset : Nat)
    (within : graph.ChildrenFrom base) (room : Nat)
    (request : Request) (above : base ≤ request.identity)
    {cache shifted : ScoreCache Nat α} (agrees : AgreesFrom base offset cache shifted) :
    Alike (AgreesFrom base offset)
      (outcome (scorer.scoreWithin graph room request.identity request.depth) cache)
      (outcome
        (scorer.scoreWithin (graph.shift offset) room (request.identity + offset) request.depth)
        shifted) := by
  induction room generalizing request cache shifted with
  | zero => exact ⟨rfl, agrees⟩
  | succ room hypothesis =>
      rcases request with ⟨identity, depth⟩
      simp only [outcome_scoreWithin_succ, agrees.finished identity above,
        agrees.active identity above]
      cases finished : cache.get? identity with
      | some score => exact ⟨rfl, agrees⟩
      | none =>
          by_cases active : identity ∈ cache.active
          · simp only [active, if_true]
            exact ⟨rfl, agrees⟩
          · simp only [active, if_false]
            have children :
                Alike (AgreesFrom base offset)
                  (outcome (scorer.scoreAllWithin graph room (childRequests graph identity depth))
                    (cache.mark identity))
                  (outcome
                    (scorer.scoreAllWithin (graph.shift offset) room
                      (childRequests (graph.shift offset) (identity + offset) depth))
                    (shifted.mark (identity + offset))) := by
              rw [childRequests_shift, scoreAllWithin, scoreAllWithin, List.mapM_map]
              apply outcome_mapM_alike _ _ _ (agrees.mark identity)
              intro child member inner innerShifted innerAgrees
              exact hypothesis child (base_le_of_mem_childRequests within member) innerAgrees
            revert children
            rcases outcome (scorer.scoreAllWithin graph room (childRequests graph identity depth))
              (cache.mark identity) with ⟨result, inner⟩
            rcases outcome
              (scorer.scoreAllWithin (graph.shift offset) room
                (childRequests (graph.shift offset) (identity + offset) depth))
              (shifted.mark (identity + offset)) with ⟨otherResult, innerShifted⟩
            rintro ⟨rfl, innerAgrees⟩
            cases otherResult with
            | error fault => exact ⟨rfl, innerAgrees⟩
            | ok scores =>
                cases scorer.arithmetic.weight? depth with
                | none => exact ⟨rfl, innerAgrees⟩
                | some factor =>
                    simp only [TypeGraph.nodeAt_shift, total_shift]
                    exact ⟨rfl, innerAgrees.finish identity _⟩

/-! ## The score of a node on its own -/

/-- The score that a new scorer gives to what a node is built to. -/
def Scorer.freshScore (scorer : Scorer α) (supply : Nat) (node : Value) (depth : Int) :
    Except Fault α :=
  match outcome (build node) supply with
  | (.error fault, _) => .error fault
  | (.ok tree, _) => (outcome (scorer.score tree.toGraph tree.identity depth) .empty).1

theorem childrenFrom_of_buildWithin
    {room : Nat} {node : Value} {supply next : Nat} {tree : TypeTree}
    (built : outcome (buildWithin room node) supply = (.ok tree, next)) :
    tree.toGraph.ChildrenFrom supply := by
  intro parent member child isChild
  rcases tree.levels_of_mem_graphNodes 0 member with ⟨own, _, childLevels⟩
  have level := List.mem_map_of_mem (f := Prod.fst) (childLevels child isChild)
  rw [tree.levels_map_fst 0, (preorder_of_buildWithin built).1, List.mem_range'_1] at level
  exact level.1

theorem agreesFrom_empty
    {supply : Nat} {cache : ScoreCache Nat α}
    (untouched : ∀ identity, supply ≤ identity → cache.Untouched identity) :
    AgreesFrom 0 supply .empty cache := by
  constructor
  · intro identity _
    exact (untouched (identity + supply) (by omega)).1
  · intro identity _
    have inactive := (untouched (identity + supply) (by omega)).2
    simp [inactive, ScoreCache.empty]

/-- A shifted tree gets the same score, in a cache that knows nothing about its identities. -/
theorem Scorer.score_shift
    (scorer : Scorer α) {node : Value} {root : TypeTree} {last : Nat}
    (built : outcome (build node) 0 = (.ok root, last))
    {supply : Nat} {cache : ScoreCache Nat α}
    (untouched : ∀ identity, supply ≤ identity → cache.Untouched identity) (depth : Int) :
    (outcome
      (scorer.score (root.shift supply).toGraph (root.shift supply).identity depth) cache).1 =
      (outcome (scorer.score root.toGraph root.identity depth) .empty).1 := by
  rw [TypeTree.toGraph_shift, TypeTree.identity_shift]
  have alike :=
    scorer.alike_scoreWithin_shift supply (childrenFrom_of_buildWithin built) Nesting.typeRoom
      ⟨root.identity, depth⟩ (Nat.zero_le _) (agreesFrom_empty untouched)
  exact alike.1

/-- In a cache that knows nothing from the supply on, a tree gets the score of its node. -/
theorem Scorer.score_eq_freshScore
    (scorer : Scorer α) {node : Value} {supply next : Nat} {tree : TypeTree}
    (built : outcome (build node) supply = (.ok tree, next))
    {cache : ScoreCache Nat α}
    (untouched : ∀ identity, supply ≤ identity → cache.Untouched identity) (depth : Int) :
    (outcome (scorer.score tree.toGraph tree.identity depth) cache).1 =
      scorer.freshScore 0 node depth := by
  rw [outcome_build] at built
  rcases first : outcome (build node) 0 with ⟨result, last⟩
  rw [first] at built
  cases result with
  | error fault => simp [Except.map] at built
  | ok root =>
      simp only [Except.map, Prod.mk.injEq, Except.ok.injEq] at built
      rcases built with ⟨rfl, -⟩
      rw [scorer.score_shift first untouched, freshScore, first]

/-- The supply does not matter to the score of a node. -/
theorem Scorer.freshScore_eq (scorer : Scorer α) (supply : Nat) (node : Value) (depth : Int) :
    scorer.freshScore supply node depth = scorer.freshScore 0 node depth := by
  rcases built : outcome (build node) supply with ⟨result, next⟩
  cases result with
  | ok tree =>
      have untouched : ∀ identity, supply ≤ identity →
          (ScoreCache.empty : ScoreCache Nat α).Untouched identity :=
        fun _ _ => ⟨rfl, List.not_mem_nil⟩
      rw [← scorer.score_eq_freshScore built untouched, freshScore, built]
  | error fault =>
      rw [freshScore, built]
      rw [outcome_build] at built
      rcases first : outcome (build node) 0 with ⟨result, last⟩
      rw [first] at built
      cases result with
      | ok root => simp [Except.map] at built
      | error other =>
          simp only [Except.map, Prod.mk.injEq, Except.error.injEq] at built
          rw [freshScore, first, built.1]

/-! ## What scoring a built tree leaves alone -/

theorem Reaches.exists_path
    {graph : TypeGraph} {cache : ScoreCache Nat α} {source target : Nat}
    (reaches : Reaches graph cache source target) :
    ∃ length, ScoredPath graph source target length := by
  rcases reaches with ⟨_, steps⟩
  induction steps with
  | refl => exact ⟨0, .here⟩
  | tail _ step hypothesis =>
      rcases hypothesis with ⟨length, path⟩
      exact ⟨length + 1, path.step step.1⟩

theorem ScoredPath.lt_of_build
    {node : Value} {supply next : Nat} {tree : TypeTree}
    (built : outcome (build node) supply = (.ok tree, next))
    {target length : Nat} (path : ScoredPath tree.toGraph tree.identity target length) :
    target < next := by
  rcases path.mem_graphNodes (distinct_of_buildWithin built) with ⟨found, member, rfl⟩
  rcases preorder_of_buildWithin built with ⟨numbers, rfl⟩
  have listed := List.mem_map_of_mem (f := TypeNode.identity) member
  rw [TypeTree.toGraph, TypeTree.graphNodes_map_identity, numbers, List.mem_range'_1] at listed
  exact listed.2

/-- Scoring a tree leaves all identities untouched that come after those of the tree. -/
theorem untouched_of_score_of_build
    {scorer : Scorer α} {node : Value} {supply next : Nat} {tree : TypeTree}
    (built : outcome (build node) supply = (.ok tree, next))
    {cache after : ScoreCache Nat α} {depth : Int} {score : α}
    (ran : outcome (scorer.score tree.toGraph tree.identity depth) cache = (.ok score, after))
    {identity : Nat} (later : next ≤ identity) (untouched : cache.Untouched identity) :
    after.Untouched identity := by
  rcases Scorer.visits_of_scoreWithin ⟨tree.identity, depth⟩ ran with ⟨journal, visits⟩
  constructor
  · by_contra finished
    have member := (visits.mem_journal_iff untouched.1).mpr finished
    rcases visits.mem_journal_iff_reaches.mp member with ⟨request, requested, reaches⟩
    rcases List.mem_singleton.mp requested with rfl
    rcases reaches.exists_path with ⟨length, path⟩
    have earlier := path.lt_of_build built
    omega
  · rw [visits.active_eq]
    exact untouched.2

end TypeGauge.Score
