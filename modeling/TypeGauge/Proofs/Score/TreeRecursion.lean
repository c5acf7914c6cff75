import TypeGauge.Proofs.Score.PlainRecursion
import TypeGauge.Proofs.Types.Numbering
import Mathlib.Data.List.Nodup

/-!
# Scoring type trees

A type tree that is built from a node has distinct identities, so in its graph
every node stands on one level and all scored paths to it have the same length.
The scorer therefore agrees with plain recursion on every such tree.  Plain
recursion on the graph of a tree is in turn recursion on the tree itself,
`plainScore`, in which identities play no part.
-/

namespace TypeGauge.Types.TypeTree

mutual

/-- The identities of all nodes with the levels on which they stand. -/
def levels (level : Nat) : TypeTree → List (Nat × Nat)
  | .node head children => (head.identity, level) :: levelsAll (level + 1) children

/-- The identities of all nodes of trees that stand on the same level. -/
def levelsAll (level : Nat) : List TypeTree → List (Nat × Nat)
  | [] => []
  | tree :: rest => levels level tree ++ levelsAll level rest

end

mutual

theorem levels_map_fst (level : Nat) (tree : TypeTree) :
    (tree.levels level).map Prod.fst = tree.preorder.map TypeHead.identity := by
  cases tree with
  | node head children =>
      simp [levels, preorder, levelsAll_map_fst (level + 1) children]

theorem levelsAll_map_fst (level : Nat) (trees : List TypeTree) :
    (levelsAll level trees).map Prod.fst =
      (preorderAll trees).map TypeHead.identity := by
  cases trees with
  | nil => rfl
  | cons tree rest =>
      simp [levelsAll, preorderAll, levels_map_fst level tree, levelsAll_map_fst level rest]

end

mutual

theorem graphNodes_map_identity (tree : TypeTree) :
    tree.graphNodes.map TypeNode.identity = tree.preorder.map TypeHead.identity := by
  cases tree with
  | node head children =>
      simp [graphNodes, preorder, rootNode, graphNodesAll_map_identity children]

theorem graphNodesAll_map_identity (trees : List TypeTree) :
    (graphNodesAll trees).map TypeNode.identity =
      (preorderAll trees).map TypeHead.identity := by
  cases trees with
  | nil => rfl
  | cons tree rest =>
      simp [graphNodesAll, preorderAll, graphNodes_map_identity tree,
        graphNodesAll_map_identity rest]

end

theorem root_mem_levels (level : Nat) (tree : TypeTree) :
    (tree.identity, level) ∈ tree.levels level := by
  cases tree with
  | node head children => simp [levels, identity, TypeTree.head]

theorem mem_levelsAll_iff (level : Nat) (trees : List TypeTree) (entry : Nat × Nat) :
    entry ∈ levelsAll level trees ↔ ∃ tree ∈ trees, entry ∈ tree.levels level := by
  induction trees with
  | nil => simp [levelsAll]
  | cons tree rest hypothesis => simp [levelsAll, hypothesis]

theorem mem_graphNodesAll_iff (trees : List TypeTree) (node : TypeNode) :
    node ∈ graphNodesAll trees ↔ ∃ tree ∈ trees, node ∈ tree.graphNodes := by
  induction trees with
  | nil => simp [graphNodesAll]
  | cons tree rest hypothesis => simp [graphNodesAll, hypothesis]

/-- The children of a node stand one level below it. -/
theorem levels_of_mem_graphNodes
    (tree : TypeTree) (level : Nat) {node : TypeNode} (member : node ∈ tree.graphNodes) :
    ∃ own, (node.identity, own) ∈ tree.levels level ∧
      ∀ child ∈ node.children, (child, own + 1) ∈ tree.levels level := by
  cases tree with
  | node head children =>
      rw [graphNodes, List.mem_cons] at member
      rcases member with rfl | below
      · refine ⟨level, root_mem_levels level _, ?_⟩
        intro child isChild
        rcases List.mem_map.mp isChild with ⟨tree, treeMember, rfl⟩
        rw [levels]
        exact List.mem_cons_of_mem _
          ((mem_levelsAll_iff _ _ _).mpr ⟨tree, treeMember, root_mem_levels _ tree⟩)
      · rcases (mem_graphNodesAll_iff _ _).mp below with ⟨tree, treeMember, nodeMember⟩
        rcases levels_of_mem_graphNodes tree (level + 1) nodeMember with ⟨own, found, childLevels⟩
        have lift : ∀ entry ∈ tree.levels (level + 1),
            entry ∈ (TypeTree.node head children).levels level := by
          intro entry inside
          rw [levels]
          exact List.mem_cons_of_mem _ ((mem_levelsAll_iff _ _ _).mpr ⟨tree, treeMember, inside⟩)
        exact ⟨own, lift _ found, fun child isChild => lift _ (childLevels child isChild)⟩

/-- No two nodes have the same identity. -/
def Distinct (tree : TypeTree) : Prop :=
  (tree.preorder.map TypeHead.identity).Nodup

/-- An identity stands on one level of a tree with distinct identities. -/
theorem Distinct.level_unique
    {tree : TypeTree} (distinct : tree.Distinct) {level identity first second : Nat}
    (firstMember : (identity, first) ∈ tree.levels level)
    (secondMember : (identity, second) ∈ tree.levels level) :
    first = second := by
  have keys : ((tree.levels level).map Prod.fst).Nodup := by
    rw [levels_map_fst]
    exact distinct
  have same := List.inj_on_of_nodup_map keys firstMember secondMember rfl
  exact (Prod.mk.inj same).2

end TypeGauge.Types.TypeTree

namespace TypeGauge.Types

theorem TypeGraph.find?_of_nodup
    {graph : TypeGraph} (distinct : (graph.nodes.map TypeNode.identity).Nodup)
    {node : TypeNode} (member : node ∈ graph.nodes) :
    graph.find? node.identity = some node := by
  cases found : graph.find? node.identity with
  | none =>
      have missed := List.find?_eq_none.mp found node member
      simp at missed
  | some other =>
      have named : other.identity = node.identity := by
        simpa using List.find?_some found
      have otherMember := List.mem_of_find?_eq_some found
      rw [List.inj_on_of_nodup_map distinct otherMember member named]

/-- The graph finds every node of the tree under its identity. -/
def TypeGraph.Holds (graph : TypeGraph) (tree : TypeTree) : Prop :=
  ∀ node ∈ tree.graphNodes, graph.find? node.identity = some node

theorem TypeTree.Distinct.toGraph_holds {tree : TypeTree} (distinct : tree.Distinct) :
    tree.toGraph.Holds tree := by
  intro node member
  have identities : (tree.toGraph.nodes.map TypeNode.identity).Nodup := by
    rw [TypeTree.toGraph, TypeTree.graphNodes_map_identity]
    exact distinct
  exact TypeGraph.find?_of_nodup identities member

/-- A tree that is built has distinct identities. -/
theorem distinct_of_buildWithin
    {room : Nat} {node : Data.Value} {supply next : Nat} {tree : TypeTree}
    (built : outcome (buildWithin room node) supply = (.ok tree, next)) :
    tree.Distinct := by
  rw [TypeTree.Distinct, (preorder_of_buildWithin built).1]
  exact List.nodup_range'

/-- A tree that is built within some room has no more levels than that. -/
theorem levels_lt_of_buildWithin
    {room : Nat} {node : Data.Value} {supply next : Nat} {tree : TypeTree}
    (built : outcome (buildWithin room node) supply = (.ok tree, next))
    (level : Nat) {entry : Nat × Nat} (member : entry ∈ tree.levels level) :
    entry.2 < level + room := by
  induction room generalizing node supply next tree level with
  | zero => simp [buildWithin] at built
  | succ room hypothesis =>
      rcases exists_parts_of_buildWithin built with
        ⟨kind, source, found, children, partsBuilt, rfl⟩
      rw [TypeTree.levels, List.mem_cons] at member
      rcases member with rfl | below
      · simp
      · rcases (TypeTree.mem_levelsAll_iff _ _ _).mp below with ⟨child, childMember, entryMember⟩
        rcases exists_step_of_mem_answers partsBuilt childMember with ⟨_, _, _, _, childBuilt⟩
        have deeper := hypothesis childBuilt (level + 1) entryMember
        omega

end TypeGauge.Types

namespace TypeGauge.Score

open TypeGauge.Setup TypeGauge.Types

variable {α : Type}

/-- A scored path ends on the level that its length says. -/
theorem ScoredPath.mem_levels
    {tree : TypeTree} (distinct : tree.Distinct) {target length : Nat}
    (path : ScoredPath tree.toGraph tree.identity target length) :
    (target, length) ∈ tree.levels 0 := by
  induction path with
  | here => exact tree.root_mem_levels 0
  | @step between target length _ edge hypothesis =>
      cases found : tree.toGraph.find? between with
      | none => simp [ScoredEdge, TypeGraph.nodeAt, found, scoredChildren] at edge
      | some node =>
          have member : node ∈ tree.graphNodes := List.mem_of_find?_eq_some found
          have named : node.identity = between := by
            simpa using List.find?_some found
          rcases tree.levels_of_mem_graphNodes 0 member with ⟨own, ownLevel, childLevels⟩
          rw [named] at ownLevel
          rcases distinct.level_unique hypothesis ownLevel with rfl
          simp only [ScoredEdge, TypeGraph.nodeAt, found, scoredChildren, Option.getD_some] at edge
          exact childLevels target (List.mem_of_mem_filter edge)

/-- The graph of a tree with distinct identities is graded. -/
theorem graded_of_distinct {tree : TypeTree} (distinct : tree.Distinct) :
    Graded tree.toGraph tree.identity := by
  intro target first second firstPath secondPath
  exact distinct.level_unique (firstPath.mem_levels distinct) (secondPath.mem_levels distinct)

/-- A tree that is built within some room can be scored within the same room. -/
theorem not_tooDeep_of_buildWithin
    {scorer : Scorer α} {room : Nat} {node : Data.Value} {supply next : Nat} {tree : TypeTree}
    (built : outcome (buildWithin room node) supply = (.ok tree, next))
    (depth : Int) (cache : ScoreCache Nat α) :
    (outcome (scorer.scoreWithin tree.toGraph room tree.identity depth) cache).1 ≠
      .error .tooDeep := by
  intro refused
  rcases ran : outcome (scorer.scoreWithin tree.toGraph room tree.identity depth) cache with
    ⟨result, after⟩
  rw [ran] at refused
  obtain rfl : result = .error .tooDeep := refused
  rcases exists_path_of_tooDeep ⟨tree.identity, depth⟩ ran with ⟨target, length, path, long⟩
  have short := levels_lt_of_buildWithin built 0
    (path.mem_levels (distinct_of_buildWithin built))
  simp only at short
  omega

end TypeGauge.Score

/-! ## Recursion on the tree itself -/

namespace TypeGauge.Types.TypeTree

open TypeGauge.Score

variable {α : Type}

mutual

/-- The score of a tree at a depth, by recursion on the tree. -/
def plainScore (scorer : Scorer α) : TypeTree → Int → Option α
  | .node head children, depth => do
      let scores ← plainScores scorer head.kind children (depth + 1)
      let factor ← scorer.arithmetic.weight? depth
      return scorer.arithmetic.mul (scorer.total (rootNode (.node head children)) scores) factor

/-- The scores of those trees that are scored with a type expression of a kind. -/
def plainScores (scorer : Scorer α) (parent : TypeKind) : List TypeTree → Int → Option (List α)
  | [], _ => some []
  | tree :: rest, depth =>
      if follows parent tree.head.kind then do
        let score ← plainScore scorer tree depth
        let scores ← plainScores scorer parent rest depth
        return score :: scores
      else plainScores scorer parent rest depth

end

variable {scorer : Scorer α}

mutual

/-- Every tree has a plain score where depths have weights. -/
theorem exists_plainScore
    (weighs : scorer.arithmetic.Weighs) (tree : TypeTree) (depth : Int)
    (nonnegative : 0 ≤ depth) :
    ∃ score, tree.plainScore scorer depth = some score := by
  cases tree with
  | node head children =>
      rcases exists_plainScores weighs head.kind children (depth + 1) (by omega) with
        ⟨scores, scored⟩
      rcases weighs depth nonnegative with ⟨factor, weighed⟩
      rw [plainScore, scored, weighed]
      exact ⟨_, rfl⟩

theorem exists_plainScores
    (weighs : scorer.arithmetic.Weighs) (parent : TypeKind) (trees : List TypeTree) (depth : Int)
    (nonnegative : 0 ≤ depth) :
    ∃ scores, plainScores scorer parent trees depth = some scores := by
  cases trees with
  | nil => exact ⟨[], by simp [plainScores]⟩
  | cons tree rest =>
      rcases exists_plainScores weighs parent rest depth nonnegative with ⟨scores, scored⟩
      by_cases followed : follows parent tree.head.kind
      · rcases exists_plainScore weighs tree depth nonnegative with ⟨score, found⟩
        exact ⟨score :: scores, by simp [plainScores, followed, found, scored]⟩
      · exact ⟨scores, by simp [plainScores, followed, scored]⟩

end

/-! ## The two recursions agree -/

theorem rootNode_mem_graphNodes (tree : TypeTree) : tree.rootNode ∈ tree.graphNodes := by
  cases tree with
  | node head children => simp [graphNodes]

@[simp]
theorem rootNode_identity (tree : TypeTree) : tree.rootNode.identity = tree.identity := by
  cases tree with
  | node head children => rfl

@[simp]
theorem rootNode_kind (tree : TypeTree) : tree.rootNode.kind = tree.head.kind := by
  cases tree with
  | node head children => rfl

theorem find?_of_holds {graph : TypeGraph} {tree : TypeTree} (held : graph.Holds tree) :
    graph.find? tree.identity = some tree.rootNode := by
  rw [← rootNode_identity]
  exact held _ tree.rootNode_mem_graphNodes

theorem holds_child
    {graph : TypeGraph} {head : TypeHead} {children : List TypeTree} {child : TypeTree}
    (held : graph.Holds (.node head children)) (member : child ∈ children) :
    graph.Holds child := by
  intro node inside
  apply held
  rw [graphNodes]
  exact List.mem_cons_of_mem _ ((mem_graphNodesAll_iff _ _).mpr ⟨child, member, inside⟩)

mutual

/-- In a graph that holds a tree, plain recursion gives the tree's plain score. -/
theorem plain_of_plainScore
    {graph : TypeGraph} (tree : TypeTree) (held : graph.Holds tree)
    {depth : Int} {score : α} (scored : tree.plainScore scorer depth = some score) :
    scorer.Plain graph tree.identity depth score := by
  have found : graph.nodeAt tree.identity = tree.rootNode := by
    rw [TypeGraph.nodeAt, find?_of_holds held, Option.getD_some]
  cases tree with
  | node head children =>
      simp only [plainScore, Option.bind_eq_bind, Option.bind_eq_some_iff, Option.pure_def,
        Option.some.injEq] at scored
      rcases scored with ⟨scores, childrenScored, factor, weighed, rfl⟩
      rw [← found]
      refine .intro ?_ weighed
      rw [found]
      exact plain_of_plainScores head.kind children (fun _ => holds_child held) childrenScored

theorem plain_of_plainScores
    {graph : TypeGraph} (parent : TypeKind) (trees : List TypeTree)
    (held : ∀ tree ∈ trees, graph.Holds tree)
    {depth : Int} {scores : List α}
    (scored : plainScores scorer parent trees depth = some scores) :
    List.Forall₂ (fun child score => scorer.Plain graph child depth score)
      ((trees.map identity).filter fun child => follows parent (graph.kindOf child)) scores := by
  cases trees with
  | nil =>
      rw [plainScores, Option.some.injEq] at scored
      subst scored
      exact .nil
  | cons tree rest =>
      have treeHeld := held tree List.mem_cons_self
      have restHeld := fun other member => held other (List.mem_cons_of_mem tree member)
      have kind : graph.kindOf tree.identity = tree.head.kind := by
        simp [TypeGraph.kindOf, find?_of_holds treeHeld]
      rw [List.map_cons, List.filter_cons, kind]
      by_cases followed : follows parent tree.head.kind
      · simp only [plainScores, followed, if_true, Option.bind_eq_bind, Option.bind_eq_some_iff,
          Option.pure_def, Option.some.injEq] at scored ⊢
        rcases scored with ⟨score, treeScored, others, restScored, rfl⟩
        exact .cons (plain_of_plainScore tree treeHeld treeScored)
          (plain_of_plainScores parent rest restHeld restScored)
      · simp only [plainScores, followed, Bool.false_eq_true, if_false] at scored ⊢
        exact plain_of_plainScores parent rest restHeld scored

end

end TypeGauge.Types.TypeTree

namespace TypeGauge.Score

open TypeGauge.Setup TypeGauge.Types

variable {α : Type}

/-- A node on a scored path from the root of a tree is a node of the tree. -/
theorem ScoredPath.mem_graphNodes
    {tree : TypeTree} (distinct : tree.Distinct) {target length : Nat}
    (path : ScoredPath tree.toGraph tree.identity target length) :
    ∃ node ∈ tree.toGraph.nodes, node.identity = target := by
  have member : target ∈ tree.toGraph.nodes.map TypeNode.identity := by
    rw [TypeTree.toGraph, tree.graphNodes_map_identity, ← tree.levels_map_fst 0]
    exact List.mem_map_of_mem (path.mem_levels distinct)
  exact List.mem_map.mp member

/--
Scoring a tree that was built, in a cache that touches none of its identities,
ends well and gives the plain score of the tree.
-/
theorem outcome_score_of_build
    {scorer : Scorer α} (weighs : scorer.arithmetic.Weighs)
    {node : Data.Value} {supply next : Nat} {tree : TypeTree}
    (built : outcome (build node) supply = (.ok tree, next))
    {depth : Int} (nonnegative : 0 ≤ depth) {cache : ScoreCache Nat α}
    (untouched : ∀ node ∈ tree.toGraph.nodes, cache.Untouched node.identity) :
    ∃ score after,
      outcome (scorer.score tree.toGraph tree.identity depth) cache = (.ok score, after) ∧
        tree.plainScore scorer depth = some score := by
  have distinct := distinct_of_buildWithin built
  have untouchedBelow : ∀ target length,
      ScoredPath tree.toGraph tree.identity target length → cache.Untouched target := by
    intro target length path
    rcases path.mem_graphNodes distinct with ⟨found, member, rfl⟩
    exact untouched found member
  rcases Scorer.exists_answer weighs tree.toGraph cache ⟨tree.identity, depth⟩ nonnegative with
    ⟨score, after, journal, visits, answers⟩
  have ran := (answers.or_tooDeep Nesting.typeRoom).resolve_right
    (not_tooDeep_of_buildWithin built depth cache)
  have plain := (visits.plain_of_untouched (graded_of_distinct distinct) untouchedBelow).1
  rcases tree.exists_plainScore weighs depth nonnegative with ⟨treeScore, scored⟩
  rw [plain.unique (tree.plain_of_plainScore distinct.toGraph_holds scored)] at ran
  exact ⟨treeScore, after, ran, scored⟩

/--
On a graded graph, in a cache that touches no node below the root, scoring the root
gives its plain score and finishes every node below it with the plain score at its
depth.  Every tree that is built makes such a graph with distinct identities, and
there plain recursion is recursion on the tree.
-/
theorem memoization_agrees_with_plain_recursion
    (scorer : Scorer α) (weighs : scorer.arithmetic.Weighs)
    (depth : Int) (nonnegative : 0 ≤ depth) (cache : ScoreCache Nat α) :
    (∀ (graph : TypeGraph) (root : Nat), Graded graph root →
      (∀ target length, ScoredPath graph root target length → cache.Untouched target) →
        ∃ score after,
          scorer.Answers graph ⟨root, depth⟩ cache score after ∧
            scorer.Plain graph root depth score ∧
            ∀ target length : Nat, ScoredPath graph root target length →
              ∃ found, after.get? target = some found ∧
                scorer.Plain graph target (depth + length) found) ∧
      ∀ (node : Data.Value) (supply next : Nat) (tree : TypeTree),
        outcome (build node) supply = (.ok tree, next) →
          (tree.toGraph.nodes.map TypeNode.identity).Nodup ∧
            Graded tree.toGraph tree.identity ∧
            ((∀ node ∈ tree.toGraph.nodes, cache.Untouched node.identity) →
              ∃ score after,
                outcome (scorer.score tree.toGraph tree.identity depth) cache =
                    (.ok score, after) ∧
                  tree.plainScore scorer depth = some score) := by
  constructor
  · intro graph root graded untouched
    rcases Scorer.exists_answer weighs graph cache ⟨root, depth⟩ nonnegative with
      ⟨score, after, journal, visits, answers⟩
    rcases visits.plain_of_untouched graded untouched with ⟨plain, below⟩
    exact ⟨score, after, answers, plain, below⟩
  · intro node supply next tree built
    have distinct := distinct_of_buildWithin built
    refine ⟨?_, graded_of_distinct distinct, outcome_score_of_build weighs built nonnegative⟩
    rw [TypeTree.toGraph, TypeTree.graphNodes_map_identity]
    exact distinct

/-- An intersection of two arrays of one shared type. -/
def sharedElement : TypeGraph where
  nodes :=
    [⟨0, .intersection, 0, 0, [1, 2]⟩, ⟨1, .array, 0, 0, [3]⟩, ⟨2, .array, 0, 0, [3]⟩,
      ⟨3, .primitive, 0, 0, []⟩]

theorem sharedElement_graded : Graded sharedElement 0 := by
  have levels : ∀ target length, ScoredPath sharedElement 0 target length →
      (target, length) ∈ [(0, 0), (1, 1), (2, 1), (3, 2)] := by
    intro target length path
    induction path with
    | here => simp
    | step _ edge hypothesis =>
        simp only [List.mem_cons, Prod.mk.injEq, List.not_mem_nil, or_false] at hypothesis
        rcases hypothesis with ⟨rfl, rfl⟩ | ⟨rfl, rfl⟩ | ⟨rfl, rfl⟩ | ⟨rfl, rfl⟩
        all_goals
          simp [ScoredEdge, scoredChildren, sharedElement, TypeGraph.nodeAt, TypeGraph.find?,
            follows] at edge <;>
          simp [edge]
  intro target first second firstPath secondPath
  have firstLevel := levels target first firstPath
  have secondLevel := levels target second secondPath
  simp only [List.mem_cons, Prod.mk.injEq, List.not_mem_nil, or_false] at firstLevel secondLevel
  omega

/-- The shared element is finished once, with its plain score two levels down. -/
theorem sharedElement_plain_score :
    Graded sharedElement 0 ∧
      ∃ score after found,
        (⟨doubles, .standard doubles⟩ : Scorer Float).Answers sharedElement ⟨0, 1⟩ .empty
            score after ∧
          (⟨doubles, .standard doubles⟩ : Scorer Float).Plain sharedElement 0 1 score ∧
          after.get? 3 = some found ∧
          (⟨doubles, .standard doubles⟩ : Scorer Float).Plain sharedElement 3 3 found := by
  refine ⟨sharedElement_graded, ?_⟩
  rcases (memoization_agrees_with_plain_recursion ⟨doubles, .standard doubles⟩ doubles_weighs 1
    (by decide) .empty).1 sharedElement 0 sharedElement_graded
    fun _ _ _ => ⟨rfl, List.not_mem_nil⟩ with
    ⟨score, after, answers, plain, below⟩
  have first : ScoredEdge sharedElement 0 1 := by decide
  have second : ScoredEdge sharedElement 1 3 := by decide
  rcases below 3 2 ((ScoredPath.here.step first).step second) with ⟨found, present, elementPlain⟩
  exact ⟨score, after, found, answers, plain, present, elementPlain⟩

end TypeGauge.Score
