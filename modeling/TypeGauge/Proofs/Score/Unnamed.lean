import TypeGauge.Proofs.Score.Renaming

/-!
# Scores do not depend on names

A type tree keeps the name that a node declares or refers to and what the node declares itself
to be.  Scoring works on the graph of the tree, in which neither is left.  So the score of a
node depends on its tree without names, and building that tree reads no names: it takes the
kind, the position, the counts and the parts of every node.
-/

namespace TypeGauge.Types

open TypeGauge.Data TypeGauge.Syntax

/-- A head without names. -/
def TypeHead.unnamed (head : TypeHead) : TypeHead :=
  { head with name := .null, declared := .null }

mutual

/-- The same tree without names. -/
def TypeTree.unnamed : TypeTree → TypeTree
  | .node head children => .node head.unnamed (TypeTree.unnamedAll children)

/-- The same trees without names. -/
def TypeTree.unnamedAll : List TypeTree → List TypeTree
  | [] => []
  | tree :: rest => tree.unnamed :: TypeTree.unnamedAll rest

end

/-- An outline without a name. -/
def Outline.unnamed (found : Outline) : Outline :=
  { found with name := .null }

namespace TypeTree

theorem unnamedAll_eq_map (trees : List TypeTree) : unnamedAll trees = trees.map unnamed := by
  induction trees with
  | nil => simp [unnamedAll]
  | cons tree rest hypothesis => simp [unnamedAll, hypothesis]

@[simp]
theorem identity_unnamed (tree : TypeTree) : tree.unnamed.identity = tree.identity := by
  cases tree with
  | node root children => simp [unnamed, identity, head, TypeHead.unnamed]

mutual

theorem graphNodes_unnamed (tree : TypeTree) : tree.unnamed.graphNodes = tree.graphNodes := by
  cases tree with
  | node head children =>
      rw [unnamed, graphNodes, graphNodes, graphNodesAll_unnamed children]
      simp [rootNode, unnamedAll_eq_map, TypeHead.unnamed]

theorem graphNodesAll_unnamed (trees : List TypeTree) :
    graphNodesAll (unnamedAll trees) = graphNodesAll trees := by
  cases trees with
  | nil => simp [unnamedAll]
  | cons tree rest =>
      rw [unnamedAll, graphNodesAll, graphNodesAll, graphNodes_unnamed tree,
        graphNodesAll_unnamed rest]

end

theorem toGraph_unnamed (tree : TypeTree) : tree.unnamed.toGraph = tree.toGraph := by
  simp [toGraph, graphNodes_unnamed]

end TypeTree

/-! ## Building without names -/

/-- Build the type tree of a node and forget the names. -/
def buildUnnamed (room : Nat) (node : Value) : BuildM TypeTree :=
  TypeTree.unnamed <$> buildWithin room node

/-- The root of the tree without names that a node becomes. -/
def unnamedHead (identity : Nat) (kind : TypeKind) (source : Option Position) (found : Outline) :
    TypeHead :=
  ⟨identity, kind, .null, found.memberCount, found.extendsCount, source, .null⟩

/-- What building without names does with a node, in every case. -/
theorem outcome_buildUnnamed_succ (room : Nat) (node : Value) (supply : Nat) :
    outcome (buildUnnamed (room + 1) node) supply =
      match readHead node with
      | .error fault => (.error fault, supply)
      | .ok (kind, source) =>
          match (outline kind node).map Outline.unnamed with
          | .error fault => (.error fault, supply + 1)
          | .ok found =>
              match outcome (found.parts.mapM (buildUnnamed room)) (supply + 1) with
              | (.error fault, next) => (.error fault, next)
              | (.ok children, next) =>
                  (.ok (.node (unnamedHead supply kind source found) children), next) := by
  have inside (parts : List Value) : parts.mapM (buildUnnamed room) =
      List.map TypeTree.unnamed <$> parts.mapM (buildWithin room) :=
    mapM_map_eq TypeTree.unnamed (buildWithin room) parts
  rw [buildUnnamed, outcome_map, outcome_buildWithin_succ]
  simp only [inside, outcome_map]
  cases readHead node with
  | error fault => rfl
  | ok facts =>
      rcases facts with ⟨kind, source⟩
      simp only
      cases outline kind node with
      | error fault => rfl
      | ok found =>
          simp only [Except.map, Outline.unnamed]
          rcases outcome (found.parts.mapM (buildWithin room)) (supply + 1) with ⟨result, next⟩
          cases result with
          | error fault => rfl
          | ok children =>
              simp only [TypeTree.unnamed, TypeTree.unnamedAll_eq_map]
              rfl

end TypeGauge.Types

namespace TypeGauge.Score

open TypeGauge.Data TypeGauge.Types

variable {α : Type} (scorer : Scorer α)

/-- The score of a node is the score of its tree without names. -/
theorem Scorer.freshScore_eq_unnamed (supply : Nat) (node : Value) (depth : Int) :
    scorer.freshScore supply node depth =
      match outcome (buildUnnamed Nesting.typeRoom node) supply with
      | (.error fault, _) => .error fault
      | (.ok tree, _) => (outcome (scorer.score tree.toGraph tree.identity depth) .empty).1 := by
  rw [freshScore, build, buildUnnamed, outcome_map]
  rcases outcome (buildWithin Nesting.typeRoom node) supply with ⟨result, next⟩
  cases result with
  | error fault => rfl
  | ok tree => simp only [Except.map, tree.toGraph_unnamed, tree.identity_unnamed]

/-- Nodes that become the same tree without names have the same score. -/
theorem Scorer.freshScore_eq_of_buildUnnamed {node other : Value}
    (same : buildUnnamed Nesting.typeRoom node = buildUnnamed Nesting.typeRoom other)
    (supply : Nat) (depth : Int) :
    scorer.freshScore supply node depth = scorer.freshScore supply other depth := by
  rw [freshScore_eq_unnamed, freshScore_eq_unnamed, same]

end TypeGauge.Score
