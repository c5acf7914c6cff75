import TypeGauge.Types.Basic

/-!
# Type graphs

Scoring works on type graphs, in which a node refers to the nodes it is made of by
their identities.  Nodes may be shared and references may run in circles.  A type
tree is a type graph without either.
-/

namespace TypeGauge.Types

/-- A node of a type graph. -/
structure TypeNode where
  identity : Nat
  kind : TypeKind
  memberCount : Nat
  extendsCount : Nat
  /-- The identities of the type expressions that it is made of. -/
  children : List Nat
deriving DecidableEq, Repr, Inhabited

/-- A finite collection of nodes. -/
structure TypeGraph where
  nodes : List TypeNode
deriving DecidableEq, Repr, Inhabited

namespace TypeGraph

/-- The node with an identity. -/
def find? (graph : TypeGraph) (identity : Nat) : Option TypeNode :=
  graph.nodes.find? fun node => node.identity == identity

/-- The kind of the node with an identity; a reference that leads nowhere is of unknown kind. -/
def kindOf (graph : TypeGraph) (identity : Nat) : TypeKind :=
  match graph.find? identity with
  | some node => node.kind
  | none => .unknown

/-- Change the node with an identity. -/
def modify (graph : TypeGraph) (identity : Nat) (change : TypeNode → TypeNode) : TypeGraph where
  nodes := graph.nodes.map fun node => if node.identity == identity then change node else node

end TypeGraph

/-- The node of a type graph that the root of a type tree becomes. -/
def TypeTree.rootNode : TypeTree → TypeNode
  | .node head children =>
      ⟨head.identity, head.kind, head.memberCount, head.extendsCount,
        children.map TypeTree.identity⟩

mutual

/-- The nodes of a type tree, every node before its children. -/
def TypeTree.graphNodes : TypeTree → List TypeNode
  | .node head children =>
      TypeTree.rootNode (.node head children) :: TypeTree.graphNodesAll children

/-- The nodes of several type trees in turn. -/
def TypeTree.graphNodesAll : List TypeTree → List TypeNode
  | [] => []
  | tree :: rest => TypeTree.graphNodes tree ++ TypeTree.graphNodesAll rest

end

/-- A type tree as a type graph. -/
def TypeTree.toGraph (tree : TypeTree) : TypeGraph where
  nodes := tree.graphNodes

end TypeGauge.Types
