import TypeGauge.Data.Value
import TypeGauge.Syntax.Position
import TypeGauge.Types.Kind

/-!
# Type trees

A type tree is a type expression as scoring sees it: a kind, the type
expressions it is made of, and the numbers of members and of extended types.
Every node has an identity.  Two nodes with the same structure are still two
nodes, and identities are what tells them apart.
-/

namespace TypeGauge.Types

open TypeGauge.Data TypeGauge.Syntax

/-- What a node of a type tree says about itself. -/
structure TypeHead where
  identity : Nat
  kind : TypeKind
  /-- The declared or referenced name, null when there is none. -/
  name : Value
  memberCount : Nat
  extendsCount : Nat
  source : Option Position
  /-- What the node of the syntax tree declares itself to be. -/
  declared : Value
deriving Inhabited

/-- A type expression. -/
inductive TypeTree where
  | node (head : TypeHead) (children : List TypeTree)
deriving Inhabited

namespace TypeTree

/-- What the root says about itself. -/
def head : TypeTree → TypeHead
  | .node head _ => head

/-- The type expressions that a type expression is made of. -/
def children : TypeTree → List TypeTree
  | .node _ children => children

/-- The identity of the root. -/
def identity (tree : TypeTree) : Nat :=
  tree.head.identity

mutual

/-- The heads of all nodes, every node before its children. -/
def preorder : TypeTree → List TypeHead
  | .node head children => head :: preorderAll children

/-- The heads of all nodes of several trees in turn. -/
def preorderAll : List TypeTree → List TypeHead
  | [] => []
  | tree :: rest => preorder tree ++ preorderAll rest

end

mutual

/-- The number of nodes. -/
def size : TypeTree → Nat
  | .node _ children => sizeAll children + 1

/-- The number of nodes of several trees together. -/
def sizeAll : List TypeTree → Nat
  | [] => 0
  | tree :: rest => size tree + sizeAll rest

end

end TypeTree

end TypeGauge.Types
