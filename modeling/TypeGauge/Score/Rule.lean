import TypeGauge.Types.Graph

/-!
# Scoring rules

A rule says how the raw score of a type expression of a kind is added up: first
some addends, then the scores of its children, each with a surcharge if there is
one, and then some more addends.  A kind may pass over children, and the kinds
without a rule for children pass over all of them.
-/

namespace TypeGauge.Score

open TypeGauge.Types

/-- Something that is added to a raw score. -/
inductive Addend where
  /-- The policy's penalty for interfaces. -/
  | penalty
  /-- So many halves. -/
  | halves (count : Nat)
deriving DecidableEq, Repr, Inhabited

/-- A whole number as an addend. -/
def Addend.whole (number : Nat) : Addend :=
  .halves (2 * number)

/-- How the raw score of a type expression is added up. -/
structure Rule where
  /-- What is added before the children. -/
  opening : List Addend
  /-- What is added to the score of each child before it is added, if anything. -/
  surcharge : Option Addend
  /-- What is added after the children. -/
  closing : List Addend
deriving DecidableEq, Repr, Inhabited

/-- The rule for a node. -/
def Rule.ofNode (node : TypeNode) : Rule :=
  let count := node.children.length
  match node.kind with
  | .primitive | .rest | .optional | .unknown => ⟨[.whole 1], none, []⟩
  | .shortCircuit => ⟨[], none, []⟩
  | .interface =>
      ⟨[.penalty, .whole (5 * node.extendsCount), .whole (2 * node.memberCount)], none, []⟩
  | .typeLiteral => ⟨[.whole 2, .halves node.memberCount], none, []⟩
  | .union => ⟨[], none, [.whole (2 * (count - 1))]⟩
  | .intersection => ⟨[], none, [.whole (3 * count)]⟩
  | .array => ⟨[], none, [.whole 1]⟩
  | .tuple => ⟨[.whole 1], none, [.halves (3 * count)]⟩
  | .reference => ⟨[.whole 2], some (.whole 2), []⟩
  | .conditional => ⟨[.whole 3], none, []⟩
  | .mapped => ⟨[.whole 5], none, []⟩
  | .function => ⟨[.whole 2], none, []⟩

/-- Whether a child of a kind is scored with a type expression of a kind. -/
def follows (parent child : TypeKind) : Bool :=
  match parent with
  | .primitive | .shortCircuit | .rest | .optional | .unknown => false
  | .tuple => child != .rest && child != .optional
  | _ => true

/-- The children that are scored with a node. -/
def scoredChildren (graph : TypeGraph) (node : TypeNode) : List Nat :=
  node.children.filter fun child => follows node.kind (graph.kindOf child)

end TypeGauge.Score
