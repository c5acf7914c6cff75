import TypeGauge.Nesting
import TypeGauge.Syntax.Node

/-!
# Walking a syntax tree

A walk visits a node and then the nodes directly inside it, in the order of the
document.  A field's value is a node when it is an object that declares a type; a
list is searched for such objects.  Fields that hold positions, tokens or links
back are passed over.

A visitor may do something of its own with a node, and then it is up to the visitor
to go on to the nodes inside.  `Visitor.visitWithin` is the walk of a visitor.  `tour`
gives the nodes that a visitor receives that only goes on, in order.  A walk that runs
out of room ends where that happens, and the tour is then incomplete.
-/

namespace TypeGauge.Check

open TypeGauge.Data TypeGauge.Syntax

/-- The fields that hold no parts of the program. -/
def skippedKeys : List String :=
  ["parent", "loc", "range", "tokens", "comments"]

/-- Whether a value is a node, which is an object that declares a type. -/
def isTyped (value : Value) : Bool :=
  value.isObject && value.hasField "type"

/-- The nodes directly inside the value of a field. -/
def nodesInside (value : Value) : List Value :=
  match value with
  | .list items => items.filter isTyped
  | other => if isTyped other then [other] else []

/-- The nodes directly inside a node. -/
def childNodes (node : Value) : List Value :=
  match node with
  | .object fields =>
      fields.flatMap fun entry =>
        if skippedKeys.contains entry.1 then [] else nodesInside entry.2
  | _ => []

/-- What is done on a walk. -/
structure Visitor (m : Type → Type) where
  /-- What is done whenever a node is received. -/
  receive : Value → m Unit
  /-- What is then done with the node, given how to go on to the nodes inside a node. -/
  handle : (inside : Value → m Unit) → Value → m Unit
  /-- What is done where there is no room left. -/
  refuse : m Unit

namespace Visitor

variable {m : Type → Type} [Monad m]

/-- Visit nodes in turn. -/
def visitEach (visit : Value → m Unit) : List Value → m Unit
  | [] => return ()
  | node :: rest => do
      visit node
      visitEach visit rest

/-- Visit a node, at most `room` levels deep. -/
def visitWithin (visitor : Visitor m) : (room : Nat) → Value → m Unit
  | 0, _ => visitor.refuse
  | room + 1, node => do
      visitor.receive node
      visitor.handle (fun node => visitEach (visitor.visitWithin room) (childNodes node)) node

end Visitor

/-- The nodes that a walk visits, and whether it came to its end. -/
structure Tour where
  visited : List Value
  isComplete : Bool
deriving Inhabited

/-- One tour after the other, as far as the first one comes. -/
def Tour.andThen (first second : Tour) : Tour :=
  if first.isComplete then ⟨first.visited ++ second.visited, second.isComplete⟩ else first

/-- The tours of several nodes in turn. -/
def tourAll (tourOne : Value → Tour) : List Value → Tour
  | [] => ⟨[], true⟩
  | node :: rest => (tourOne node).andThen (tourAll tourOne rest)

/-- The tour of a node, at most `room` levels deep. -/
def tourWithin : (room : Nat) → Value → Tour
  | 0, _ => ⟨[], false⟩
  | room + 1, node =>
      let inside := tourAll (tourWithin room) (childNodes node)
      ⟨node :: inside.visited, inside.isComplete⟩

/-- The tour of a node. -/
def tour (node : Value) : Tour :=
  tourWithin Nesting.nodeRoom node

/-- What the visited nodes of a whole walk declare themselves to be, in order. -/
def visitOrder (node : Value) : Except Fault (List Value) := do
  requireObject node
  let found := tour node
  if found.isComplete then return found.visited.map typeOf else .error .tooDeep

end TypeGauge.Check
