import TypeGauge.Nesting
import TypeGauge.Syntax.Ascription
import TypeGauge.Syntax.EntityName
import TypeGauge.Types.Basic

/-!
# Building type trees

A type tree is built from a node of a syntax tree.  `outline` reads one node: its
name, its counts and the nodes of the type expressions it is made of, which
depend on its kind.  `build` numbers the node and then builds its parts in order,
so identities are handed out in pre-order from a supply that only grows, also
when a part turns out to be malformed.
-/

namespace TypeGauge.Types

open TypeGauge.Data TypeGauge.Syntax

/-- What one node says about the type expression that it stands for. -/
structure Outline where
  name : Value
  memberCount : Nat
  extendsCount : Nat
  /-- The nodes of the type expressions that it is made of. -/
  parts : List Value
deriving Inhabited

/-- The outline of a type expression that is only made of other ones. -/
def Outline.ofParts (parts : List Value) : Outline :=
  ⟨.null, 0, 0, parts⟩

/-- The members of an interface declaration or of a type literal. -/
def members (kind : TypeKind) (node : Value) : Except Fault (List Value) :=
  if kind = .interface then
    let body := node.field "body"
    if body.isObject then nodesUnder body "body" else .ok []
  else nodesUnder node "members"

/-- The types that holders ascribe, in order. -/
def ascribedTypes (holders : List Value) : List Value :=
  holders.flatMap fun holder => nodeOnly (ascribedType holder)

/-- The parameters of a function type; older front-ends have another key for them. -/
def parameters (node : Value) : Except Fault (List Value) :=
  if (node.field "params").isNull then parts ((node.field? "parameters").getD (.list []))
  else parts (node.field "params")

/-- The constraint of a mapped type, which stands in one of two places. -/
def mappedConstraint (node : Value) : Value :=
  ((node.field "typeParameter").field "constraint").orElse (node.field "constraint")

/-- The nodes under several keys, in order. -/
def nodesAt (node : Value) (keys : List String) : List Value :=
  keys.flatMap fun key => nodeOnly (node.field key)

/-- Read one node of a type expression. -/
def outline (kind : TypeKind) (node : Value) : Except Fault Outline :=
  match kind with
  | .interface => do
      let extended ← partCount ((node.field "extends").orElse (.list []))
      let found ← members kind node
      return ⟨nameUnder node "id", found.length, extended, ascribedTypes found⟩
  | .typeLiteral => do
      let found ← members kind node
      return ⟨.null, found.length, 0, ascribedTypes found⟩
  | .union | .intersection => do
      return .ofParts (← nodesUnder node "types")
  | .array => return .ofParts (nodesAt node ["elementType"])
  | .tuple => do
      return .ofParts (← nodesUnder node "elementTypes")
  | .reference => do
      let arguments ← typeArguments node
      return ⟨dottedName (node.field "typeName"), 0, 0, arguments⟩
  | .conditional =>
      return .ofParts (nodesAt node ["checkType", "extendsType", "trueType", "falseType"])
  | .mapped =>
      return .ofParts (nodeOnly (mappedConstraint node) ++ nodesAt node [ascriptionKey])
  | .function => do
      let holders ← parameters node
      let result := (node.field "returnType").field ascriptionKey
      return .ofParts (ascribedTypes holders ++ nodeOnly result)
  | .rest | .optional => return .ofParts (nodesAt node [ascriptionKey])
  | .primitive | .shortCircuit | .unknown => return .ofParts []

/-- Building hands out identities from a supply and may fail; the supply is kept either way. -/
abbrev BuildM (α : Type) : Type :=
  ExceptT Fault (StateM Nat) α

/-- Take the next identity. -/
def fresh : BuildM Nat :=
  modifyGet fun next => (next, next + 1)

/-- Build several trees in turn. -/
def buildAll (buildOne : Value → BuildM TypeTree) : List Value → BuildM (List TypeTree)
  | [] => return []
  | part :: rest => do
      let tree ← buildOne part
      let trees ← buildAll buildOne rest
      return tree :: trees

/-- Build the type tree of a node, followed at most `room` levels deep. -/
def buildWithin : (room : Nat) → Value → BuildM TypeTree
  | 0, _ => throw .tooDeep
  | room + 1, node => do
      requireObject node
      let kind ← TypeKind.ofValue (typeOf node)
      let source ← positionOf node
      let identity ← fresh
      let found ← outline kind node
      let children ← buildAll (buildWithin room) found.parts
      return .node
        ⟨identity, kind, found.name, found.memberCount, found.extendsCount, source, typeOf node⟩
        children

/-- Build the type tree of a node. -/
def build (node : Value) : BuildM TypeTree :=
  buildWithin Nesting.typeRoom node

end TypeGauge.Types
