import TypeGauge.Data.Value
import TypeGauge.Fault

/-!
# Nodes of a syntax tree

A syntax tree arrives as a document.  A node is an object of it, and the field
`type` says what sort of node it is.  Nothing guarantees that a field holds what
it should, so the readers here work on any value and refuse the ones they cannot
use: a list is its items, a text is its characters, an object is its keys, and
nothing else has parts.
-/

namespace TypeGauge.Syntax

open TypeGauge.Data

/-- Insist on an object, of which fields can be asked. -/
def requireObject (value : Value) : Except Fault Unit :=
  if value.isObject then .ok () else .error (.noFields value.kind)

/-- The parts of a value. -/
def parts (value : Value) : Except Fault (List Value) :=
  match value with
  | .list items => .ok items
  | .text content => .ok (content.toList.map fun character => .text character.toString)
  | .object fields => .ok (fields.map fun entry => .text entry.1)
  | other => .error (.notIterable other.kind)

/-- The number of parts of a value. -/
def partCount (value : Value) : Except Fault Nat :=
  match value with
  | .list items => .ok items.length
  | .text content => .ok content.length
  | .object fields => .ok fields.length
  | other => .error (.noLength other.kind)

/-- The first part of a value that has parts. -/
def firstPart (value : Value) : Except Fault Value :=
  match value with
  | .list items => .ok (items.head?.getD .null)
  | .text content => .ok (.text (String.ofList (content.toList.take 1)))
  | .object _ => .error .noFirstPart
  | other => .error (.noPositions other.kind)

/-- The parts of a value that are nodes. -/
def partNodes (value : Value) : Except Fault (List Value) :=
  (parts value).map fun items => items.filter Value.isObject

/-- The nodes in the list under a key, none when the key is not there. -/
def nodesUnder (node : Value) (key : String) : Except Fault (List Value) :=
  partNodes ((node.field? key).getD (.list []))

/-- The value itself when it is a node, and otherwise nothing. -/
def nodeOnly (value : Value) : List Value :=
  if value.isObject then [value] else []

/-- What a node declares itself to be. -/
def typeOf (node : Value) : Value :=
  node.field "type"

/-- Whether a value is a node of the given type. -/
def isNodeOf (node : Value) (typeName : String) : Bool :=
  node.isObject && (typeOf node).isText typeName

/-- The name that a node carries under the given key. -/
def nameUnder (node : Value) (key : String) : Value :=
  let holder := node.field key
  if holder.isObject then holder.field "name" else .null

/-- Only values that can be told apart by name may be used as one. -/
def requireName (value : Value) : Except Fault Unit :=
  match value with
  | .list _ => .error (.notAName .list)
  | .object _ => .error (.notAName .object)
  | _ => .ok ()

@[simp]
theorem parts_list (items : List Value) : parts (.list items) = .ok items :=
  rfl

@[simp]
theorem partCount_list (items : List Value) : partCount (.list items) = .ok items.length :=
  rfl

theorem isObject_of_isNodeOf {node : Value} {name : String} (isNode : isNodeOf node name = true) :
    node.isObject = true := by
  rw [isNodeOf, Bool.and_eq_true] at isNode
  exact isNode.1

/-- A node has one type. -/
theorem typeName_eq_of_isNodeOf {node : Value} {name other : String}
    (isNode : isNodeOf node name = true) (isOther : isNodeOf node other = true) : name = other := by
  rw [isNodeOf, Bool.and_eq_true, Value.isText_iff] at isNode isOther
  exact Value.text.inj (isNode.2.symm.trans isOther.2)

end TypeGauge.Syntax
