import TypeGauge.Check.StaticOf
import TypeGauge.Proofs.Data.Inside
import TypeGauge.Types.Build
import Mathlib.Data.List.Basic

/-!
# Changes that readers see through

A change of documents keeps the shape of values when it leaves every value of the sort that it
is, works on lists item by item and leaves values without parts alone.  Where a changed node
has under a key what the node has there, changed, the readers of that key find in the changed
node what they find in the node, changed.  This is shown here for one reader of syntax trees
after the other.  Counting parts asks for a value that is no object, and dotted names ask for
leaves whose names the change leaves alone.
-/

namespace TypeGauge.Syntax

open TypeGauge.Data

/-- How a value and the changed value differ when the change keeps the shape. -/
inductive SameShape (change : Value → Value) : Value → Value → Prop where
  | plain {value : Value} (noList : value.kind ≠ .list) (noObject : value.kind ≠ .object) :
      SameShape change value value
  | list (items : List Value) : SameShape change (.list items) (.list (items.map change))
  | object {fields others : List (String × Value)} (empty : others.isEmpty = fields.isEmpty) :
      SameShape change (.object fields) (.object others)

/-- A change that keeps the sort of values, the items of lists and whatever has no parts. -/
def KeepsShape (change : Value → Value) : Prop :=
  ∀ value, SameShape change value (change value)

/-- A changed node has under a key what the node has there, changed. -/
def FindsUnder (change : Value → Value) (node : Value) (key : String) : Prop :=
  (change node).field? key = (node.field? key).map change

/-! ## Values of the same shape -/

namespace SameShape

variable {change : Value → Value} {value other : Value} (same : SameShape change value other)

include same

theorem eq_of_plain (noList : value.kind ≠ .list) (noObject : value.kind ≠ .object) :
    other = value := by
  cases same with
  | plain => rfl
  | list => exact absurd rfl noList
  | object => exact absurd rfl noObject

theorem kind : other.kind = value.kind := by
  cases same <;> rfl

theorem isObject : other.isObject = value.isObject := by
  cases same <;> rfl

theorem isNull : other.isNull = value.isNull := by
  cases same <;> rfl

theorem isText (content : String) : other.isText content = value.isText content := by
  cases same <;> rfl

theorem isName (name : Option String) : other.isName name = value.isName name := by
  cases name with
  | none => exact same.isNull
  | some content => exact same.isText content

theorem isPresent : other.isPresent = value.isPresent := by
  cases same with
  | plain => rfl
  | list items => simp [Value.isPresent]
  | object empty => simp only [Value.isPresent, empty]

theorem requireObject : requireObject other = requireObject value := by
  rw [Syntax.requireObject, Syntax.requireObject, same.isObject, same.kind]

theorem requireName : requireName other = requireName value := by
  cases same <;> rfl

theorem wholeOf : wholeOf other = wholeOf value := by
  cases same <;> rfl

/-- A value that is no object has as many parts as before. -/
theorem partCount (noObject : value.isObject = false) : partCount other = partCount value := by
  cases same with
  | plain => rfl
  | list items => rw [partCount_list, partCount_list, List.length_map]
  | object => cases noObject

/-- The nodes among the parts of a value are changed with it. -/
theorem partNodes (keeps : KeepsShape change) :
    partNodes other = (partNodes value).map (List.map change) := by
  have noNodes {β : Type} (items : List β) (content : β → String) :
      (items.map fun item => Value.text (content item)).filter Value.isObject = [] := by
    simp [List.filter_eq_nil_iff, Value.isObject]
  cases same with
  | plain noList noObject =>
      cases value with
      | list => exact absurd rfl noList
      | object => exact absurd rfl noObject
      | text => simp [Syntax.partNodes, parts, Except.map, noNodes]
      | _ => rfl
  | list items =>
      simp [Syntax.partNodes, parts, Except.map, List.filter_map, Function.comp_def,
        (keeps _).isObject]
  | object => simp [Syntax.partNodes, parts, Except.map, noNodes]

end SameShape

/-! ## Changed nodes -/

namespace KeepsShape

variable {change : Value → Value} (keeps : KeepsShape change)

include keeps

theorem null : change .null = .null :=
  (keeps .null).eq_of_plain (by decide) (by decide)

theorem nil : change (.list []) = .list [] := by
  have same := keeps (.list [])
  generalize change (.list []) = changed at same
  cases same with
  | plain => rfl
  | list => rfl

theorem text (content : String) : change (.text content) = .text content :=
  (keeps _).eq_of_plain (by simp [Value.kind]) (by simp [Value.kind])

/-- The first part of a value is changed with it. -/
theorem firstPart (value : Value) : firstPart (change value) = (firstPart value).map change := by
  have same := keeps value
  generalize change value = changed at same ⊢
  cases same with
  | plain noList noObject =>
      cases value with
      | list => exact absurd rfl noList
      | object => exact absurd rfl noObject
      | text => rw [Syntax.firstPart, Except.map, keeps.text]
      | _ => rfl
  | list items =>
      rw [Syntax.firstPart, Syntax.firstPart, Except.map, List.head?_map, ← keeps.null,
        Option.getD_map, keeps.null]
  | object => rfl

theorem orElse (first second : Value) :
    (change first).orElse (change second) = change (first.orElse second) := by
  rw [Value.orElse, Value.orElse, (keeps first).isPresent]
  split <;> rfl

theorem nodeOnly (value : Value) : nodeOnly (change value) = (nodeOnly value).map change := by
  rw [Syntax.nodeOnly, Syntax.nodeOnly, (keeps value).isObject]
  split <;> rfl

end KeepsShape

namespace FindsUnder

variable {change : Value → Value} {node : Value} {key : String}

theorem getD (finds : FindsUnder change node key) {default : Value}
    (kept : change default = default) :
    ((change node).field? key).getD default = change ((node.field? key).getD default) := by
  rw [FindsUnder] at finds
  rw [finds, ← Option.getD_map change, kept]

variable (keeps : KeepsShape change)

include keeps

theorem field (finds : FindsUnder change node key) :
    (change node).field key = change (node.field key) :=
  finds.getD keeps.null

theorem nodesUnder (finds : FindsUnder change node key) :
    nodesUnder (change node) key = (nodesUnder node key).map (List.map change) := by
  rw [Syntax.nodesUnder, Syntax.nodesUnder, finds.getD keeps.nil, (keeps _).partNodes keeps]

theorem isNodeOf (finds : FindsUnder change node "type") (typeName : String) :
    isNodeOf (change node) typeName = isNodeOf node typeName := by
  rw [Syntax.isNodeOf, Syntax.isNodeOf, typeOf, typeOf, finds.field keeps, (keeps node).isObject,
    (keeps _).isText]

end FindsUnder

section Readers

variable {change : Value → Value} (keeps : KeepsShape change)

include keeps

theorem ascribedType_change (finds : ∀ node, FindsUnder change node ascriptionKey)
    (holder : Value) : ascribedType (change holder) = change (ascribedType holder) := by
  rw [ascribedType, ascribedType, (finds _).field keeps, (finds _).field keeps,
    (keeps _).isObject]
  split
  · rfl
  · exact keeps.null.symm

theorem positionOf_change
    (finds : ∀ key ∈ ["loc", "start", "line", "column"], ∀ node, FindsUnder change node key)
    (node : Value) : positionOf (change node) = positionOf node := by
  have start : ((change node).field "loc").field "start" =
      change ((node.field "loc").field "start") := by
    rw [(finds "loc" (by simp) _).field keeps, (finds "start" (by simp) _).field keeps]
  have number {key : String} (member : key ∈ ["loc", "start", "line", "column"]) (holder : Value)
      (default : Int) :
      wholeOf (((change holder).field? key).getD (.whole default)) =
        wholeOf ((holder.field? key).getD (.whole default)) := by
    have plain := (keeps (.whole default)).eq_of_plain (by simp [Value.kind]) (by simp [Value.kind])
    rw [(finds key member holder).getD plain, (keeps _).wholeOf]
  simp only [positionOf, (keeps node).requireObject, start, (keeps _).isObject,
    number (show "line" ∈ ["loc", "start", "line", "column"] by simp),
    number (show "column" ∈ ["loc", "start", "line", "column"] by simp)]

end Readers

/-! ## Entity names -/

/-- The dotted name of any value, by the fields that it has. -/
theorem dottedName_eq (node : Value) :
    dottedName node =
      if isNodeOf node "Identifier" then node.field "name"
      else if isNodeOf node "TSQualifiedName" then
        joinNames (dottedName (node.field "left")) (dottedName (node.field "right"))
      else .null := by
  cases node with
  | object fields =>
      rw [dottedName, dottedNameUnder_eq, dottedNameUnder_eq]
      rfl
  | _ => simp [dottedName, isNodeOf, Value.isObject]

theorem isLeaf_of_isIdentifier {node : Value} (isIdentifier : isNodeOf node "Identifier" = true) :
    isNodeOf node "TSQualifiedName" = false := by
  by_contra isQualified
  rw [Bool.not_eq_false] at isQualified
  exact absurd (typeName_eq_of_isNodeOf isIdentifier isQualified) (by decide)

theorem dottedName_of_qualified {node : Value}
    (isQualified : isNodeOf node "TSQualifiedName" = true) :
    dottedName node =
      joinNames (dottedName (node.field "left")) (dottedName (node.field "right")) := by
  have noIdentifier : ¬ isNodeOf node "Identifier" = true := by
    intro isIdentifier
    simp [isLeaf_of_isIdentifier isIdentifier] at isQualified
  rw [dottedName_eq, if_neg noIdentifier, if_pos isQualified]

theorem dottedName_of_leaf {node : Value} (isLeaf : isNodeOf node "TSQualifiedName" = false) :
    dottedName node = if isNodeOf node "Identifier" then node.field "name" else .null := by
  rw [dottedName_eq, isLeaf]
  rfl

/-- Induction over the tree of qualified names of which any value is the root. -/
@[elab_as_elim]
theorem nameInduction {motive : Value → Prop} (node : Value)
    (leaf : ∀ node, isNodeOf node "TSQualifiedName" = false → motive node)
    (qualified : ∀ node, isNodeOf node "TSQualifiedName" = true →
      motive (node.field "left") → motive (node.field "right") → motive node) :
    motive node := by
  cases isQualified : isNodeOf node "TSQualifiedName" with
  | false => exact leaf node isQualified
  | true =>
      -- A side that is not there counts as null, which is nested less deep than the node too.
      have isObject := isObject_of_isNodeOf isQualified
      have leftSmaller := Value.nesting_field_lt isObject "left"
      have rightSmaller := Value.nesting_field_lt isObject "right"
      exact qualified node isQualified (nameInduction _ leaf qualified)
        (nameInduction _ leaf qualified)
termination_by node.nesting

/-- The names at the leaves of an entity name. -/
inductive LeafName : Value → Value → Prop where
  | identifier {node : Value} (isIdentifier : isNodeOf node "Identifier" = true) :
      LeafName node (node.field "name")
  | left {node name : Value} (isQualified : isNodeOf node "TSQualifiedName" = true)
      (leaf : LeafName (node.field "left") name) : LeafName node name
  | right {node name : Value} (isQualified : isNodeOf node "TSQualifiedName" = true)
      (leaf : LeafName (node.field "right") name) : LeafName node name

/-- An entity name has the same dotted form if the names at its leaves are left alone. -/
theorem dottedName_change {change : Value → Value} (keeps : KeepsShape change)
    (finds : ∀ key ∈ ["type", "name", "left", "right"], ∀ node, FindsUnder change node key)
    {node : Value} (kept : ∀ name, LeafName node name → change name = name) :
    dottedName (change node) = dottedName node := by
  have sameField {key : String} (member : key ∈ ["type", "name", "left", "right"])
      (node : Value) : (change node).field key = change (node.field key) :=
    (finds key member node).field keeps
  have sameType (node : Value) (typeName : String) :
      isNodeOf (change node) typeName = isNodeOf node typeName :=
    (finds "type" (by simp) node).isNodeOf keeps typeName
  induction node using nameInduction with
  | leaf node isLeaf =>
      rw [dottedName_of_leaf isLeaf, dottedName_of_leaf ((sameType node _).trans isLeaf), sameType]
      split
      · rename_i isIdentifier
        rw [sameField (by simp), kept _ (.identifier isIdentifier)]
      · rfl
  | qualified node isQualified left right =>
      rw [dottedName_of_qualified isQualified,
        dottedName_of_qualified ((sameType node _).trans isQualified),
        sameField (by simp), sameField (by simp),
        left fun name leaf => kept name (.left isQualified leaf),
        right fun name leaf => kept name (.right isQualified leaf)]

end TypeGauge.Syntax

namespace TypeGauge.Types

open TypeGauge.Data TypeGauge.Syntax

/-! ## What a type expression is made of -/

variable {change : Value → Value} (keeps : KeepsShape change)

include keeps

theorem ofValue_change (declared : Value) :
    TypeKind.ofValue (change declared) = TypeKind.ofValue declared := by
  have same := keeps declared
  generalize change declared = changed at same ⊢
  cases same <;> rfl

theorem nodesAt_change {node : Value} {keys : List String}
    (finds : ∀ key ∈ keys, FindsUnder change node key) :
    nodesAt (change node) keys = (nodesAt node keys).map change := by
  rw [nodesAt, nodesAt, List.map_flatMap]
  apply List.flatMap_congr
  intro key member
  rw [(finds key member).field keeps, keeps.nodeOnly]

theorem members_change (finds : ∀ key ∈ ["body", "members"], ∀ node, FindsUnder change node key)
    (kind : TypeKind) (node : Value) :
    members kind (change node) = (members kind node).map (List.map change) := by
  rw [members, members]
  split
  · simp only [(finds "body" (by simp) node).field keeps, (keeps _).isObject]
    split
    · exact (finds "body" (by simp) _).nodesUnder keeps
    · rfl
  · exact (finds "members" (by simp) node).nodesUnder keeps

section Ascriptions

variable (finds : ∀ node, FindsUnder change node ascriptionKey)

include finds

theorem ascribedTypes_change (holders : List Value) :
    ascribedTypes (holders.map change) = (ascribedTypes holders).map change := by
  rw [ascribedTypes, ascribedTypes, List.flatMap_map, List.map_flatMap]
  simp only [ascribedType_change keeps finds, keeps.nodeOnly]

/-- What the parts of a value ascribe is changed with the value. -/
theorem ascribedTypes_parts_change (value : Value) :
    (parts (change value)).map ascribedTypes =
      (parts value).map fun holders => (ascribedTypes holders).map change := by
  have noTypes {β : Type} (items : List β) (content : β → String) :
      ascribedTypes (items.map fun item => Value.text (content item)) = [] := by
    simp [ascribedTypes, ascribedType, Value.field, Value.field?, Value.isObject, nodeOnly]
  have same := keeps value
  generalize change value = changed at same ⊢
  cases same with
  | plain noList noObject =>
      cases value with
      | list => exact absurd rfl noList
      | object => exact absurd rfl noObject
      | text => simp [parts, Except.map, noTypes]
      | _ => rfl
  | list items => simp [parts, Except.map, ascribedTypes_change keeps finds]
  | object => simp [parts, Except.map, noTypes]

/-- What the parameters of a node ascribe is changed with the node. -/
theorem ascribedTypes_parameters_change {node : Value}
    (first : FindsUnder change node "params") (second : FindsUnder change node "parameters") :
    (parameters (change node)).map ascribedTypes =
      (parameters node).map fun holders => (ascribedTypes holders).map change := by
  rw [parameters, parameters, first.field keeps, second.getD keeps.nil, (keeps _).isNull]
  split
  · exact ascribedTypes_parts_change keeps finds _
  · exact ascribedTypes_parts_change keeps finds _

end Ascriptions

end TypeGauge.Types

namespace TypeGauge.Check

open TypeGauge.Data TypeGauge.Syntax

/-! ## Static-of references -/

variable {change : Value → Value} (keeps : KeepsShape change)

include keeps

/-- The only argument of a reference is changed with it. -/
theorem onlyArgument?_change {node : Value} (typed : FindsUnder change node "type")
    (rendered : isNodeOf node "TSTypeReference" = true →
      dottedName ((change node).field "typeName") = dottedName (node.field "typeName"))
    (arguments : isNodeOf node "TSTypeReference" = true →
      typeArguments (change node) = (typeArguments node).map (List.map change))
    (name : Option String) :
    onlyArgument? (change node) name = (onlyArgument? node name).map (Option.map change) := by
  rw [onlyArgument?, onlyArgument?, typed.isNodeOf keeps]
  cases isReference : isNodeOf node "TSTypeReference" with
  | false => rfl
  | true =>
      rw [rendered isReference, arguments isReference]
      split
      · cases typeArguments node with
        | error fault => rfl
        | ok found => rcases found with _ | ⟨argument, _ | ⟨second, rest⟩⟩ <;> rfl
      · rfl

theorem queriedName_change
    (finds : ∀ key ∈ ["type", "exprName", "name"], ∀ node, FindsUnder change node key)
    (query : Value) : queriedName (change query) = change (queriedName query) := by
  rw [queriedName, queriedName, (finds "exprName" (by simp) _).field keeps,
    (finds "name" (by simp) _).field keeps, (finds "type" (by simp) _).isNodeOf keeps,
    (finds "type" (by simp) _).isNodeOf keeps]
  split
  · rfl
  · exact keeps.null.symm

end TypeGauge.Check
