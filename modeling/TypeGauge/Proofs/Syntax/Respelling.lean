import TypeGauge.Proofs.Data.Fields
import TypeGauge.Proofs.Syntax.Transparency
import TypeGauge.Proofs.Syntax.WellFormed

/-!
# Two spellings of one syntax tree

Front-ends have changed their minds about three places of a syntax tree: under which key the
type arguments of a reference stand, under which key the parameters of a function type, and
whether the constraint of a mapped type stands in its type parameter or in the type itself.
`respelled` moves all three, at every depth, from the place that is read first to the one that
is read next.

Reading and respelling can be exchanged: what a reader finds in a respelled node is what it
finds in the node, respelled.  `respelling` says how a node and its respelling differ, so this
is so for every key but the six of the three places.  For these it is shown one by one, of
nodes around type arguments and constraints that are what their places are made for.
-/

namespace TypeGauge.Data.Value

/-! ## Fields under other keys -/

/-- Fields with one key replaced by another. -/
def renameKey (old new : String) (fields : List (String × Value)) : List (String × Value) :=
  fields.map fun entry => (if entry.1 = old then new else entry.1, entry.2)

theorem lookup?_renameKey_of_ne
    {old new key : String} (noNew : key ≠ new) (noOld : key ≠ old)
    (fields : List (String × Value)) :
    lookup? key (renameKey old new fields) = lookup? key fields := by
  induction fields with
  | nil => rfl
  | cons head rest hypothesis =>
      rw [renameKey] at hypothesis ⊢
      rw [List.map_cons, lookup?, lookup?, hypothesis]
      by_cases renamed : head.1 = old
      · simp [renamed, Ne.symm noNew, Ne.symm noOld]
      · simp [renamed]

theorem lookup?_renameKey_old
    {old new : String} (different : old ≠ new) (fields : List (String × Value)) :
    lookup? old (renameKey old new fields) = none := by
  rw [lookup?_eq_none_iff, renameKey, List.map_map, List.mem_map]
  rintro ⟨entry, _, same⟩
  simp only [Function.comp_apply] at same
  split at same
  · exact different same.symm
  · contradiction

/-- Under the new key stands what stood under the old one, unless the new one was taken. -/
theorem lookup?_renameKey_new
    {old new : String} {fields : List (String × Value)} (free : lookup? new fields = none) :
    lookup? new (renameKey old new fields) = lookup? old fields := by
  induction fields with
  | nil => rfl
  | cons head rest hypothesis =>
      rw [lookup?] at free
      split at free
      · cases free
      · rename_i elsewhere
        have renamed := hypothesis free
        rw [renameKey] at renamed ⊢
        rw [List.map_cons, lookup?, lookup?, renamed]
        by_cases here : head.1 = old
        · simp [here]
        · simp only [if_neg here, beq_iff_eq]
          rw [if_neg (by simpa using elsewhere)]

/-- A value without one of its fields, if it is an object. -/
def without (key : String) : Value → Value
  | .object fields => .object (fields.filter fun entry => entry.1 != key)
  | other => other

theorem field_without_same (key : String) (value : Value) :
    (value.without key).field key = .null := by
  cases value with
  | object fields =>
      have absent : lookup? key (fields.filter fun entry => entry.1 != key) = none := by
        rw [lookup?_eq_none_iff]
        simp
      rw [without, field, field?, absent, Option.getD_none]
  | _ => rfl

end TypeGauge.Data.Value

namespace TypeGauge.Syntax

open TypeGauge.Data

/-! ## The other spelling -/

/-- The node of a reference with its type arguments under the other key. -/
def respellArguments (fields : List (String × Value)) : List (String × Value) :=
  if (Value.lookup? "typeParameters" fields).isSome then fields
  else Value.renameKey "typeArguments" "typeParameters" fields

/-- The node of a function type with its parameters under the other key. -/
def respellParameters (fields : List (String × Value)) : List (String × Value) :=
  if (Value.lookup? "parameters" fields).isSome ||
      ((Value.object fields).field "params").kind != .list then fields
  else Value.renameKey "params" "parameters" fields

/-- The node of a mapped type with its constraint in the other place. -/
def respellConstraint (fields : List (String × Value)) : List (String × Value) :=
  let parameter := (Value.object fields).field "typeParameter"
  let constraint := parameter.field "constraint"
  if (Value.lookup? "constraint" fields).isSome || !constraint.hasField "type" then fields
  else Value.putField "constraint" constraint
    (Value.putField "typeParameter" (parameter.without "constraint") fields)

/-- One node in the other spelling. -/
def respellNode (fields : List (String × Value)) : List (String × Value) :=
  if isNodeOf (.object fields) "TSTypeReference" then respellArguments fields
  else if isNodeOf (.object fields) "TSFunctionType" ||
      isNodeOf (.object fields) "TSMethodSignature" then respellParameters fields
  else if isNodeOf (.object fields) "TSMappedType" then respellConstraint fields
  else fields

mutual

/-- A value with all nodes inside it in the other spelling. -/
def respelled : Value → Value
  | .list items => .list (respelledAll items)
  | .object fields => .object (respellNode (respelledUnder fields))
  | other => other

/-- Several values in the other spelling. -/
def respelledAll : List Value → List Value
  | [] => []
  | value :: rest => respelled value :: respelledAll rest

/-- Fields with their values in the other spelling. -/
def respelledUnder : List (String × Value) → List (String × Value)
  | [] => []
  | (key, value) :: rest => (key, respelled value) :: respelledUnder rest

end

theorem respelledAll_eq_map (items : List Value) : respelledAll items = items.map respelled := by
  induction items with
  | nil => simp [respelledAll]
  | cons item rest hypothesis => simp [respelledAll, hypothesis]

theorem respelledUnder_eq_map (fields : List (String × Value)) :
    respelledUnder fields = fields.map fun entry => (entry.1, respelled entry.2) := by
  induction fields with
  | nil => simp [respelledUnder]
  | cons head rest hypothesis => simp [respelledUnder, hypothesis]

theorem lookup?_respelledUnder (key : String) (fields : List (String × Value)) :
    Value.lookup? key (respelledUnder fields) = (Value.lookup? key fields).map respelled := by
  rw [respelledUnder_eq_map, Value.lookup?_map]

/-! ## What respelling leaves alone -/

theorem isEmpty_respellNode (fields : List (String × Value)) :
    (respellNode fields).isEmpty = fields.isEmpty := by
  have put (key : String) (value : Value) (fields : List (String × Value)) :
      (Value.putField key value fields).isEmpty = false := by
    cases fields with
    | nil => rfl
    | cons head rest =>
        rw [Value.putField]
        split <;> rfl
  cases fields with
  | nil => rfl
  | cons head rest =>
      simp only [respellNode, respellArguments, respellParameters, respellConstraint,
        Value.renameKey]
      split_ifs <;> simp [put]

theorem keepsShape_respelled : KeepsShape respelled := by
  intro value
  cases value with
  | list items =>
      rw [respelled, respelledAll_eq_map]
      exact .list items
  | object fields =>
      rw [respelled]
      exact .object (by rw [isEmpty_respellNode, respelledUnder_eq_map, List.isEmpty_map])
  | _ =>
      rw [respelled]
      · exact .plain (by simp [Value.kind]) (by simp [Value.kind])
      all_goals simp

@[simp]
theorem kind_respelled (value : Value) : (respelled value).kind = value.kind :=
  (keepsShape_respelled value).kind

@[simp]
theorem isObject_respelled (value : Value) : (respelled value).isObject = value.isObject :=
  (keepsShape_respelled value).isObject

@[simp]
theorem isText_respelled (value : Value) (content : String) :
    (respelled value).isText content = value.isText content :=
  (keepsShape_respelled value).isText content

@[simp]
theorem isPresent_respelled (value : Value) :
    (respelled value).isPresent = value.isPresent :=
  (keepsShape_respelled value).isPresent

@[simp]
theorem respelled_null : respelled .null = .null :=
  keepsShape_respelled.null

@[simp]
theorem respelled_text (content : String) : respelled (.text content) = .text content :=
  keepsShape_respelled.text content

@[simp]
theorem respelled_list (items : List Value) :
    respelled (.list items) = .list (items.map respelled) := by
  rw [respelled, respelledAll_eq_map]

theorem orElse_respelled (first second : Value) :
    (respelled first).orElse (respelled second) = respelled (first.orElse second) :=
  keepsShape_respelled.orElse first second

theorem isPresent_of_hasField {value : Value} {key : String} (has : value.hasField key = true) :
    value.isPresent = true := by
  cases value with
  | object fields =>
      cases fields with
      | nil => cases has
      | cons head rest => rfl
  | _ => cases has

/-! ## Values under keys -/

theorem field_respelledUnder (fields : List (String × Value)) (key : String) :
    (Value.object (respelledUnder fields)).field key =
      respelled ((Value.object fields).field key) := by
  rw [Value.field, Value.field, Value.field?, Value.field?, lookup?_respelledUnder]
  cases Value.lookup? key fields with
  | none => exact respelled_null.symm
  | some value => rfl

theorem isNodeOf_respelledUnder (fields : List (String × Value)) (typeName : String) :
    isNodeOf (.object (respelledUnder fields)) typeName = isNodeOf (.object fields) typeName := by
  rw [isNodeOf, isNodeOf, typeOf, typeOf, field_respelledUnder, isText_respelled]
  rfl

/-- A node and its respelling have the same value under a key, but for respelling. -/
def AlikeUnder (node : Value) (key : String) : Prop :=
  (respelled node).field? key = (node.field? key).map respelled

namespace AlikeUnder

variable {node : Value} {key : String}

theorem findsUnder (alike : AlikeUnder node key) : FindsUnder respelled node key :=
  alike

theorem field (alike : AlikeUnder node key) :
    (respelled node).field key = respelled (node.field key) :=
  alike.findsUnder.field keepsShape_respelled

theorem nodesUnder (alike : AlikeUnder node key) :
    nodesUnder (respelled node) key = (nodesUnder node key).map (List.map respelled) :=
  alike.findsUnder.nodesUnder keepsShape_respelled

theorem of_lookup? {fields : List (String × Value)}
    (same : Value.lookup? key (respellNode (respelledUnder fields)) =
      Value.lookup? key (respelledUnder fields)) :
    AlikeUnder (.object fields) key := by
  rw [AlikeUnder, respelled, Value.field?, Value.field?, same, lookup?_respelledUnder]

end AlikeUnder

/-- In the respelling of a node, what the node has under one key stands under another one. -/
structure MovesUnder (node : Value) (old new : String) : Prop where
  free : node.field? new = none
  gone : (respelled node).field? old = none
  moved : (respelled node).field? new = (node.field? old).map respelled
  alike : ∀ key, key ∉ [old, new] → AlikeUnder node key

namespace MovesUnder

variable {node : Value} {old new : String}

theorem field_free (moves : MovesUnder node old new) : node.field new = .null := by
  rw [Value.field, moves.free, Option.getD_none]

theorem field_old (moves : MovesUnder node old new) : (respelled node).field old = .null := by
  rw [Value.field, moves.gone, Option.getD_none]

theorem field_new (moves : MovesUnder node old new) :
    (respelled node).field new = respelled (node.field old) := by
  rw [Value.field, Value.field, moves.moved, ← Option.getD_map respelled, respelled_null]

end MovesUnder

/-- In the respelling of a node, what its type parameter has as constraint is its own. -/
structure MovesConstraint (node : Value) : Prop where
  declared : ((respelled (node.field "typeParameter")).field "constraint").hasField "type" = true
  gone : ((respelled node).field "typeParameter").field "constraint" = .null
  moved : (respelled node).field "constraint" =
    (respelled (node.field "typeParameter")).field "constraint"
  alike : ∀ key, key ∉ ["typeParameter", "constraint"] → AlikeUnder node key

/-- How a node and its respelling differ. -/
inductive Respelling (node : Value) : Prop
  | same (alike : ∀ key, AlikeUnder node key)
  | arguments (isReference : isNodeOf node "TSTypeReference" = true)
      (moves : MovesUnder node "typeArguments" "typeParameters")
  | parameters
      (isFunction : isNodeOf node "TSFunctionType" = true ∨
        isNodeOf node "TSMethodSignature" = true)
      (listed : (node.field "params").kind = .list)
      (moves : MovesUnder node "params" "parameters")
  | constraint (isMapped : isNodeOf node "TSMappedType" = true) (moves : MovesConstraint node)

section Fields

variable {fields : List (String × Value)}

theorem MovesUnder.of_renameKey {old new : String} (different : old ≠ new)
    (renamed : respellNode (respelledUnder fields) =
      Value.renameKey old new (respelledUnder fields))
    (free : Value.lookup? new (respelledUnder fields) = none) :
    MovesUnder (.object fields) old new := by
  constructor
  · rw [lookup?_respelledUnder, Option.map_eq_none_iff] at free
    exact free
  · rw [respelled, renamed, Value.field?, Value.lookup?_renameKey_old different]
  · rw [respelled, renamed, Value.field?, Value.lookup?_renameKey_new free,
      lookup?_respelledUnder, Value.field?]
  · intro key other
    simp only [List.mem_cons, List.not_mem_nil, or_false, not_or] at other
    apply AlikeUnder.of_lookup?
    rw [renamed, Value.lookup?_renameKey_of_ne other.2 other.1]

theorem MovesConstraint.of_putField
    (put : respellNode (respelledUnder fields) =
      Value.putField "constraint"
        ((respelled ((Value.object fields).field "typeParameter")).field "constraint")
        (Value.putField "typeParameter"
          ((respelled ((Value.object fields).field "typeParameter")).without "constraint")
          (respelledUnder fields)))
    (declared : ((respelled ((Value.object fields).field "typeParameter")).field
      "constraint").hasField "type" = true) :
    MovesConstraint (.object fields) := by
  have parameter : (respelled (.object fields)).field "typeParameter" =
      (respelled ((Value.object fields).field "typeParameter")).without "constraint" := by
    rw [respelled, put, Value.field, Value.field?, Value.lookup?_putField_other (by decide),
      Value.lookup?_putField_same, Option.getD_some]
  refine ⟨declared, ?_, ?_, ?_⟩
  · rw [parameter, Value.field_without_same]
  · rw [respelled, put, Value.field, Value.field?, Value.lookup?_putField_same, Option.getD_some]
  · intro key other
    simp only [List.mem_cons, List.not_mem_nil, or_false, not_or] at other
    apply AlikeUnder.of_lookup?
    rw [put, Value.lookup?_putField_other other.2, Value.lookup?_putField_other other.1]

end Fields

/-- Every node and its respelling differ in one of three places or not at all. -/
theorem respelling (node : Value) : Respelling node := by
  cases node with
  | object fields =>
      have kept (same : respellNode (respelledUnder fields) = respelledUnder fields) :
          Respelling (.object fields) :=
        .same fun _ => .of_lookup? (by rw [same])
      have unfolded := respellNode.eq_def (respelledUnder fields)
      simp only [isNodeOf_respelledUnder] at unfolded
      split at unfolded
      · rename_i isReference
        rw [respellArguments] at unfolded
        split at unfolded
        · exact kept unfolded
        · rename_i free
          exact .arguments isReference (.of_renameKey (by decide) unfolded (by simpa using free))
      · split at unfolded
        · rename_i isFunction
          rw [respellParameters] at unfolded
          split at unfolded
          · exact kept unfolded
          · rename_i free
            rw [Bool.or_eq_true, not_or, field_respelledUnder, kind_respelled] at free
            exact .parameters (by simpa using isFunction) (by simpa using free.2)
              (.of_renameKey (by decide) unfolded (by simpa using free.1))
        · split at unfolded
          · rename_i isMapped
            simp only [respellConstraint, field_respelledUnder] at unfolded
            split at unfolded
            · exact kept unfolded
            · rename_i free
              rw [Bool.or_eq_true, not_or] at free
              exact .constraint isMapped (.of_putField unfolded (by simpa using free.2))
          · exact kept unfolded
  | _ => exact .same fun _ => by simp [AlikeUnder, respelled, Value.field?]

/-- The keys in which the two spellings differ. -/
def respelledKeys : List String :=
  ["typeArguments", "typeParameters", "params", "parameters", "typeParameter", "constraint"]

/-- The types of nodes in which the two spellings differ. -/
def respelledTypes : List String :=
  ["TSTypeReference", "TSFunctionType", "TSMethodSignature", "TSMappedType"]

/-- Under a key in which the two spellings do not differ, all nodes are alike. -/
theorem alikeUnder_of_other (node : Value) {key : String} (other : key ∉ respelledKeys) :
    AlikeUnder node key := by
  have outside {keys : List String} (differ : keys ⊆ respelledKeys) : key ∉ keys :=
    fun member => other (differ member)
  cases respelling node with
  | same alike => exact alike key
  | arguments isReference moves => exact moves.alike key (outside (by decide))
  | parameters isFunction listed moves => exact moves.alike key (outside (by decide))
  | constraint isMapped moves => exact moves.alike key (outside (by decide))

theorem field_respelled (node : Value) {key : String} (other : key ∉ respelledKeys) :
    (respelled node).field key = respelled (node.field key) :=
  (alikeUnder_of_other node other).field

/-- Under every key, nodes of a type in which the two spellings do not differ are alike. -/
theorem alikeUnder_of_isNodeOf {node : Value} {typeName : String}
    (isNode : isNodeOf node typeName = true) (other : typeName ∉ respelledTypes) (key : String) :
    AlikeUnder node key := by
  have refused {name : String} (named : name ∈ respelledTypes)
      (isOther : isNodeOf node name = true) : AlikeUnder node key := by
    rw [isNodeOf, Bool.and_eq_true, Value.isText_iff] at isNode isOther
    have same : typeName = name := by
      simpa using isNode.2.symm.trans isOther.2
    exact absurd (same ▸ named) other
  cases respelling node with
  | same alike => exact alike key
  | arguments isReference => exact refused (by decide) isReference
  | parameters isFunction =>
      rcases isFunction with isFunction | isMethod
      · exact refused (by decide) isFunction
      · exact refused (by decide) isMethod
  | constraint isMapped => exact refused (by decide) isMapped

/-! ## Readers -/

theorem findsUnder_respelled {keys : List String} (others : ∀ key ∈ keys, key ∉ respelledKeys) :
    ∀ key ∈ keys, ∀ node, FindsUnder respelled node key :=
  fun key member node => alikeUnder_of_other node (others key member)

theorem nodeOnly_respelled (value : Value) :
    nodeOnly (respelled value) = (nodeOnly value).map respelled :=
  keepsShape_respelled.nodeOnly value

theorem positionOf_respelled (node : Value) : positionOf (respelled node) = positionOf node :=
  positionOf_change keepsShape_respelled (findsUnder_respelled (by decide)) node

/-! ## Regular nodes -/

/-- Whether a value that is an object is a node of the given type. -/
def isNoneBut (value : Value) (typeName : String) : Bool :=
  !value.isObject || isNodeOf value typeName

/-- The fields on which both spellings rely hold what they are meant for. -/
@[mk_iff]
structure HasRegularFields (node : Value) : Prop where
  type : holdsOnly node "type" .text = true
  name : isNodeOf node "Identifier" = true → holdsOnly node "name" .text = true
  identifier : isNodeOf node "TSInterfaceDeclaration" = true →
    holdsOnly (node.field "id") "name" .text = true
  extended : holdsOnly node "extends" .list = true
  arguments : isNodeOf node "TSTypeReference" = true → ∀ key ∈ ["typeArguments", "typeParameters"],
    isNoneBut (node.field key) "TSTypeParameterInstantiation" = true
  parameter : isNodeOf node "TSMappedType" = true →
    isNoneBut (node.field "typeParameter") "TSTypeParameter" = true

instance (node : Value) : Decidable (HasRegularFields node) :=
  decidable_of_iff _ (hasRegularFields_iff node).symm

/-- A value in which every object has regular fields. -/
def Regular (value : Value) : Prop :=
  value.everywhere (fun part => HasRegularFields part) = true

instance : DecidablePred Regular :=
  fun value => inferInstanceAs (Decidable (value.everywhere _ = true))

namespace Regular

variable {node : Value}

theorem inside {whole part : Value} (regular : Regular whole) (inside : whole.Contains part) :
    Regular part :=
  inside.everywhere regular

theorem fields (regular : Regular node) : HasRegularFields node :=
  of_decide_eq_true (Value.condition_of_everywhere regular)

theorem field (regular : Regular node) (key : String) : Regular (node.field key) := by
  cases found : node.field? key with
  | none =>
      rw [Value.field, found]
      decide
  | some value =>
      rw [Value.field, found]
      exact regular.inside (Value.holds_of_field? found).contains

end Regular

/-- What holds only texts is not respelled. -/
theorem respelled_field_of_holdsOnly {node : Value} {key : String}
    (texts : holdsOnly node key .text = true) : respelled (node.field key) = node.field key := by
  rcases null_or_text texts with isNull | ⟨content, isText⟩
  · rw [isNull, respelled_null]
  · rw [isText, respelled_text]

theorem typeOf_respelled {node : Value} (regular : Regular node) :
    typeOf (respelled node) = typeOf node := by
  rw [typeOf, typeOf, field_respelled node (by decide),
    respelled_field_of_holdsOnly regular.fields.type]

/-- The names at the leaves of a regular entity name are texts, which are not respelled. -/
theorem respelled_of_leafName {node name : Value} (regular : Regular node)
    (leaf : LeafName node name) : respelled name = name := by
  induction leaf with
  | identifier isIdentifier =>
      exact respelled_field_of_holdsOnly (regular.fields.name isIdentifier)
  | left _ _ hypothesis => exact hypothesis (regular.field "left")
  | right _ _ hypothesis => exact hypothesis (regular.field "right")

/-- A dotted name is the same in both spellings. -/
theorem dottedName_respelled {node : Value} (regular : Regular node) :
    dottedName (respelled node) = dottedName node :=
  dottedName_change keepsShape_respelled (findsUnder_respelled (by decide)) fun _ leaf =>
    respelled_of_leafName regular leaf

/-! ## Readers of the three places -/

theorem isPresent_of_isNodeOf {node : Value} {typeName : String}
    (isNode : isNodeOf node typeName = true) : node.isPresent = true := by
  rw [isNodeOf, Bool.and_eq_true, Value.isText_iff, typeOf, Value.field] at isNode
  apply isPresent_of_hasField
  rw [Value.hasField]
  cases found : node.field? "type" with
  | none => simp [found] at isNode
  | some declared => rfl

/-- The type arguments of a regular reference stand in no object but one made for them. -/
theorem isNodeOf_argumentHolder {node : Value} (regular : Regular node)
    (isReference : isNodeOf node "TSTypeReference" = true)
    (isObject : (argumentHolder node).isObject = true) :
    isNodeOf (argumentHolder node) "TSTypeParameterInstantiation" = true := by
  have only := regular.fields.arguments isReference
  simp only [isNoneBut, List.forall_mem_cons] at only
  rw [argumentHolder, Value.orElse] at isObject ⊢
  split
  · rename_i present
    rw [if_pos present] at isObject
    simpa [isObject] using only.1
  · rename_i absent
    rw [if_neg absent] at isObject
    simpa [isObject] using only.2.1

/-- A regular reference and its respelling have their type arguments in alike values, if any. -/
theorem argumentHolder_respelled {node : Value} (regular : Regular node)
    (isReference : isNodeOf node "TSTypeReference" = true) :
    argumentHolder (respelled node) = respelled (argumentHolder node) ∨
      ((argumentHolder (respelled node)).isObject = false ∧
        (argumentHolder node).isObject = false) := by
  have stays (first : AlikeUnder node "typeArguments") (second : AlikeUnder node "typeParameters") :
      argumentHolder (respelled node) = respelled (argumentHolder node) := by
    rw [argumentHolder, argumentHolder, first.field, second.field, orElse_respelled]
  cases respelling node with
  | same alike => exact .inl (stays (alike _) (alike _))
  | parameters _ _ moves =>
      exact .inl (stays (moves.alike _ (by decide)) (moves.alike _ (by decide)))
  | constraint _ moves =>
      exact .inl (stays (moves.alike _ (by decide)) (moves.alike _ (by decide)))
  | arguments _ moves =>
      have holder : argumentHolder (respelled node) = respelled (node.field "typeArguments") := by
        rw [argumentHolder, moves.field_old, moves.field_new]
        rfl
      rw [holder, argumentHolder, moves.field_free, Value.orElse, isObject_respelled]
      by_cases present : (node.field "typeArguments").isPresent = true
      · rw [if_pos present]
        exact .inl rfl
      · -- An object that counts as absent has no type, so it is none that holds arguments.
        rw [if_neg present]
        refine .inr ⟨?_, rfl⟩
        have only := regular.fields.arguments isReference "typeArguments" (by simp)
        by_contra isObject
        rw [Bool.not_eq_false] at isObject
        rw [isNoneBut, isObject, Bool.not_true, Bool.false_or] at only
        exact present (isPresent_of_isNodeOf only)

/-- The type arguments of a regular reference are respelled with it. -/
theorem typeArguments_respelled {node : Value} (regular : Regular node)
    (isReference : isNodeOf node "TSTypeReference" = true) :
    typeArguments (respelled node) = (typeArguments node).map (List.map respelled) := by
  have isObject := isObject_of_isNodeOf isReference
  rw [typeArguments_of_isObject isObject,
    typeArguments_of_isObject (by rw [isObject_respelled, isObject])]
  rcases argumentHolder_respelled regular isReference with alike | ⟨none, noneBefore⟩
  · rw [alike, isObject_respelled]
    split
    · rename_i found
      exact (alikeUnder_of_isNodeOf (isNodeOf_argumentHolder regular isReference found)
        (by decide) "params").nodesUnder
    · rfl
  · simp [none, noneBefore, Except.map]

end TypeGauge.Syntax
