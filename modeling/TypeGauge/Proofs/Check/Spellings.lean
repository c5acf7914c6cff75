import TypeGauge.Proofs.Check.Completion
import TypeGauge.Proofs.Syntax.Respelling

/-!
# One type tree for both spellings

The outline of a respelled node has the same name and the same counts, and its parts are the
parts of the node, respelled.  By induction on the room, a node and its respelling have the
same type tree, down to the identities, or the same fault.  They also re-expose the same
validator, which is found through type arguments alone.
-/

namespace TypeGauge.Types

open TypeGauge.Data TypeGauge.Syntax

/-! ## What a type expression is made of -/

theorem findsUnder_ascriptionKey (node : Value) : FindsUnder respelled node ascriptionKey :=
  alikeUnder_of_other node (by decide)

theorem ascribedTypes_respelled (holders : List Value) :
    ascribedTypes (holders.map respelled) = (ascribedTypes holders).map respelled :=
  ascribedTypes_change keepsShape_respelled findsUnder_ascriptionKey holders

theorem nodesAt_respelled (node : Value) {keys : List String}
    (others : ∀ key ∈ keys, key ∉ respelledKeys) :
    nodesAt (respelled node) keys = (nodesAt node keys).map respelled :=
  nodesAt_change keepsShape_respelled fun key member =>
    findsUnder_respelled others key member node

theorem members_respelled (kind : TypeKind) (node : Value) :
    members kind (respelled node) = (members kind node).map (List.map respelled) :=
  members_change keepsShape_respelled (findsUnder_respelled (by decide)) kind node

/-- The constraint of a regular mapped type is respelled with it. -/
theorem mappedConstraint_respelled {node : Value} (regular : Regular node)
    (isMapped : isNodeOf node "TSMappedType" = true) :
    mappedConstraint (respelled node) = respelled (mappedConstraint node) := by
  have inner : (respelled (node.field "typeParameter")).field "constraint" =
      respelled ((node.field "typeParameter").field "constraint") := by
    have only := regular.fields.parameter isMapped
    rw [isNoneBut, Bool.or_eq_true] at only
    rcases only with noObject | isParameter
    · cases found : node.field "typeParameter" with
      | object fields => simp [found, Value.isObject] at noObject
      | _ => simp [respelled, Value.field, Value.field?]
    · exact (alikeUnder_of_isNodeOf isParameter (by decide) "constraint").field
  have stays (first : AlikeUnder node "typeParameter") (second : AlikeUnder node "constraint") :
      mappedConstraint (respelled node) = respelled (mappedConstraint node) := by
    rw [mappedConstraint, mappedConstraint, first.field, second.field, inner, orElse_respelled]
  cases respelling node with
  | same alike => exact stays (alike _) (alike _)
  | arguments _ moves => exact stays (moves.alike _ (by decide)) (moves.alike _ (by decide))
  | parameters _ _ moves => exact stays (moves.alike _ (by decide)) (moves.alike _ (by decide))
  | constraint _ moves =>
      have present := isPresent_of_hasField moves.declared
      rw [inner, isPresent_respelled] at present
      rw [mappedConstraint, moves.gone, moves.moved, inner, mappedConstraint, Value.orElse,
        Value.orElse, if_pos present]
      rfl

/-- What the parameters of a node ascribe is respelled with the node. -/
theorem ascribedTypes_parameters_respelled (node : Value) :
    (parameters (respelled node)).map ascribedTypes =
      (parameters node).map fun holders => (ascribedTypes holders).map respelled := by
  have stays (first : AlikeUnder node "params") (second : AlikeUnder node "parameters") :
      (parameters (respelled node)).map ascribedTypes =
        (parameters node).map fun holders => (ascribedTypes holders).map respelled :=
    ascribedTypes_parameters_change keepsShape_respelled findsUnder_ascriptionKey first second
  cases respelling node with
  | same alike => exact stays (alike _) (alike _)
  | arguments _ moves => exact stays (moves.alike _ (by decide)) (moves.alike _ (by decide))
  | constraint _ moves => exact stays (moves.alike _ (by decide)) (moves.alike _ (by decide))
  | parameters _ listed moves =>
      cases found : node.field? "params" with
      | none =>
          rw [Value.field, found] at listed
          cases listed
      | some value =>
          have before : node.field "params" = value := by
            rw [Value.field, found, Option.getD_some]
          have after : ((respelled node).field? "parameters").getD (.list []) =
              respelled value := by
            rw [moves.moved, found, Option.map_some, Option.getD_some]
          have present : value.isNull = false := by
            rw [before] at listed
            cases value with
            | null => cases listed
            | _ => rfl
          rw [parameters, parameters, moves.field_old, after, before, present]
          exact ascribedTypes_parts_change keepsShape_respelled findsUnder_ascriptionKey value

/-! ## Outlines and trees -/

/-- An outline with its parts in the other spelling. -/
def Outline.respelled (found : Outline) : Outline :=
  { found with parts := found.parts.map Syntax.respelled }

/-- Only references are of the kind of references, and only mapped types of that of mapped ones. -/
theorem isNodeOf_of_kind {node : Value} {kind : TypeKind} (isObject : node.isObject = true)
    (read : TypeKind.ofValue (typeOf node) = .ok kind) :
    (kind = .reference → isNodeOf node "TSTypeReference" = true) ∧
      (kind = .mapped → isNodeOf node "TSMappedType" = true) := by
  rw [isNodeOf, isNodeOf, isObject, Bool.true_and, Bool.true_and]
  cases declared : typeOf node with
  | text content =>
      rw [declared] at read
      have same : TypeKind.ofTypeName content = kind := Except.ok.inj read
      subst same
      unfold TypeKind.ofTypeName
      split <;> simp [Value.isText]
  | list | object =>
      rw [declared] at read
      cases read
  | _ =>
      rw [declared] at read
      cases read
      simp

theorem partCount_extends_respelled {node : Value} (regular : Regular node) :
    partCount (((respelled node).field "extends").orElse (.list [])) =
      partCount ((node.field "extends").orElse (.list [])) := by
  rcases exists_list_orElse regular.fields.extended with ⟨items, found⟩
  have listed := orElse_respelled (node.field "extends") (.list [])
  rw [respelled_list, List.map_nil] at listed
  rw [field_respelled node (by decide), listed, found, respelled_list, partCount_list,
    partCount_list, List.length_map]

theorem nameUnder_respelled {node : Value} (regular : Regular node)
    (isInterface : isNodeOf node "TSInterfaceDeclaration" = true) :
    nameUnder (respelled node) "id" = nameUnder node "id" := by
  simp only [nameUnder, field_respelled _ (show "id" ∉ respelledKeys by decide),
    field_respelled _ (show "name" ∉ respelledKeys by decide), isObject_respelled,
    respelled_field_of_holdsOnly (regular.fields.identifier isInterface)]

/-- Reading one respelled node gives the respelled outline of the node. -/
theorem outline_respelled {node : Value} {kind : TypeKind} (isObject : node.isObject = true)
    (regular : Regular node) (read : TypeKind.ofValue (typeOf node) = .ok kind) :
    outline kind (respelled node) = (outline kind node).map Outline.respelled := by
  cases kind with
  | interface =>
      have isInterface := isNodeOf_of_ofValue isObject read
      simp only [outline, partCount_extends_respelled regular, members_respelled,
        nameUnder_respelled regular isInterface]
      cases partCount ((node.field "extends").orElse (.list [])) with
      | error fault => rfl
      | ok extended =>
          cases members .interface node with
          | error fault => rfl
          | ok found =>
              simp [Except.map, bind, Except.bind, pure, Except.pure, Outline.respelled,
                ascribedTypes_respelled]
  | typeLiteral =>
      simp only [outline, members_respelled]
      cases members .typeLiteral node with
      | error fault => rfl
      | ok found =>
          simp [Except.map, bind, Except.bind, pure, Except.pure, Outline.respelled,
            ascribedTypes_respelled]
  | union | intersection | tuple =>
      simp only [outline]
      rw [(alikeUnder_of_other node (by decide)).nodesUnder]
      cases nodesUnder node _ <;> rfl
  | reference =>
      have isReference := (isNodeOf_of_kind isObject read).1 rfl
      simp only [outline, typeArguments_respelled regular isReference,
        field_respelled node (show "typeName" ∉ respelledKeys by decide),
        dottedName_respelled (regular.field "typeName")]
      cases typeArguments node <;> rfl
  | mapped =>
      have isMapped := (isNodeOf_of_kind isObject read).2 rfl
      simp only [outline, mappedConstraint_respelled regular isMapped, nodeOnly_respelled,
        nodesAt_respelled node (show ∀ key ∈ [ascriptionKey], key ∉ respelledKeys by decide),
        ← List.map_append]
      rfl
  | function =>
      -- Of the parameters only what they ascribe is used, and that is respelled with the node.
      have unfolded (node : Value) :
          outline .function node = ((parameters node).map ascribedTypes).map fun types =>
            .ofParts (types ++ nodeOnly ((node.field "returnType").field ascriptionKey)) := by
        rw [outline]
        cases parameters node <;> rfl
      rw [unfolded, unfolded, ascribedTypes_parameters_respelled,
        field_respelled node (by decide), field_respelled _ (by decide), nodeOnly_respelled]
      cases parameters node with
      | error fault => rfl
      | ok holders => simp [Except.map, Outline.respelled, Outline.ofParts]
  | array | conditional | rest | optional =>
      simp only [outline]
      rw [nodesAt_respelled node (by decide)]
      rfl
  | primitive | shortCircuit | unknown => rfl

theorem readHead_respelled {node : Value} (regular : Regular node) :
    readHead (respelled node) = readHead node := by
  rw [readHead, readHead, requireObject, requireObject, isObject_respelled, kind_respelled,
    typeOf_respelled regular, positionOf_respelled]

theorem ofValue_of_readHead {node : Value} {kind : TypeKind} {source : Option Position}
    (read : readHead node = .ok (kind, source)) :
    node.isObject = true ∧ TypeKind.ofValue (typeOf node) = .ok kind := by
  rw [readHead, bind_eq_ok_iff] at read
  rcases read with ⟨_, isObject, read⟩
  rw [bind_eq_ok_iff] at read
  rcases read with ⟨kind, kindRead, read⟩
  rw [bind_eq_ok_iff] at read
  rcases read with ⟨source, _, ended⟩
  cases ended
  refine ⟨?_, kindRead⟩
  rw [requireObject] at isObject
  split at isObject
  · assumption
  · cases isObject

/-- A regular node and its respelling have the same tree, or the same fault. -/
theorem buildWithin_respelled (room : Nat) {node : Value} (regular : Regular node) :
    buildWithin room (respelled node) = buildWithin room node := by
  induction room generalizing node with
  | zero => rfl
  | succ room hypothesis =>
      funext supply
      change outcome (buildWithin (room + 1) (respelled node)) supply =
        outcome (buildWithin (room + 1) node) supply
      rw [outcome_buildWithin_succ, outcome_buildWithin_succ, readHead_respelled regular]
      cases read : readHead node with
      | error fault => rfl
      | ok facts =>
          rcases facts with ⟨kind, source⟩
          rcases ofValue_of_readHead read with ⟨isObject, kindRead⟩
          simp only [outline_respelled isObject regular kindRead]
          cases outlined : outline kind node with
          | error fault => rfl
          | ok found =>
              have parts : (found.parts.map respelled).mapM (buildWithin room) =
                  found.parts.mapM (buildWithin room) := by
                apply mapM_map_of_forall
                intro part member
                have held := (holds_of_mem_parts outlined member).2
                exact hypothesis (regular.inside held.contains)
              simp only [Except.map, Outline.respelled, parts]
              rw [headOf, headOf, typeOf_respelled regular]

end TypeGauge.Types

namespace TypeGauge.Check

open TypeGauge.Data TypeGauge.Syntax TypeGauge.Types

/-! ## Re-exposed validators -/

theorem onlyArgument?_respelled {node : Value} (regular : Regular node) (name : Option String) :
    onlyArgument? (respelled node) name = (onlyArgument? node name).map (Option.map respelled) := by
  apply onlyArgument?_change keepsShape_respelled (alikeUnder_of_other node (by decide))
  · intro _
    rw [field_respelled node (by decide), dottedName_respelled (regular.field "typeName")]
  · exact typeArguments_respelled regular

/-- The only argument of a regular reference is regular. -/
theorem regular_of_onlyArgument? {node argument : Value} {name : Option String}
    (regular : Regular node) (found : onlyArgument? node name = .ok (some argument)) :
    Regular argument :=
  regular.inside (madeOf_of_onlyArgument found).isObject.2.contains

theorem queriedName_respelled {query : Value} (regular : Regular query) :
    queriedName (respelled query) = queriedName query := by
  rw [queriedName_change keepsShape_respelled (findsUnder_respelled (by decide)), queriedName]
  split
  · rename_i isQuery
    rw [Bool.and_eq_true] at isQuery
    exact respelled_field_of_holdsOnly ((regular.field "exprName").fields.name isQuery.2)
  · exact respelled_null

theorem staticOfTarget_respelled {node : Value} (regular : Regular node)
    (marker : Option String) :
    staticOfTarget (respelled node) marker = staticOfTarget node marker := by
  rw [staticOfTarget, staticOfTarget, onlyArgument?_respelled regular]
  cases found : onlyArgument? node marker with
  | error fault => rfl
  | ok only =>
      cases only with
      | none => rfl
      | some query =>
          have same := queriedName_respelled (regular_of_onlyArgument? regular found)
          change Except.ok (queriedName (respelled query)) = Except.ok (queriedName query)
          rw [same]

/-- A regular node and its respelling re-expose the same validator, if any. -/
theorem reexposed_respelled {node : Value} (regular : Regular node) (marker : Option String) :
    reexposed (respelled node) marker = reexposed node marker := by
  rw [reexposed, reexposed, staticOfTarget_respelled regular, onlyArgument?_respelled regular]
  cases found : onlyArgument? node (some readonlyWrapper) with
  | error fault => rfl
  | ok only =>
      cases only with
      | none => rfl
      | some inside =>
          have same := staticOfTarget_respelled (regular_of_onlyArgument? regular found) marker
          simp only [Except.map, Option.map_some, bind, Except.bind, same]

end TypeGauge.Check

namespace TypeGauge.Types

open TypeGauge.Data TypeGauge.Syntax TypeGauge.Check

/--
Building a node whose parts are all regular has the same outcome as building the node in the
other spelling from the same supply: the same tree with the same identities, or the same fault,
and the same supply afterwards.  The node and its respelling also re-expose the same validator.
-/
theorem both_spellings_give_the_same_tree (node : Value) (regular : Regular node) :
    (∀ supply, outcome (build (respelled node)) supply = outcome (build node) supply) ∧
      ∀ marker, reexposed (respelled node) marker = reexposed node marker := by
  constructor
  · intro supply
    rw [build, build, buildWithin_respelled Nesting.typeRoom regular]
  · exact reexposed_respelled regular

def textNode : Value :=
  .object [("type", .text "TSStringKeyword")]

/-- A function type that takes a text, with its parameter under the given key. -/
def functionNode (key : String) : Value :=
  .object
    [("type", .text "TSFunctionType"),
      (key, .list
        [.object
          [("type", .text "Identifier"), ("name", .text "input"),
            ("typeAnnotation", .object
              [("type", .text "TSTypeAnnotation"), ("typeAnnotation", textNode)])]])]

/-- A reference with one type argument, under the given key. -/
def referenceNode (key : String) (argument : Value) : Value :=
  .object
    [("type", .text "TSTypeReference"), ("typeName", identifierNode "Handlers"),
      (key, .object
        [("type", .text "TSTypeParameterInstantiation"), ("params", .list [argument])])]

/-- A mapped type over a reference with a function type as its argument. -/
def mappedHandlers : Value :=
  .object
    [("type", .text "TSMappedType"),
      ("typeParameter", .object
        [("type", .text "TSTypeParameter"), ("name", .text "Key"),
          ("constraint", referenceNode "typeArguments" (functionNode "params"))]),
      ("typeAnnotation", textNode)]

/-- The same mapped type in the other spelling. -/
def respelledHandlers : Value :=
  .object
    [("type", .text "TSMappedType"),
      ("typeParameter", .object [("type", .text "TSTypeParameter"), ("name", .text "Key")]),
      ("typeAnnotation", textNode),
      ("constraint", referenceNode "typeParameters" (functionNode "parameters"))]

/-- The two spellings differ in three places, each inside the one before, and give one tree. -/
theorem respelledHandlers_give_the_same_tree :
    Regular mappedHandlers ∧ respelled mappedHandlers = respelledHandlers ∧
      ∃ tree, outcome (build mappedHandlers) 7 = (.ok tree, 12) ∧
        outcome (build respelledHandlers) 7 = (.ok tree, 12) := by
  have regular : Regular mappedHandlers := by decide +kernel
  have same : respelled mappedHandlers = respelledHandlers := rfl
  refine ⟨regular, same, ?_⟩
  have built : ∃ tree, outcome (build mappedHandlers) 7 = (.ok tree, 12) := ⟨_, rfl⟩
  rcases built with ⟨tree, built⟩
  refine ⟨tree, built, ?_⟩
  rw [← same, (both_spellings_give_the_same_tree mappedHandlers regular).1 7, built]

end TypeGauge.Types
