import TypeGauge.Proofs.Check.Completion
import TypeGauge.Proofs.Dump.Independence
import TypeGauge.Proofs.Score.Unnamed
import TypeGauge.Proofs.Syntax.Respelling
import TypeGauge.Proofs.Syntax.Stripping

/-!
# Metadata is irrelevant

Two traversals read one document by different rules: the walk goes to whatever is not passed
over, and the readers of a declaration ask for fields by their keys.  Neither comes to
metadata, whatever nodes are hidden there.  So the outline of a stripped node is the outline of
the node with stripped parts, but for its name; the trees without names are the same; and every
visited node contributes to a pass what it contributes without metadata.

Two things are left to ask for.  A name that is shown is read as it stands, so it must not
have parts that could be stripped.  And what is counted must not be an object, because an
object has fewer parts without metadata.
-/

namespace TypeGauge.Types

open TypeGauge.Data TypeGauge.Syntax

/-! ## Type trees -/

/-- The keys of the values whose parts are counted. -/
def countedKeys : List String :=
  ["arguments", "properties", "extends"]

/-- A value in which nothing that is counted is an object. -/
def Countable (value : Value) : Prop :=
  value.everywhere (fun part => countedKeys.all fun key => !(part.field key).isObject) = true

instance : DecidablePred Countable :=
  fun value => inferInstanceAs (Decidable (value.everywhere _ = true))

namespace Countable

theorem inside {whole part : Value} (countable : Countable whole) (inside : whole.Contains part) :
    Countable part :=
  inside.everywhere countable

/-- What is counted in a node whose stripped form is countable is no object. -/
theorem isObject_eq_false {node : Value} (countable : Countable (stripped node)) {key : String}
    (kept : key ∉ metadataKeys) (counted : key ∈ countedKeys) :
    (node.field key).isObject = false := by
  have all := Value.condition_of_everywhere countable
  rw [List.all_eq_true] at all
  have none := all key counted
  rw [field_stripped kept, (keepsShape_stripped _).isObject] at none
  simpa using none

end Countable

/-- An outline with stripped parts and without a name. -/
def Outline.stripped (found : Outline) : Outline :=
  { found.unnamed with parts := found.parts.map Syntax.stripped }

/-- A list that may be missing is read alike in the stripped node. -/
theorem orElse_nil_stripped {key : String} (kept : key ∉ metadataKeys) (node : Value) :
    ((stripped node).field key).orElse (.list []) =
      stripped ((node.field key).orElse (.list [])) := by
  have either := keepsShape_stripped.orElse (node.field key) (.list [])
  rwa [keepsShape_stripped.nil, ← field_stripped kept] at either

theorem partCount_stripped {node : Value} (countable : Countable (stripped node)) {key : String}
    (kept : key ∉ metadataKeys) (counted : key ∈ countedKeys) :
    partCount (((stripped node).field key).orElse (.list [])) =
      partCount ((node.field key).orElse (.list [])) := by
  have noObject : ((node.field key).orElse (.list [])).isObject = false := by
    rw [Value.orElse]
    split
    · exact countable.isObject_eq_false kept counted
    · rfl
  rw [orElse_nil_stripped kept, (keepsShape_stripped _).partCount noObject]

theorem mappedConstraint_stripped (node : Value) :
    mappedConstraint (stripped node) = stripped (mappedConstraint node) := by
  simp only [mappedConstraint, field_stripped (show "typeParameter" ∉ metadataKeys by decide),
    field_stripped (show "constraint" ∉ metadataKeys by decide), keepsShape_stripped.orElse]

theorem typeArguments_stripped (node : Value) :
    typeArguments (stripped node) = (typeArguments node).map (List.map stripped) := by
  simp only [typeArguments, (keepsShape_stripped node).requireObject,
    field_stripped (show "typeArguments" ∉ metadataKeys by decide),
    field_stripped (show "typeParameters" ∉ metadataKeys by decide), keepsShape_stripped.orElse,
    (keepsShape_stripped _).isObject]
  cases requireObject node with
  | error fault => rfl
  | ok isObject =>
      change (if _ then _ else _) = Except.map _ (if _ then _ else _)
      split
      · exact (findsUnder_stripped (by decide) _).nodesUnder keepsShape_stripped
      · rfl

/-- Reading one stripped node gives the outline of the node with stripped parts. -/
theorem outline_stripped {node : Value} (countable : Countable (stripped node)) (kind : TypeKind) :
    (outline kind (stripped node)).map Outline.unnamed =
      (outline kind node).map Outline.stripped := by
  have keeps := keepsShape_stripped
  have finds : ∀ node, FindsUnder stripped node ascriptionKey := findsUnder_stripped (by decide)
  have membersKept := members_change keeps (findsUnder_all_stripped (by decide))
  have nodesKept {keys : List String} (kept : ∀ key ∈ keys, key ∉ metadataKeys) :
      nodesAt (stripped node) keys = (nodesAt node keys).map stripped :=
    nodesAt_change keeps fun key member => findsUnder_all_stripped kept key member node
  cases kind with
  | interface =>
      simp only [outline, membersKept,
        partCount_stripped countable (show "extends" ∉ metadataKeys by decide) (by decide)]
      cases partCount ((node.field "extends").orElse (.list [])) with
      | error fault => rfl
      | ok extended =>
          cases members .interface node with
          | error fault => rfl
          | ok found =>
              simp [Except.map, bind, Except.bind, pure, Except.pure, Outline.stripped,
                Outline.unnamed, ascribedTypes_change keeps finds]
  | typeLiteral =>
      simp only [outline, membersKept]
      cases members .typeLiteral node with
      | error fault => rfl
      | ok found =>
          simp [Except.map, bind, Except.bind, pure, Except.pure, Outline.stripped,
            Outline.unnamed, ascribedTypes_change keeps finds]
  | union | intersection | tuple =>
      simp only [outline]
      rw [(findsUnder_stripped (by decide) node).nodesUnder keeps]
      cases nodesUnder node _ <;> rfl
  | reference =>
      simp only [outline, typeArguments_stripped]
      cases typeArguments node <;> rfl
  | mapped =>
      simp only [outline, mappedConstraint_stripped, keeps.nodeOnly,
        nodesKept (show ∀ key ∈ [ascriptionKey], key ∉ metadataKeys by decide),
        ← List.map_append]
      rfl
  | function =>
      -- Of the parameters only what they ascribe is used, and that is stripped with the node.
      have unfolded (node : Value) :
          outline .function node = ((parameters node).map ascribedTypes).map fun types =>
            .ofParts (types ++ nodeOnly ((node.field "returnType").field ascriptionKey)) := by
        rw [outline]
        cases parameters node <;> rfl
      rw [unfolded, unfolded,
        ascribedTypes_parameters_change keeps finds (findsUnder_stripped (by decide) node)
          (findsUnder_stripped (by decide) node),
        field_stripped (by decide), field_stripped (by decide), keeps.nodeOnly]
      cases parameters node with
      | error fault => rfl
      | ok holders =>
          simp [Except.map, Outline.stripped, Outline.unnamed, Outline.ofParts]
  | array | conditional | rest | optional =>
      simp only [outline]
      rw [nodesKept (by decide)]
      rfl
  | primitive | shortCircuit | unknown => rfl

theorem readHead_stripped (node : Value) : readHead (stripped node) = readHead node := by
  rw [readHead, readHead, (keepsShape_stripped node).requireObject, typeOf, typeOf,
    field_stripped (by decide), ofValue_change keepsShape_stripped,
    positionOf_change keepsShape_stripped (findsUnder_all_stripped (by decide))]

/-- What a type expression is made of is as countable as its node. -/
theorem countable_of_mem_parts {kind : TypeKind} {node part : Value} {found : Outline}
    (countable : Countable (stripped node)) (outlined : outline kind node = .ok found)
    (member : part ∈ found.parts) : Countable (stripped part) := by
  have same := outline_stripped countable kind
  rw [outlined] at same
  rcases map_eq_ok_iff.mp same with ⟨other, otherOutlined, unnamed⟩
  have parts : other.parts = found.parts.map stripped := congrArg Outline.parts unnamed
  have otherMember : stripped part ∈ other.parts := by
    rw [parts]
    exact List.mem_map_of_mem member
  exact countable.inside (holds_of_mem_parts otherOutlined otherMember).2.contains

/-- A node and the stripped node have the same tree but for names, or the same fault. -/
theorem buildUnnamed_stripped (room : Nat) {node : Value} (countable : Countable (stripped node)) :
    buildUnnamed room (stripped node) = buildUnnamed room node := by
  induction room generalizing node with
  | zero => rfl
  | succ room hypothesis =>
      funext supply
      change outcome (buildUnnamed (room + 1) (stripped node)) supply =
        outcome (buildUnnamed (room + 1) node) supply
      rw [outcome_buildUnnamed_succ, outcome_buildUnnamed_succ, readHead_stripped]
      cases readHead node with
      | error fault => rfl
      | ok facts =>
          rcases facts with ⟨kind, source⟩
          simp only [outline_stripped countable kind]
          cases outlined : outline kind node with
          | error fault => rfl
          | ok found =>
              have parts : (found.parts.map stripped).mapM (buildUnnamed room) =
                  found.parts.mapM (buildUnnamed room) := by
                -- The parts stand in the node, so they are countable with it.
                apply mapM_map_of_forall
                intro part member
                exact hypothesis (countable_of_mem_parts countable outlined member)
              simp only [Except.map, Outline.stripped, Outline.unnamed, parts]
              rfl

end TypeGauge.Types

namespace TypeGauge.Check

open TypeGauge.Data TypeGauge.Score TypeGauge.Setup TypeGauge.Syntax TypeGauge.Types

variable {α : Type}

/-! ## Validators -/

theorem isValidatorCall_stripped (node : Value) (namespaceName : Option String) :
    isValidatorCall (stripped node) namespaceName = isValidatorCall node namespaceName := by
  simp only [isValidatorCall, isNodeOf_stripped,
    field_stripped (show "callee" ∉ metadataKeys by decide),
    field_stripped (show "object" ∉ metadataKeys by decide),
    field_stripped (show "name" ∉ metadataKeys by decide), (keepsShape_stripped _).isName]

/-- The name of an identifier, or null for what is none, is stripped with the node. -/
theorem identifierName_stripped (node : Value) :
    (if isNodeOf (stripped node) "Identifier" then (stripped node).field "name" else .null) =
      stripped (if isNodeOf node "Identifier" then node.field "name" else .null) := by
  rw [isNodeOf_stripped, field_stripped (by decide)]
  split
  · rfl
  · exact keepsShape_stripped.null.symm

theorem calledMethod_stripped (node : Value) :
    calledMethod (stripped node) = (calledMethod node).map stripped := by
  simp only [calledMethod, (keepsShape_stripped node).requireObject,
    field_stripped (show "callee" ∉ metadataKeys by decide),
    field_stripped (show "property" ∉ metadataKeys by decide), identifierName_stripped]
  cases requireObject node <;> rfl

theorem declaredName_stripped (node : Value) :
    declaredName (stripped node) = (declaredName node).map stripped := by
  simp only [declaredName, (keepsShape_stripped node).requireObject,
    field_stripped (show "id" ∉ metadataKeys by decide), identifierName_stripped]
  cases requireObject node <;> rfl

theorem hasExplicitCheck_stripped (node : Value) :
    hasExplicitCheck (stripped node) = hasExplicitCheck node := by
  simp only [hasExplicitCheck, (keepsShape_stripped node).requireObject,
    field_stripped (show "id" ∉ metadataKeys by decide),
    field_stripped (show "typeAnnotation" ∉ metadataKeys by decide),
    (keepsShape_stripped _).isObject, (keepsShape_stripped _).isPresent]

theorem flatScore_stripped (method : Value) : flatScore (stripped method) = flatScore method := by
  have same := keepsShape_stripped method
  generalize stripped method = other at same ⊢
  cases same <;> rfl

theorem isOneOf_stripped (method : Value) (names : List String) :
    isOneOf (stripped method) names = isOneOf method names := by
  simp only [isOneOf, (keepsShape_stripped method).isText]

theorem shapePoints_stripped {shape : Value}
    (countable : shape.isObject = true → Countable (stripped shape)) :
    shapePoints (stripped shape) = shapePoints shape := by
  rw [shapePoints, shapePoints, isNodeOf_stripped]
  split
  · rename_i isShape
    rw [partCount_stripped (countable (isObject_of_isNodeOf isShape)) (by decide) (by decide)]
  · rfl

/-- A first part that is an object stands in the value. -/
theorem contains_of_firstPart {value first : Value} (read : firstPart value = .ok first)
    (isObject : first.isObject = true) : value.Contains first := by
  cases value with
  | list items =>
      cases items with
      | nil =>
          cases read
          cases isObject
      | cons item rest =>
          cases read
          exact .item .here List.mem_cons_self
  | text content =>
      cases read
      cases isObject
  | _ => cases read

/-- The first argument of a call is as countable as the call. -/
theorem countable_of_firstArgument {node shape : Value} (countable : Countable (stripped node))
    (read : firstPart (node.field "arguments") = .ok shape) (isObject : shape.isObject = true) :
    Countable (stripped shape) := by
  have strippedRead : firstPart ((stripped node).field "arguments") = .ok (stripped shape) := by
    rw [field_stripped (by decide), keepsShape_stripped.firstPart, read]
    rfl
  have strippedIsObject : (stripped shape).isObject = true := by
    rw [(keepsShape_stripped shape).isObject, isObject]
  have inside := contains_of_firstPart strippedRead strippedIsObject
  exact countable.inside (Value.holds_field strippedIsObject inside).contains

theorem firstShapePoints_stripped {node : Value} (countable : Countable (stripped node)) :
    firstShapePoints (stripped node) = firstShapePoints node := by
  rw [firstShapePoints, firstShapePoints, field_stripped (by decide),
    (keepsShape_stripped _).isPresent, keepsShape_stripped.firstPart]
  cases first : firstPart (node.field "arguments") with
  | error fault => rfl
  | ok shape =>
      have same := shapePoints_stripped (countable_of_firstArgument countable first)
      simp only [Except.map, bind, Except.bind, same]

/-- The points of a call do not depend on metadata. -/
theorem validatorPoints_stripped {node : Value} (countable : Countable (stripped node)) :
    validatorPoints (stripped node) = validatorPoints node := by
  rw [validatorPoints_eq, validatorPoints_eq, calledMethod_stripped,
    firstShapePoints_stripped countable, partCount_stripped countable (by decide) (by decide)]
  cases calledMethod node with
  | error fault => rfl
  | ok method =>
      simp only [Except.map, bind, Except.bind, (keepsShape_stripped method).isNull,
        (keepsShape_stripped method).requireName, isOneOf_stripped, flatScore_stripped]

/-! ## Names -/

/-- A value that is no reference or is one to leaves with plain names. -/
def RefersPlainly (node : Value) : Prop :=
  isNodeOf node "TSTypeReference" = true →
    ∀ name, LeafName (node.field "typeName") name → IsPlainName name

theorem isPlainName_iff {name : Value} :
    IsPlainName name ↔ (name.isNull || name.kind == .text) = true := by
  cases name <;> simp [IsPlainName, Value.isNull, Value.kind]

instance : DecidablePred IsPlainName :=
  fun _ => decidable_of_iff _ isPlainName_iff.symm

theorem stripped_of_isPlainName {name : Value} (plain : IsPlainName name) :
    stripped name = name := by
  rcases plain with rfl | ⟨content, rfl⟩
  · exact keepsShape_stripped.null
  · exact keepsShape_stripped.text content

theorem nameUnder_stripped {node : Value} (plain : IsPlainName (nameUnder node "id")) :
    nameUnder (stripped node) "id" = nameUnder node "id" := by
  have changed : nameUnder (stripped node) "id" = stripped (nameUnder node "id") := by
    simp only [nameUnder, field_stripped (show "id" ∉ metadataKeys by decide),
      field_stripped (show "name" ∉ metadataKeys by decide), (keepsShape_stripped _).isObject]
    split
    · rfl
    · exact keepsShape_stripped.null.symm
  rw [changed, stripped_of_isPlainName plain]

/-! ## Re-exposed validators -/

theorem onlyArgument?_stripped {node : Value} (plain : RefersPlainly node) (name : Option String) :
    onlyArgument? (stripped node) name = (onlyArgument? node name).map (Option.map stripped) := by
  have finds := @findsUnder_all_stripped ["type", "name", "left", "right"] (by decide)
  apply onlyArgument?_change keepsShape_stripped (findsUnder_stripped (by decide) node)
  · intro isReference
    rw [field_stripped (by decide)]
    apply dottedName_change keepsShape_stripped finds
    intro leaf isLeaf
    exact stripped_of_isPlainName (plain isReference leaf isLeaf)
  · exact fun _ => typeArguments_stripped node

theorem staticOfTarget_stripped {node : Value} (plain : RefersPlainly node)
    (marker : Option String) :
    staticOfTarget (stripped node) marker = (staticOfTarget node marker).map stripped := by
  rw [staticOfTarget, staticOfTarget, onlyArgument?_stripped plain]
  cases onlyArgument? node marker with
  | error fault => rfl
  | ok found =>
      cases found with
      | none => exact congrArg Except.ok keepsShape_stripped.null.symm
      | some query =>
          exact congrArg Except.ok
            (queriedName_change keepsShape_stripped (findsUnder_all_stripped (by decide)) query)

/-- A stripped type re-exposes the same validator, under its name without metadata. -/
theorem reexposed_stripped {node : Value} (plain : RefersPlainly node)
    (plainInside : ∀ inside, onlyArgument? node (some readonlyWrapper) = .ok (some inside) →
      RefersPlainly inside)
    (marker : Option String) :
    reexposed (stripped node) marker = (reexposed node marker).map stripped := by
  rw [reexposed, reexposed, staticOfTarget_stripped plain, onlyArgument?_stripped plain]
  cases staticOfTarget node marker with
  | error fault => rfl
  | ok direct =>
      simp only [Except.map, bind, Except.bind, (keepsShape_stripped direct).isNull]
      split
      · rfl
      · cases found : onlyArgument? node (some readonlyWrapper) with
        | error fault => rfl
        | ok only =>
            cases only with
            | none => exact congrArg Except.ok keepsShape_stripped.null.symm
            | some inside => exact staticOfTarget_stripped (plainInside inside found) marker

theorem exposedName_stripped (target : Value) :
    exposedName (stripped target) = exposedName target := by
  -- Lists and objects are refused by their sort, and stripping leaves everything else alone.
  have same := keepsShape_stripped target
  generalize stripped target = other at same ⊢
  cases same <;> rfl

/-! ## Findings -/

namespace Pass

variable (pass : Pass α)

/-- The names that a pass reads of a node, and shows or compares, are plain. -/
structure ReadsPlainNames (node : Value) : Prop where
  aliasName : (typeOf node).isText "TSTypeAliasDeclaration" = true →
    (node.field "typeAnnotation").isObject = true → IsPlainName (nameUnder node "id")
  aliased : (typeOf node).isText "TSTypeAliasDeclaration" = true →
    RefersPlainly (node.field "typeAnnotation")
  wrapped : (typeOf node).isText "TSTypeAliasDeclaration" = true → ∀ inside,
    onlyArgument? (node.field "typeAnnotation") (some readonlyWrapper) = .ok (some inside) →
      RefersPlainly inside
  interfaceName : (typeOf node).isText "TSInterfaceDeclaration" = true →
    IsPlainName (nameUnder node "id")
  variableName : (typeOf node).isText "VariableDeclarator" = true →
    isValidatorCall (node.field "init") (some pass.settings.validatorNamespace) = true →
      hasExplicitCheck node = .ok false → ∀ name, declaredName node = .ok name → IsPlainName name

theorem positionOf_stripped (node : Value) : positionOf (stripped node) = positionOf node :=
  positionOf_change keepsShape_stripped (findsUnder_all_stripped (by decide)) node

theorem scoreOf_stripped {node : Value} (countable : Countable (stripped node)) :
    pass.scoreOf (stripped node) = pass.scoreOf node :=
  pass.scorer.freshScore_eq_of_buildUnnamed (buildUnnamed_stripped Nesting.typeRoom countable) _ _

theorem scoredFinding_stripped {part : Value} (countable : Countable (stripped part))
    (exposed : Option (NameKey × Value)) (kind : DeclarationKind) (name node : Value)
    (decide : α → Decision α) :
    pass.scoredFinding exposed kind name (stripped part) (stripped node) decide =
      pass.scoredFinding exposed kind name part node decide := by
  rw [scoredFinding, scoredFinding, pass.scoreOf_stripped countable, positionOf_stripped]

/-- An object in a field of a node is as countable as the node. -/
theorem countable_field {node : Value} {key : String} (kept : key ∉ metadataKeys)
    (countable : Countable (stripped node)) (isObject : (node.field key).isObject = true) :
    Countable (stripped (node.field key)) := by
  have strippedIsObject : ((stripped node).field key).isObject = true := by
    rw [field_stripped kept, (keepsShape_stripped _).isObject, isObject]
  rw [← field_stripped kept]
  exact countable.inside (Value.holds_field strippedIsObject .here).contains

variable {node : Value} (countable : Countable (stripped node))

include countable

theorem aliasFinding_stripped
    (aliasName : (node.field "typeAnnotation").isObject = true → IsPlainName (nameUnder node "id"))
    (aliased : RefersPlainly (node.field "typeAnnotation"))
    (wrapped : ∀ inside,
      onlyArgument? (node.field "typeAnnotation") (some readonlyWrapper) = .ok (some inside) →
        RefersPlainly inside) :
    pass.aliasFinding (stripped node) = pass.aliasFinding node := by
  rw [aliasFinding, aliasFinding, field_stripped (by decide), reexposed_stripped aliased wrapped,
    (keepsShape_stripped _).isObject]
  cases reexposed (node.field "typeAnnotation") (some pass.settings.staticMarker) with
  | error fault => rfl
  | ok target =>
      simp only [Except.map, bind, Except.bind, exposedName_stripped,
        (keepsShape_stripped target).isNull]
      cases exposedName target with
      | error fault => rfl
      | ok exposed =>
          simp only
          split
          · rename_i isObject
            rw [nameUnder_stripped (aliasName isObject),
              pass.scoredFinding_stripped (countable_field (by decide) countable isObject)]
          · rfl

theorem interfaceFinding_stripped (plain : IsPlainName (nameUnder node "id")) :
    pass.interfaceFinding (stripped node) = pass.interfaceFinding node := by
  rw [interfaceFinding, interfaceFinding, nameUnder_stripped plain]
  exact pass.scoredFinding_stripped countable _ _ _ _ _

theorem declaratorFinding_stripped
    (plain : isValidatorCall (node.field "init") (some pass.settings.validatorNamespace) = true →
      hasExplicitCheck node = .ok false → ∀ name, declaredName node = .ok name →
        IsPlainName name) :
    pass.declaratorFinding (stripped node) = pass.declaratorFinding node := by
  rw [declaratorFinding, declaratorFinding, field_stripped (by decide), isValidatorCall_stripped,
    hasExplicitCheck_stripped]
  split
  · rename_i isCall
    cases checked : hasExplicitCheck node with
    | error fault => rfl
    | ok isChecked =>
        cases isChecked with
        | true => rfl
        | false =>
            have isObject := isObject_of_isValidatorCall isCall
            change pass.uncheckedFinding _ _ = pass.uncheckedFinding _ _
            rw [uncheckedFinding, uncheckedFinding, declaredName_stripped, validatorScore,
              validatorScore,
              validatorPoints_stripped (countable_field (by decide) countable isObject),
              positionOf_stripped]
            cases declared : declaredName node with
            | error fault => rfl
            | ok name =>
                rw [Except.map, stripped_of_isPlainName (plain isCall checked name declared)]
  · rfl

/-- A visited node contributes to a pass what it contributes without metadata. -/
theorem finding_stripped (named : pass.ReadsPlainNames node) :
    pass.finding (stripped node) = pass.finding node := by
  have sameType (name : String) :
      (typeOf (stripped node)).isText name = (typeOf node).isText name := by
    rw [typeOf, typeOf, field_stripped (by decide), (keepsShape_stripped _).isText]
  simp only [finding, sameType]
  split
  · rename_i isAlias
    exact pass.aliasFinding_stripped countable (named.aliasName isAlias) (named.aliased isAlias)
      (named.wrapped isAlias)
  · split
    · rename_i isInterface
      exact pass.interfaceFinding_stripped countable (named.interfaceName isInterface)
    · split
      · rename_i isDeclarator
        exact pass.declaratorFinding_stripped countable (named.variableName isDeclarator)
      · rfl

end Pass

theorem Pass.survey_stripped (pass : Pass α) {program : Value}
    (named : ∀ node ∈ (tour program).visited, pass.ReadsPlainNames node)
    (countable : Countable (stripped program)) :
    pass.survey (stripped program) = pass.survey program := by
  have toured : tour (stripped program) =
      ⟨(tour program).visited.map stripped, (tour program).isComplete⟩ :=
    tourWithin_stripped Nesting.nodeRoom program
  simp only [Pass.survey, (keepsShape_stripped program).requireObject, toured]
  by_cases isObject : program.isObject = true
  · have findings : ((tour program).visited.map stripped).mapM pass.finding =
        (tour program).visited.mapM pass.finding := by
      apply mapM_map_of_forall
      intro node member
      have strippedMember : stripped node ∈ (tour (stripped program)).visited := by
        rw [toured]
        exact List.mem_map_of_mem member
      have strippedIsObject : (stripped program).isObject = true := by
        rw [(keepsShape_stripped program).isObject, isObject]
      have inside := (contains_of_mem_tourWithin strippedIsObject strippedMember).2
      exact pass.finding_stripped (countable.inside inside) (named node member)
    rw [findings]
  · rw [requireObject, if_neg isObject]
    rfl

/--
A pass over a program without metadata shows what a pass over the program shows: the same
diagnostics and the same scored declarations, or the same fault.  It is asked of the names that
are read that they are plain, and of what is counted that it is no object, but nothing of what
the metadata holds.
-/
theorem metadata_is_irrelevant (pass : Pass α) (program : Value)
    (named : ∀ node ∈ (tour program).visited, pass.ReadsPlainNames node)
    (countable : Countable (stripped program)) (supply otherSupply : Nat) :
    shown (analyze pass.arithmetic pass.settings pass.file (stripped program) otherSupply) =
      shown (analyze pass.arithmetic pass.settings pass.file program supply) := by
  rw [shown_analyze, shown_analyze, pass.survey_stripped named countable]

/-- A validator, with an alias in the comments that re-exposes it and another one as its parent. -/
def annotatedValidator : Value :=
  .object
    [("type", .text "Program"), ("comments", .list [staticNode "user"]),
      ("body", .list
        [.object
          [("type", .text "VariableDeclarator"), ("parent", validatorNode "order"),
            ("id", .object
              [("type", .text "Identifier"), ("range", .object [("name", .list [])]),
                ("name", .text "user")]),
            ("init", (validatorNode "user").field "init")]])]

/-- The pass with the standard settings over whole numbers. -/
def standardPass : Pass Nat :=
  ⟨wholeNumbers, .standard wholeNumbers, ⟨.relative, []⟩⟩

theorem annotatedValidator_readsPlainNames (node : Value)
    (member : node ∈ (tour annotatedValidator).visited) : standardPass.ReadsPlainNames node := by
  have checked : ∀ node ∈ (tour annotatedValidator).visited,
      (typeOf node).isText "TSTypeAliasDeclaration" = false ∧
        (typeOf node).isText "TSInterfaceDeclaration" = false ∧
        (declaredName node).toOption.all (fun name => IsPlainName name) = true := by
    decide +kernel
  rcases checked node member with ⟨noAlias, noInterface, plain⟩
  refine ⟨by simp [noAlias], by simp [noAlias], by simp [noAlias], by simp [noInterface], ?_⟩
  intro _ _ _ name declared
  rw [declared] at plain
  exact of_decide_eq_true plain

/-- The alias in the comments would exempt the validator if it were read. -/
theorem annotatedValidator_is_reported_without_its_annotations :
    stripped annotatedValidator =
        .object [("type", .text "Program"), ("body", .list [validatorNode "user"])] ∧
      ∃ diagnostics declarations,
        shown (analyze wholeNumbers (.standard wholeNumbers) ⟨.relative, []⟩ annotatedValidator 1) =
            .ok (diagnostics, declarations) ∧
          shown (analyze wholeNumbers (.standard wholeNumbers) ⟨.relative, []⟩
            (stripped annotatedValidator) 1) = .ok (diagnostics, declarations) ∧
          diagnostics.length = 1 := by
  refine ⟨rfl, ?_⟩
  have irrelevant := metadata_is_irrelevant standardPass annotatedValidator
    annotatedValidator_readsPlainNames (by decide +kernel) 1 1
  have counted : (shown (analyze standardPass.arithmetic standardPass.settings standardPass.file
      annotatedValidator 1)).toOption.map (fun found => found.1.length) = some 1 := by
    decide +kernel
  cases result : shown (analyze standardPass.arithmetic standardPass.settings standardPass.file
      annotatedValidator 1) with
  | error fault =>
      rw [result] at counted
      cases counted
  | ok found =>
      rw [result] at irrelevant counted
      exact ⟨found.1, found.2, result, irrelevant, Option.some.inj counted⟩

end TypeGauge.Check
