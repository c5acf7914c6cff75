import TypeGauge.Proofs.Check.Specification
import TypeGauge.Proofs.Types.Misshapen

/-!
# Declarations that cannot be used

A validator is miscalled when its method or its arguments cannot be told apart or counted.  A
declaration is misdeclared when its type expression cannot be read, when it is a validator that
is miscalled, when a name that it gives is none or when it starts at no place.  The type of an
alias is looked at twice, first for a validator that it re-exposes, but that look fails only
in type expressions that cannot be read.
-/

namespace TypeGauge.Check

open TypeGauge.Data TypeGauge.Setup TypeGauge.Score TypeGauge.Syntax TypeGauge.Types

variable {α : Type} {node call : Value} {fault : Fault}

/-! ## Validator calls -/

/-- The points of the shape of an object. -/
def shapePoints (shape : Value) : Except Fault Nat :=
  if isNodeOf shape "ObjectExpression" then do
    let count ← partCount ((shape.field "properties").orElse (.list []))
    return 10 + 3 * count
  else return 0

/-- The points of a call that takes the shape of an object. -/
def firstShapePoints (node : Value) : Except Fault Nat :=
  if (node.field "arguments").isPresent then firstPart (node.field "arguments") >>= shapePoints
  else return 0

theorem validatorPoints_eq (node : Value) :
    validatorPoints node = (do
      let method ← calledMethod node
      if method.isNull then return 0
      else
        requireName method
        if isOneOf method shapeMethods then firstShapePoints node
        else if isOneOf method combiningMethods then
          return 2 * (← partCount ((node.field "arguments").orElse (.list [])))
        else return flatScore method) := by
  have shaped : firstShapePoints node = (do
      let arguments := (node.field "arguments").orElse (.list [])
      let shape ← if arguments.isPresent then firstPart arguments else pure .null
      shapePoints shape) := by
    by_cases present : (node.field "arguments").isPresent = true
    · simp [firstShapePoints, Value.orElse, present]
    · simp [firstShapePoints, Value.orElse, present]
      rfl
  rw [validatorPoints, shaped]
  rfl

/-- What a validator is constructed by is a call, and so an object. -/
theorem isObject_of_isValidatorCall {name : Option String}
    (called : isValidatorCall node name = true) : node.isObject = true := by
  simp only [isValidatorCall, isNodeOf, Bool.and_eq_true] at called
  exact called.1.1.1.1

/-- A validator call holds something that cannot be used, and this fault says so. -/
inductive Miscalls (call : Value) : Fault → Prop
  | method {method : Value} (called : calledMethod call = .ok method)
      (noName : isNoName method = true) : Miscalls call (.notAName method.kind)
  /-- An object has no first argument. -/
  | keyed {method : Value} (called : calledMethod call = .ok method)
      (shaped : isOneOf method shapeMethods = true)
      (present : (call.field "arguments").isPresent = true)
      (isObject : (call.field "arguments").isObject = true) : Miscalls call .noFirstPart
  | first {method : Value} (called : calledMethod call = .ok method)
      (shaped : isOneOf method shapeMethods = true)
      (present : (call.field "arguments").isPresent = true)
      (noParts : hasParts (call.field "arguments") = false) :
      Miscalls call (.noPositions (call.field "arguments").kind)
  | properties {method shape : Value} (called : calledMethod call = .ok method)
      (shaped : isOneOf method shapeMethods = true)
      (present : (call.field "arguments").isPresent = true)
      (first : firstPart (call.field "arguments") = .ok shape)
      (isShape : isNodeOf shape "ObjectExpression" = true)
      (noParts : hasParts ((shape.field "properties").orElse (.list [])) = false) :
      Miscalls call (.noLength ((shape.field "properties").orElse (.list [])).kind)
  | combined {method : Value} (called : calledMethod call = .ok method)
      (combining : isOneOf method combiningMethods = true)
      (noParts : hasParts ((call.field "arguments").orElse (.list [])) = false) :
      Miscalls call (.noLength ((call.field "arguments").orElse (.list [])).kind)

theorem shapePoints_eq_error_iff {shape : Value} :
    shapePoints shape = .error fault ↔
      isNodeOf shape "ObjectExpression" = true ∧
        hasParts ((shape.field "properties").orElse (.list [])) = false ∧
        fault = .noLength ((shape.field "properties").orElse (.list [])).kind := by
  rw [shapePoints]
  split
  · rename_i isShape
    simp [isShape, bind_eq_error_iff, partCount_eq_error_iff, pure, Except.pure]
  · rename_i noShape
    simp [noShape, pure, Except.pure]

theorem exists_name_of_isOneOf {method : Value} {names : List String}
    (listed : isOneOf method names = true) : ∃ name ∈ names, method = .text name := by
  rw [isOneOf, List.any_eq_true] at listed
  rcases listed with ⟨name, member, isText⟩
  exact ⟨name, member, Value.isText_iff.mp isText⟩

theorem miscalls_of_firstShapePoints {method : Value} (called : calledMethod call = .ok method)
    (shaped : isOneOf method shapeMethods = true)
    (refused : firstShapePoints call = .error fault) : Miscalls call fault := by
  rw [firstShapePoints] at refused
  split at refused
  · rename_i present
    rcases bind_eq_error_iff.mp refused with unread | ⟨shape, first, refused⟩
    · rcases firstPart_eq_error_iff.mp unread with ⟨isObject, rfl⟩ | ⟨noParts, rfl⟩
      · exact .keyed called shaped present isObject
      · exact .first called shaped present noParts
    · rcases shapePoints_eq_error_iff.mp refused with ⟨isShape, noParts, rfl⟩
      exact .properties called shaped present first isShape noParts
  · cases refused

theorem miscalls_of_validatorPoints (isObject : call.isObject = true)
    (refused : validatorPoints call = .error fault) : Miscalls call fault := by
  rw [validatorPoints_eq, bind_eq_error_iff] at refused
  rcases refused with refused | ⟨method, called, refused⟩
  · rw [calledMethod, requireObject, if_pos isObject] at refused
    cases refused
  · split at refused
    · cases refused
    · rcases bind_eq_error_iff.mp refused with named | ⟨_, _, refused⟩
      · rcases requireName_eq_error_iff.mp named with ⟨noName, rfl⟩
        exact .method called noName
      · split at refused
        · rename_i shaped
          exact miscalls_of_firstShapePoints called shaped refused
        · split at refused
          · rename_i combining
            rcases bind_eq_error_iff.mp refused with uncounted | ⟨_, _, ended⟩
            · rcases partCount_eq_error_iff.mp uncounted with ⟨noParts, rfl⟩
              exact .combined called combining noParts
            · cases ended
          · cases refused

/-- The points of a call of a method that takes a shape are those of its first argument. -/
theorem validatorPoints_of_shaped {method : Value} (called : calledMethod call = .ok method)
    (shaped : isOneOf method shapeMethods = true) :
    validatorPoints call = firstShapePoints call := by
  rw [validatorPoints_eq, called]
  rcases exists_name_of_isOneOf shaped with ⟨name, _, rfl⟩
  simp [bind, Except.bind, requireName, Value.isNull, shaped]

theorem Miscalls.exists_fault (miscalls : Miscalls call fault) :
    ∃ other, validatorPoints call = .error other := by
  cases miscalls with
  | @method method called noName =>
      have refused := requireName_eq_error_iff.mpr ⟨noName, rfl⟩
      have notNull : method.isNull = false := by
        cases method <;> first | rfl | cases noName
      rw [validatorPoints_eq, called]
      refine ⟨.notAName method.kind, ?_⟩
      simp [bind, Except.bind, notNull, refused]
  | keyed called shaped present isObject =>
      rw [validatorPoints_of_shaped called shaped, firstShapePoints, if_pos present]
      have refused := firstPart_eq_error_iff.mpr (.inl ⟨isObject, rfl⟩)
      exact ⟨_, bind_eq_error_iff.mpr (.inl refused)⟩
  | first called shaped present noParts =>
      rw [validatorPoints_of_shaped called shaped, firstShapePoints, if_pos present]
      have refused := firstPart_eq_error_iff.mpr (.inr ⟨noParts, rfl⟩)
      exact ⟨_, bind_eq_error_iff.mpr (.inl refused)⟩
  | @properties method shape called shaped present first isShape noParts =>
      rw [validatorPoints_of_shaped called shaped, firstShapePoints, if_pos present]
      have refused := shapePoints_eq_error_iff.mpr ⟨isShape, noParts, rfl⟩
      exact ⟨_, bind_eq_error_iff.mpr (.inr ⟨shape, first, refused⟩)⟩
  | combined called combining noParts =>
      have refused := partCount_eq_error_iff.mpr ⟨noParts, rfl⟩
      rw [validatorPoints_eq, called]
      rcases exists_name_of_isOneOf combining with ⟨name, member, rfl⟩
      have apart : ∀ name ∈ combiningMethods, isOneOf (.text name) shapeMethods = false := by decide
      refine ⟨.noLength ((call.field "arguments").orElse (.list [])).kind, ?_⟩
      simp [bind, Except.bind, requireName, Value.isNull, apart name member, combining, refused]

/-! ## Re-exposed validators -/

theorem ofValue_of_isReference (isReference : isNodeOf node "TSTypeReference" = true) :
    TypeKind.ofValue (typeOf node) = .ok .reference := by
  rw [isNodeOf, Bool.and_eq_true, Value.isText_iff] at isReference
  rw [isReference.2]
  rfl

/-- Looking for the only argument of a reference fails where the reference cannot be read. -/
theorem misshapes_of_onlyArgument {name : Option String}
    (refused : onlyArgument? node name = .error fault) : Misshapes node fault := by
  rw [onlyArgument?] at refused
  split at refused
  · rename_i named
    rw [Bool.and_eq_true] at named
    rcases bind_eq_error_iff.mp refused with unread | ⟨arguments, _, ended⟩
    · rcases (typeArguments_eq_error_iff (isObject_of_isNodeOf named.1)).mp unread with
        ⟨noParts, rfl⟩
      exact .partList (ofValue_of_isReference named.1) noParts
    · split at ended <;> cases ended
  · cases refused

theorem madeOf_of_onlyArgument {name : Option String} {argument : Value}
    (found : onlyArgument? node name = .ok (some argument)) : MadeOf node argument := by
  rw [onlyArgument?] at found
  split at found
  · rename_i named
    rw [Bool.and_eq_true] at named
    rcases bind_eq_ok_iff.mp found with ⟨arguments, read, ended⟩
    split at ended
    · cases ended
      refine ⟨.reference, ⟨dottedName (node.field "typeName"), 0, 0, [argument]⟩,
        ofValue_of_isReference named.1, ?_, List.mem_cons_self⟩
      rw [outline, read]
      rfl
    · cases ended
  · cases found

theorem misshapes_of_staticOfTarget {marker : Option String}
    (refused : staticOfTarget node marker = .error fault) : Misshapes node fault := by
  rw [staticOfTarget, bind_eq_error_iff] at refused
  rcases refused with refused | ⟨argument, _, ended⟩
  · exact misshapes_of_onlyArgument refused
  · cases argument <;> cases ended

/-- Looking for a re-exposed validator fails only in a type expression that cannot be read. -/
theorem unreadable_of_reexposed {marker : Option String}
    (refused : reexposed node marker = .error fault) : Unreadable node fault := by
  rw [reexposed, bind_eq_error_iff] at refused
  rcases refused with refused | ⟨direct, _, refused⟩
  · exact (misshapes_of_staticOfTarget refused).unreadable
  · split at refused
    · cases refused
    · rcases bind_eq_error_iff.mp refused with refused | ⟨argument, found, refused⟩
      · exact (misshapes_of_onlyArgument refused).unreadable
      · cases argument with
        | none => cases refused
        | some inside =>
            have unreadable := (misshapes_of_staticOfTarget refused).unreadable
            exact unreadable.head (madeOf_of_onlyArgument found)

/-- A value that is no object re-exposes nothing. -/
theorem reexposed_of_no_object (noObject : node.isObject = false) (marker : Option String) :
    reexposed node marker = .ok .null := by
  simp [reexposed, staticOfTarget, onlyArgument?, isNodeOf, noObject, bind, Except.bind, pure,
    Except.pure, Value.isNull]

theorem nameKey_eq_error_iff {name : Value} :
    NameKey.ofValue name = .error fault ↔ isNoName name = true ∧ fault = .notAName name.kind := by
  cases name with
  | double number =>
      simp only [NameKey.ofValue, isNoName]
      split <;> simp
  | _ => simp [NameKey.ofValue, isNoName, Value.kind, eq_comm]

theorem exposedName_eq_error_iff {target : Value} :
    exposedName target = .error fault ↔
      isNoName target = true ∧ fault = .notAName target.kind := by
  rw [exposedName]
  split
  · rename_i isNull
    cases target with
    | null => simp [isNoName]
    | _ => cases isNull
  · rw [map_eq_error_iff, nameKey_eq_error_iff]

/-! ## Declarations -/

theorem hasExplicitCheck_eq (isObject : node.isObject = true) :
    hasExplicitCheck node = .ok (isAnnotated node) := by
  rw [hasExplicitCheck, requireObject, if_pos isObject]
  rfl

theorem isObject_of_isValidator {settings : Settings α}
    (declared : declarationKind? settings node = some .validator) :
    (node.field "init").isObject = true := by
  rw [declarationKind?] at declared
  split at declared
  · split at declared
    · cases declared
    · cases declared
  · split at declared
    · cases declared
    · split at declared
      · rename_i called
        rw [Bool.and_eq_true, Bool.and_eq_true] at called
        exact isObject_of_isValidatorCall called.1.2
      · cases declared

namespace Pass

/-- A declaration holds something that a pass cannot use, and this fault says so. -/
inductive Misdeclares (pass : Pass α) (node : Value) : Fault → Prop
  | typeAlias {fault : Fault} (declared : declarationKind? pass.settings node = some .typeAlias)
      (unreadable : Unreadable (node.field "typeAnnotation") fault) :
      Misdeclares pass node fault
  | interface {fault : Fault} (declared : declarationKind? pass.settings node = some .interface)
      (unreadable : Unreadable node fault) : Misdeclares pass node fault
  | validator {fault : Fault} (declared : declarationKind? pass.settings node = some .validator)
      (miscalls : Miscalls (node.field "init") fault) : Misdeclares pass node fault
  | position {kind : DeclarationKind} {fault : Fault}
      (declared : declarationKind? pass.settings node = some kind)
      (mispositions : Mispositions node fault) : Misdeclares pass node fault
  /-- What an alias re-exposes is no name. -/
  | exposed {target : Value} (declared : declarationKind? pass.settings node = some .typeAlias)
      (found : reexposed (node.field "typeAnnotation") (some pass.settings.staticMarker) =
        .ok target)
      (noName : isNoName target = true) : Misdeclares pass node (.notAName target.kind)
  /-- What a validator that is to be reported on is bound to is no name. -/
  | bound {entry : ScoredDeclaration α} (described : pass.Describes node entry)
      (late : pass.isPutOff (node, entry) = true) (noName : isNoName entry.name = true) :
      Misdeclares pass node (.notAName entry.name.kind)

end Pass

end TypeGauge.Check
