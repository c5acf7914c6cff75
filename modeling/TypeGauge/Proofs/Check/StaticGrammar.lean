import TypeGauge.Proofs.Check.Specification
import TypeGauge.Proofs.Syntax.Respelling

/-!
# The grammar of re-exposed validators

A static-of reference is a reference to the marker that is applied to one thing, the type
query of an identifier.  A type re-exposes a validator when it is a static-of reference, or
when it is a read-only wrapper that is applied to one.  The recognizer tries the two in turn,
on values that need not be syntax trees at all, and it accepts exactly these types, whatever
the marker is.  A second wrapper hides the validator, unless the marker is the wrapper itself.
-/

namespace TypeGauge.Check

open TypeGauge.Data TypeGauge.Syntax

/-! ## The grammar -/

/-- The objects among the type arguments of a reference. -/
def argumentObjects (node : Value) : List Value :=
  match (argumentHolder node).field "params" with
  | .list items => items.filter Value.isObject
  | _ => []

/-- A reference to a name, applied to one argument. -/
structure AppliesTo (name : String) (node argument : Value) : Prop where
  isReference : isNodeOf node "TSTypeReference" = true
  rendered : dottedName (node.field "typeName") = .text name
  only : argumentObjects node = [argument]

/-- The type query of an identifier with a name. -/
structure Queries (query name : Value) : Prop where
  isQuery : isNodeOf query "TSTypeQuery" = true
  isIdentifier : isNodeOf (query.field "exprName") "Identifier" = true
  named : (query.field "exprName").field "name" = name
  notNull : name ≠ .null

/-- A static-of reference to the validator of a name. -/
def IsStaticOf (marker : String) (node name : Value) : Prop :=
  ∃ query, AppliesTo marker node query ∧ Queries query name

/-- The types that re-expose the validator of a name. -/
inductive Reexposes (marker : String) (node name : Value) : Prop where
  | direct (static : IsStaticOf marker node name)
  | wrapped {inside : Value} (wraps : AppliesTo "Readonly" node inside)
      (static : IsStaticOf marker inside name)

/-- A type inside a number of read-only wrappers. -/
inductive Wrapped (inner : Value) : Nat → Value → Prop where
  | bare : Wrapped inner 0 inner
  | layer {depth : Nat} {inside outer : Value} (wrapped : Wrapped inner depth inside)
      (wraps : AppliesTo "Readonly" outer inside) : Wrapped inner (depth + 1) outer

/-- A value that is no reference or has its type arguments, if any, in a list. -/
def ListsOwnArguments (node : Value) : Prop :=
  isNodeOf node "TSTypeReference" = true → holdsOnly (argumentHolder node) "params" .list = true

/-- The type arguments of a value, and of those among them that are objects, stand in lists. -/
def ListsArguments (node : Value) : Prop :=
  ∀ part ∈ node :: argumentObjects node, ListsOwnArguments part

/-! ## The recognizer -/

/-- The type arguments that are read are the objects of the list. -/
theorem typeArguments_eq_argumentObjects {node : Value} (listed : ListsOwnArguments node)
    (isReference : isNodeOf node "TSTypeReference" = true) :
    typeArguments node = .ok (argumentObjects node) := by
  rw [typeArguments_of_isObject (isObject_of_isNodeOf isReference), argumentObjects, Value.field]
  replace listed := holdsOnly_iff.mp (listed isReference)
  cases holder : argumentHolder node with
  | object fields =>
      rw [holder] at listed
      rw [Value.isObject, if_pos rfl, nodesUnder]
      cases found : (Value.object fields).field? "params" with
      | none => rfl
      | some value =>
          cases value with
          | list items => rfl
          | _ => cases listed _ found
  | _ => rfl

/-- Arguments that are found stand in a list. -/
theorem AppliesTo.listed {name : String} {node argument : Value}
    (applied : AppliesTo name node argument) : ListsOwnArguments node := by
  intro _
  rw [holdsOnly_iff]
  intro value found
  have only := applied.only
  rw [argumentObjects, Value.field, found, Option.getD_some] at only
  cases value with
  | list items => rfl
  | _ => cases only

/-- The only argument of a reference is found exactly when there is one. -/
theorem exists_onlyArgument? {node : Value} (name : String) (listed : ListsOwnArguments node) :
    ∃ found, onlyArgument? node (some name) = .ok found ∧
      ∀ argument, found = some argument ↔ AppliesTo name node argument := by
  rw [onlyArgument?]
  split
  · rename_i named
    rw [Bool.and_eq_true, Value.isName, Value.isText_iff] at named
    have read := typeArguments_eq_argumentObjects listed named.1
    have isApplied (argument : Value) :
        AppliesTo name node argument ↔ argumentObjects node = [argument] :=
      ⟨AppliesTo.only, AppliesTo.mk named.1 named.2⟩
    simp only [isApplied, read]
    rcases argumentObjects node with _ | ⟨first, _ | ⟨second, rest⟩⟩
    · exact ⟨none, rfl, by simp⟩
    · exact ⟨some first, rfl, by simp⟩
    · exact ⟨none, rfl, by simp⟩
  · rename_i otherwise
    refine ⟨none, rfl, ?_⟩
    intro argument
    constructor
    · intro found
      cases found
    · intro applied
      refine absurd ?_ otherwise
      rw [Bool.and_eq_true, Value.isName, Value.isText_iff]
      exact ⟨applied.isReference, applied.rendered⟩

theorem queriedName_eq_iff {query name : Value} (notNull : name ≠ .null) :
    queriedName query = name ↔ Queries query name := by
  rw [queriedName]
  split
  · rename_i asks
    rw [Bool.and_eq_true] at asks
    exact ⟨fun named => ⟨asks.1, asks.2, named, notNull⟩, Queries.named⟩
  · rename_i asksNothing
    constructor
    · intro named
      exact absurd named.symm notNull
    · intro queries
      refine absurd ?_ asksNothing
      rw [Bool.and_eq_true]
      exact ⟨queries.isQuery, queries.isIdentifier⟩

/-- The first attempt finds the names of static-of references. -/
theorem exists_staticOfTarget {node : Value} (marker : String) (listed : ListsOwnArguments node) :
    ∃ target, staticOfTarget node (some marker) = .ok target ∧
      ∀ name, name ≠ .null → (target = name ↔ IsStaticOf marker node name) := by
  rcases exists_onlyArgument? marker listed with ⟨found, read, found_iff⟩
  rw [staticOfTarget, read]
  cases found with
  | none =>
      refine ⟨.null, rfl, ?_⟩
      intro name notNull
      constructor
      · intro named
        exact absurd named.symm notNull
      · rintro ⟨query, applied, _⟩
        cases (found_iff query).mpr applied
  | some query =>
      refine ⟨queriedName query, rfl, ?_⟩
      intro name notNull
      rw [queriedName_eq_iff notNull]
      constructor
      · intro queries
        exact ⟨query, (found_iff query).mp rfl, queries⟩
      · rintro ⟨other, applied, queries⟩
        cases (found_iff other).mpr applied
        exact queries

/-- What a static-of reference is applied to is a query, and no static-of reference. -/
theorem IsStaticOf.not_wraps {marker wrapper : String} {node name inside other : Value}
    (static : IsStaticOf marker node name) (wraps : AppliesTo wrapper node inside) :
    ¬ IsStaticOf marker inside other := by
  rintro ⟨_, applied, _⟩
  rcases static with ⟨query, outer, queries⟩
  have same := outer.only.symm.trans wraps.only
  cases same
  exact absurd (typeName_eq_of_isNodeOf queries.isQuery applied.isReference) (by decide)

theorem Reexposes.notNull {marker : String} {node name : Value}
    (exposed : Reexposes marker node name) : name ≠ .null := by
  rcases exposed with ⟨_, _, queries⟩ | ⟨_, _, _, queries⟩
  · exact queries.notNull
  · exact queries.notNull

/-- The two attempts together find the names of what a type re-exposes. -/
theorem exists_reexposed {node : Value} (marker : String) (listed : ListsArguments node) :
    ∃ target, reexposed node (some marker) = .ok target ∧
      ∀ name, name ≠ .null → (target = name ↔ Reexposes marker node name) := by
  have here := listed node List.mem_cons_self
  rcases exists_staticOfTarget marker here with ⟨direct, directRead, direct_iff⟩
  rcases exists_onlyArgument? "Readonly" here with ⟨found, foundRead, found_iff⟩
  rw [reexposed, directRead]
  by_cases nothing : direct = .null
  · subst nothing
    have indirect (name : Value) (notNull : name ≠ .null) : ¬ IsStaticOf marker node name :=
      fun static => notNull ((direct_iff name notNull).mpr static).symm
    change ∃ target, (onlyArgument? node (some "Readonly") >>= _) = _ ∧ _
    rw [foundRead]
    cases found with
    | none =>
        refine ⟨.null, rfl, ?_⟩
        intro name notNull
        constructor
        · intro named
          exact absurd named.symm notNull
        · rintro (static | ⟨wraps, _⟩)
          · exact absurd static (indirect name notNull)
          · cases (found_iff _).mpr wraps
    | some inside =>
        have wraps := (found_iff inside).mp rfl
        have within : inside ∈ node :: argumentObjects node := by
          rw [wraps.only]
          simp
        rcases exists_staticOfTarget marker (listed inside within) with
          ⟨target, targetRead, target_iff⟩
        refine ⟨target, targetRead, ?_⟩
        intro name notNull
        rw [target_iff name notNull]
        constructor
        · exact Reexposes.wrapped wraps
        · rintro (static | ⟨otherWraps, static⟩)
          · exact absurd static (indirect name notNull)
          · cases (found_iff _).mpr otherWraps
            exact static
  · refine ⟨direct, ?_, ?_⟩
    · cases direct with
      | null => exact absurd rfl nothing
      | _ => rfl
    · -- Where the first attempt succeeds, the second one would have failed.
      intro name notNull
      have static := (direct_iff direct nothing).mp rfl
      rw [direct_iff name notNull]
      constructor
      · exact Reexposes.direct
      · rintro (static | ⟨wraps, inner⟩)
        · exact static
        · exact absurd inner (static.not_wraps wraps)

/-! ## Wrappers -/

/-- A wrapper is no static-of reference, unless it is the marker. -/
theorem AppliesTo.not_static {marker wrapper : String} {node inside name : Value}
    (wraps : AppliesTo wrapper node inside) (different : marker ≠ wrapper) :
    ¬ IsStaticOf marker node name := by
  rintro ⟨_, applied, _⟩
  exact different (Value.text.inj (applied.rendered.symm.trans wraps.rendered))

theorem IsStaticOf.listsArguments {marker : String} {node name : Value}
    (static : IsStaticOf marker node name) : ListsArguments node := by
  rcases static with ⟨query, applied, queries⟩
  intro part mem
  rw [applied.only, List.mem_pair] at mem
  rcases mem with rfl | rfl
  · exact applied.listed
  · intro isReference
    exact absurd (typeName_eq_of_isNodeOf queries.isQuery isReference) (by decide)

/-- Whatever the wrapped type is, its arguments are read without a fault. -/
theorem Wrapped.listsArguments {inner outer : Value} {depth : Nat}
    (wrapped : Wrapped inner depth outer) (listed : ListsArguments inner) :
    ListsArguments outer := by
  induction wrapped with
  | bare => exact listed
  | layer wrapped wraps hypothesis =>
      intro part mem
      rw [wraps.only, List.mem_pair] at mem
      rcases mem with rfl | rfl
      · exact wraps.listed
      · exact hypothesis _ List.mem_cons_self

/-- One wrapper is looked through. -/
theorem Wrapped.reexposes {marker : String} {inner outer name : Value} {depth : Nat}
    (wrapped : Wrapped inner depth outer) (shallow : depth ≤ 1)
    (static : IsStaticOf marker inner name) : Reexposes marker outer name := by
  cases wrapped with
  | bare => exact .direct static
  | layer inside wraps =>
      cases inside with
      | bare => exact .wrapped wraps static
      | layer _ _ => omega

/-- A second wrapper hides whatever is inside. -/
theorem Wrapped.not_reexposes {marker : String} {inner outer : Value} {depth : Nat}
    (wrapped : Wrapped inner depth outer) (deep : 1 < depth) (different : marker ≠ "Readonly")
    (name : Value) : ¬ Reexposes marker outer name := by
  cases wrapped with
  | bare => omega
  | layer inside wraps =>
      cases inside with
      | bare => omega
      | layer _ innerWraps =>
          rintro (static | ⟨otherWraps, static⟩)
          · exact wraps.not_static different static
          · cases otherWraps.only.symm.trans wraps.only
            exact innerWraps.not_static different static

/--
The recognizer accepts exactly the grammar: it finds the name of every type that re-exposes
a validator, and null in everything else.  So wrappers are looked through once.
-/
theorem reexposed_validators_are_recognized_exactly (marker : String) :
    (∀ node, ListsArguments node →
      ∃ target, reexposed node (some marker) = .ok target ∧
        (∀ name, name ≠ .null → (target = name ↔ Reexposes marker node name)) ∧
        (target = .null ↔ ∀ name, ¬ Reexposes marker node name)) ∧
    (marker ≠ "Readonly" →
      ∀ inner name, IsStaticOf marker inner name →
        ∀ depth outer, Wrapped inner depth outer →
          (reexposed outer (some marker) = .ok name ↔ depth ≤ 1) ∧
          (1 < depth → reexposed outer (some marker) = .ok .null)) := by
  constructor
  · intro node listed
    rcases exists_reexposed marker listed with ⟨target, read, target_iff⟩
    refine ⟨target, read, target_iff, ?_⟩
    constructor
    · rintro rfl name exposed
      exact exposed.notNull ((target_iff name exposed.notNull).mpr exposed).symm
    · intro unexposed
      by_contra notNull
      exact unexposed target ((target_iff target notNull).mp rfl)
  · intro different inner name static depth outer wrapped
    rcases exists_reexposed marker (wrapped.listsArguments static.listsArguments) with
      ⟨target, read, target_iff⟩
    have hidden (deep : 1 < depth) : target = .null := by
      by_contra notNull
      exact wrapped.not_reexposes deep different target ((target_iff target notNull).mp rfl)
    rw [read, Except.ok.injEq, Except.ok.injEq]
    refine ⟨⟨?_, ?_⟩, hidden⟩
    · rintro rfl
      by_contra deep
      exact (Reexposes.direct static).notNull (hidden (not_le.mp deep))
    · intro shallow
      have exposed := wrapped.reexposes shallow static
      exact (target_iff name exposed.notNull).mpr exposed

/-- A static-of reference to a validator. -/
def staticReference (name : String) : Value :=
  (staticNode name).field "typeAnnotation"

/-- A read-only wrapper in the older spelling, with something that is no type beside the type. -/
def readonlyNode (inside : Value) : Value :=
  .object
    [("type", .text "TSTypeReference"), ("typeName", identifierNode "Readonly"),
      ("typeParameters", .object [("params", .list [.null, inside])])]

theorem readonlyNode_appliesTo {inside : Value} (isObject : inside.isObject = true) :
    AppliesTo "Readonly" (readonlyNode inside) inside where
  isReference := rfl
  rendered := by cbv
  only := by
    change [inside].filter Value.isObject = [inside]
    rw [List.filter_cons_of_pos isObject, List.filter_nil]

theorem secondWrapper_hides_the_validator :
    IsStaticOf "Ianitor.Static" (staticReference "user") (.text "user") ∧
      reexposed (readonlyNode (staticReference "user")) (some "Ianitor.Static") =
        .ok (.text "user") ∧
      reexposed (readonlyNode (readonlyNode (staticReference "user"))) (some "Ianitor.Static") =
        .ok .null ∧
      ∃ target, reexposed (staticReference "user") (some "Ianitor.Static") = .ok target ∧
        (target = .null ↔ ∀ name, ¬ Reexposes "Ianitor.Static" (staticReference "user") name) := by
  have static : IsStaticOf "Ianitor.Static" (staticReference "user") (.text "user") := by
    refine ⟨.object [("type", .text "TSTypeQuery"), ("exprName", identifierNode "user")], ?_, ?_⟩
    · exact ⟨rfl, by cbv, rfl⟩
    · exact ⟨rfl, rfl, rfl, by simp⟩
  have once : Wrapped (staticReference "user") 1 (readonlyNode (staticReference "user")) :=
    .layer .bare (readonlyNode_appliesTo (by decide))
  have twice := once.layer (readonlyNode_appliesTo (by decide))
  rcases reexposed_validators_are_recognized_exactly "Ianitor.Static" with ⟨found, layers⟩
  have hidden := layers (by decide) _ _ static
  rcases found _ static.listsArguments with ⟨target, read, _, nothing⟩
  exact ⟨static, (hidden 1 _ once).1.mpr le_rfl, (hidden 2 _ twice).2 (by decide), target, read,
    nothing⟩

end TypeGauge.Check
