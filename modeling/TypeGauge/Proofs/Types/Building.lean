import TypeGauge.Proofs.Types.Misshapen

/-!
# Building type trees of well-formed nodes

No well-formed node is misshapen, and neither is what it is made of.  Hence the only thing
that can go wrong when the tree of a well-formed node is built is that the node is nested
deeper than there is room for.
-/

namespace TypeGauge.Types

open TypeGauge.Data TypeGauge.Syntax

variable {node part : Value} {fault : Fault}

/-- Only interface declarations are of the kind of interfaces. -/
theorem isNodeOf_of_ofValue (isObject : node.isObject = true)
    (read : TypeKind.ofValue (typeOf node) = .ok .interface) :
    isNodeOf node "TSInterfaceDeclaration" = true := by
  rw [isNodeOf, isObject, Bool.true_and]
  cases declared : typeOf node with
  | text content =>
      rw [declared] at read
      have same : TypeKind.ofTypeName content = .interface := Except.ok.inj read
      unfold TypeKind.ofTypeName at same
      split at same <;> first | rfl | cases same
  | _ =>
      rw [declared] at read
      cases read

theorem hasParts_extended {kind : TypeKind} (orderly : Orderly node) :
    hasParts (extended kind node) = true := by
  rw [extended]
  split
  · rcases exists_list_orElse (orderly.list "extends" (by decide)) with ⟨items, found⟩
    rw [found]
    rfl
  · rfl

theorem hasParts_listing {kind : TypeKind} (orderly : Orderly node)
    (interface : kind = .interface → isNodeOf node "TSInterfaceDeclaration" = true) :
    hasParts (listing kind node) = true := by
  cases kind with
  | interface => exact hasParts_listed (orderly.members (interface rfl))
  | typeLiteral | union | intersection | tuple =>
      exact hasParts_listed (orderly.list _ (by decide))
  | reference =>
      apply hasParts_listed
      rw [argumentHolder, Value.orElse]
      split
      · exact (orderly.field _).list _ (by decide)
      · exact (orderly.field _).list _ (by decide)
  | function =>
      rw [listing]
      split
      · exact hasParts_listed (orderly.list "parameters" (by decide))
      · exact hasParts_listed (orderly.list "params" (by decide))
  | array | conditional | mapped | rest | optional | primitive | shortCircuit | unknown => rfl

/-- A well-formed node can be read. -/
theorem not_misshapes (isObject : node.isObject = true) (orderly : Orderly node) :
    ¬ Misshapes node fault := by
  intro misshapes
  cases misshapes with
  | type noName =>
      rcases null_or_text orderly.type with isNull | ⟨content, isText⟩
      · rw [typeOf, isNull] at noName
        cases noName
      · rw [typeOf, isText] at noName
        cases noName
  | position mispositions => exact not_mispositions orderly mispositions
  | extension declared noParts =>
      rw [hasParts_extended orderly] at noParts
      cases noParts
  | partList declared noParts =>
      rw [hasParts_listing orderly] at noParts
      · cases noParts
      · rintro rfl
        exact isNodeOf_of_ofValue isObject declared

/-- What a well-formed node is made of is well-formed. -/
theorem MadeOf.orderly (made : MadeOf node part) (orderly : Orderly node) : Orderly part :=
  orderly.inside made.isObject.2.contains

/-- A well-formed type expression can be read. -/
theorem not_unreadable (isObject : node.isObject = true) (orderly : Orderly node) :
    ¬ Unreadable node fault := by
  rintro ⟨part, reached, misshapes⟩
  induction reached using Relation.ReflTransGen.head_induction_on with
  | refl => exact not_misshapes isObject orderly misshapes
  | head made _ hypothesis => exact hypothesis made.isObject.1 (made.orderly orderly)

/-- The tree of a well-formed node is built unless the node is nested deeper than the room. -/
theorem buildWithin_faults
    (room : Nat) {node : Value} (isObject : node.isObject = true) (orderly : Orderly node)
    (supply : Nat) :
    FaultsOnly (fun fault => fault = .tooDeep ∧ room < node.nesting)
      (outcome (buildWithin room node) supply).1 := by
  refine (faults_of_buildWithin room isObject supply).imp ?_
  rintro fault (deep | unreadable)
  · exact deep
  · exact absurd unreadable (not_unreadable isObject orderly)

end TypeGauge.Types
