import TypeGauge.Proofs.Syntax.Transparency

/-!
# Entity names and their leaves

An entity name is a tree of qualified names over identifiers.  Many trees have the same names
at their leaves, and the dotted form does not tell them apart: it is the names from left to
right with dots between them, however the tree is nested.

Any value at all is the root of a tree of qualified names, if only of one leaf.  It has no
dotted form exactly when one of the leaves, wherever it stands, is no identifier with a name.
-/

namespace TypeGauge.Syntax

open TypeGauge.Data

/-! ## Entity names -/

/-- An identifier, or one entity name qualified by another. -/
inductive EntityName where
  | identifier (name : String)
  | qualified (left right : EntityName)

namespace EntityName

/-- The names at the leaves, from left to right. -/
def leaves : EntityName → List String
  | .identifier name => [name]
  | .qualified left right => left.leaves ++ right.leaves

/-- The entity name that takes one part after the other, so that it is nested to the left. -/
def leftNested (first : String) (rest : List String) : EntityName :=
  rest.foldl (fun inside part => .qualified inside (.identifier part)) (.identifier first)

/-- The plain spelling, whose nodes carry nothing else. -/
def node : EntityName → Value
  | .identifier name => .object [("type", .text "Identifier"), ("name", .text name)]
  | .qualified left right =>
      .object
        [("type", .text "TSQualifiedName"), ("left", left.node), ("right", right.node)]

theorem leaves_ne_nil (entity : EntityName) : entity.leaves ≠ [] := by
  induction entity with
  | identifier name => exact List.cons_ne_nil name []
  | qualified left right leftSome _ => exact List.append_ne_nil_of_left_ne_nil leftSome _

/-- Parts that are taken on the right come last among the leaves. -/
theorem leaves_foldl (parts : List String) (inside : EntityName) :
    (parts.foldl (fun inside part => .qualified inside (.identifier part)) inside).leaves =
      inside.leaves ++ parts := by
  induction parts generalizing inside with
  | nil => exact (List.append_nil _).symm
  | cons part rest hypothesis =>
      rw [List.foldl_cons, hypothesis, leaves, leaves, List.append_assoc, List.singleton_append]

@[simp]
theorem leaves_leftNested (first : String) (rest : List String) :
    (leftNested first rest).leaves = first :: rest :=
  leaves_foldl rest (.identifier first)

end EntityName

/-! ## Trees of qualified names in documents -/

/-- An identifier, with what stands there for its name. -/
structure Identifies (leaf name : Value) : Prop where
  isIdentifier : isNodeOf leaf "Identifier" = true
  named : leaf.field "name" = name

/-- A value spells an entity name, whatever else its nodes carry. -/
inductive Spells : Value → EntityName → Prop where
  | identifier {node : Value} {name : String} (identifies : Identifies node (.text name)) :
      Spells node (.identifier name)
  | qualified {node : Value} {left right : EntityName}
      (isQualified : isNodeOf node "TSQualifiedName" = true)
      (before : Spells (node.field "left") left) (after : Spells (node.field "right") right) :
      Spells node (.qualified left right)

theorem spells_node (entity : EntityName) : Spells entity.node entity := by
  induction entity with
  | identifier name => exact .identifier ⟨rfl, rfl⟩
  | qualified left right before after => exact .qualified rfl before after

/-- The leaves of the tree of qualified names of which a value is the root. -/
inductive HasLeaf : Value → Value → Prop where
  | here {node : Value} (isLeaf : isNodeOf node "TSQualifiedName" = false) : HasLeaf node node
  | left {node leaf : Value} (isQualified : isNodeOf node "TSQualifiedName" = true)
      (inside : HasLeaf (node.field "left") leaf) : HasLeaf node leaf
  | right {node leaf : Value} (isQualified : isNodeOf node "TSQualifiedName" = true)
      (inside : HasLeaf (node.field "right") leaf) : HasLeaf node leaf

theorem hasLeaf_iff_of_leaf {node leaf : Value}
    (isLeaf : isNodeOf node "TSQualifiedName" = false) : HasLeaf node leaf ↔ leaf = node := by
  constructor
  · rintro (_ | ⟨isQualified, _⟩ | ⟨isQualified, _⟩)
    · rfl
    · simp [isLeaf] at isQualified
    · simp [isLeaf] at isQualified
  · rintro rfl
    exact .here isLeaf

theorem hasLeaf_iff_of_qualified {node leaf : Value}
    (isQualified : isNodeOf node "TSQualifiedName" = true) :
    HasLeaf node leaf ↔
      HasLeaf (node.field "left") leaf ∨ HasLeaf (node.field "right") leaf := by
  constructor
  · rintro (isLeaf | ⟨_, inside⟩ | ⟨_, inside⟩)
    · simp [isQualified] at isLeaf
    · exact .inl inside
    · exact .inr inside
  · rintro (inside | inside)
    · exact .left isQualified inside
    · exact .right isQualified inside

theorem Identifies.isLeaf {leaf name : Value} (identifies : Identifies leaf name) :
    isNodeOf leaf "TSQualifiedName" = false :=
  isLeaf_of_isIdentifier identifies.isIdentifier

/-- A leaf spells an entity name exactly when it is an identifier with a text for its name. -/
theorem exists_spells_iff_of_leaf {node : Value}
    (isLeaf : isNodeOf node "TSQualifiedName" = false) :
    (∃ entity, Spells node entity) ↔ ∃ name, Identifies node (.text name) := by
  constructor
  · rintro ⟨_, identifies | ⟨isQualified, _, _⟩⟩
    · exact ⟨_, identifies⟩
    · simp [isLeaf] at isQualified
  · rintro ⟨name, identifies⟩
    exact ⟨.identifier name, .identifier identifies⟩

theorem exists_spells_iff_of_qualified {node : Value}
    (isQualified : isNodeOf node "TSQualifiedName" = true) :
    (∃ entity, Spells node entity) ↔
      (∃ entity, Spells (node.field "left") entity) ∧
        ∃ entity, Spells (node.field "right") entity := by
  constructor
  · rintro ⟨_, identifies | ⟨_, before, after⟩⟩
    · simp [identifies.isLeaf] at isQualified
    · exact ⟨⟨_, before⟩, _, after⟩
  · rintro ⟨⟨left, before⟩, right, after⟩
    exact ⟨.qualified left right, .qualified isQualified before after⟩

/-- The values that spell entity names are told by their leaves. -/
theorem exists_spells_iff (node : Value) :
    (∃ entity, Spells node entity) ↔
      ∀ leaf, HasLeaf node leaf → ∃ name, Identifies leaf (.text name) := by
  induction node using nameInduction with
  | leaf node isLeaf =>
      simp only [exists_spells_iff_of_leaf isLeaf, hasLeaf_iff_of_leaf isLeaf, forall_eq]
  | qualified node isQualified left right =>
      simp only [exists_spells_iff_of_qualified isQualified,
        hasLeaf_iff_of_qualified isQualified, left, right, or_imp, forall_and]

/-! ## Dotted forms -/

theorem joinNames_text (left right : String) :
    joinNames (.text left) (.text right) = .text (left ++ "." ++ right) :=
  rfl

theorem joinNames_eq_null_iff {left right : Value} :
    joinNames left right = .null ↔ left = .null ∨ right = .null := by
  cases left <;> cases right <;> simp [joinNames, Value.isNull]

/-- The dotted form of an entity name is its leaves with dots between them. -/
theorem Spells.dottedName {node : Value} {entity : EntityName} (spells : Spells node entity) :
    dottedName node = .text (".".intercalate entity.leaves) := by
  induction spells with
  | identifier identifies =>
      rw [dottedName_of_leaf identifies.isLeaf, if_pos identifies.isIdentifier, identifies.named,
        EntityName.leaves, String.intercalate_singleton]
  | @qualified node left right isQualified _ _ before after =>
      rw [dottedName_of_qualified isQualified, before, after, joinNames_text, EntityName.leaves,
        String.intercalate_append_of_ne_nil left.leaves_ne_nil right.leaves_ne_nil]

/-- One leaf without a name takes the dotted form away from the whole. -/
theorem dottedName_eq_null_iff (node : Value) :
    dottedName node = .null ↔
      ∃ leaf, HasLeaf node leaf ∧ ¬ ∃ name, name ≠ .null ∧ Identifies leaf name := by
  induction node using nameInduction with
  | leaf node isLeaf =>
      simp only [hasLeaf_iff_of_leaf isLeaf, exists_eq_left]
      rw [dottedName_of_leaf isLeaf]
      split
      · rename_i isIdentifier
        constructor
        · rintro unnamed ⟨name, notNull, identifies⟩
          exact notNull (identifies.named.symm.trans unnamed)
        · intro unnamed
          by_contra notNull
          exact unnamed ⟨_, notNull, isIdentifier, rfl⟩
      · rename_i noIdentifier
        refine iff_of_true rfl ?_
        rintro ⟨name, _, identifies⟩
        exact noIdentifier identifies.isIdentifier
  | qualified node isQualified left right =>
      simp only [dottedName_of_qualified isQualified, joinNames_eq_null_iff, left, right,
        hasLeaf_iff_of_qualified isQualified, or_and_right, exists_or]

/--
An entity name is rendered as its leaves with dots between them, however it is nested.  Every
entity name has a spelling, and the values that spell one are those whose leaves are all
identifiers with texts for names.  A value has no dotted form exactly when one of its leaves is
no identifier with a name.
-/
theorem entity_names_are_rendered_by_their_leaves :
    (∀ node entity, Spells node entity →
      dottedName node = .text (".".intercalate entity.leaves)) ∧
    (∀ node other entity otherEntity, Spells node entity → Spells other otherEntity →
      entity.leaves = otherEntity.leaves → dottedName node = dottedName other) ∧
    (∀ node first rest, Spells node (.leftNested first rest) →
      dottedName node = .text (".".intercalate (first :: rest))) ∧
    (∀ entity : EntityName, Spells entity.node entity) ∧
    (∀ node, (∃ entity, Spells node entity) ↔
      ∀ leaf, HasLeaf node leaf → ∃ name, Identifies leaf (.text name)) ∧
    (∀ node, dottedName node = .null ↔
      ∃ leaf, HasLeaf node leaf ∧ ¬ ∃ name, name ≠ .null ∧ Identifies leaf name) := by
  refine ⟨fun _ _ spells => spells.dottedName, ?_, ?_, spells_node, exists_spells_iff,
    dottedName_eq_null_iff⟩
  · intro node other entity otherEntity spells otherSpells sameLeaves
    rw [spells.dottedName, otherSpells.dottedName, sameLeaves]
  · intro node first rest spells
    rw [spells.dottedName, EntityName.leaves_leftNested]

/-- A name that is nested to the right, with its sides in the other order and a note on it. -/
def rightNestedName : Value :=
  .object
    [("right", (EntityName.leftNested "Schema" ["Static"]).node), ("range", .list []),
      ("type", .text "TSQualifiedName"), ("left", (EntityName.identifier "Ianitor").node)]

/-- A name with an identifier at its last leaf that has no name. -/
def unfinishedName : Value :=
  .object
    [("type", .text "TSQualifiedName"), ("left", rightNestedName),
      ("right", .object [("type", .text "Identifier"), ("name", .null)])]

theorem rightNestedName_is_rendered_like_leftNested :
    Spells rightNestedName
        (.qualified (.identifier "Ianitor")
          (.qualified (.identifier "Schema") (.identifier "Static"))) ∧
      dottedName rightNestedName = .text "Ianitor.Schema.Static" ∧
      dottedName rightNestedName =
        dottedName (EntityName.leftNested "Ianitor" ["Schema", "Static"]).node ∧
      dottedName (EntityName.leftNested "Ianitor" ["Schema", "Static"]).node =
        .text "Ianitor.Schema.Static" ∧
      dottedName unfinishedName = .null ∧
      ¬ ∃ entity, Spells unfinishedName entity := by
  rcases entity_names_are_rendered_by_their_leaves with
    ⟨rendered, alike, leftNested, spelled, spells_iff, null_iff⟩
  have spells : Spells rightNestedName
      (.qualified (.identifier "Ianitor")
        (.qualified (.identifier "Schema") (.identifier "Static"))) :=
    .qualified rfl (spelled _) (spelled _)
  have joined : ".".intercalate ["Ianitor", "Schema", "Static"] = "Ianitor.Schema.Static" := by
    decide
  have unnamed : HasLeaf unfinishedName (.object [("type", .text "Identifier"), ("name", .null)]) :=
    .right rfl (.here rfl)
  refine ⟨spells, ?_, alike _ _ _ _ spells (spelled _) rfl, ?_, ?_, ?_⟩
  · rw [← joined]
    exact rendered _ _ spells
  · rw [← joined]
    exact leftNested _ _ _ (spelled _)
  · refine (null_iff unfinishedName).mpr ⟨_, unnamed, ?_⟩
    rintro ⟨name, notNull, identifies⟩
    exact notNull identifies.named.symm
  · rw [spells_iff]
    intro named
    rcases named _ unnamed with ⟨name, identifies⟩
    cases identifies.named

end TypeGauge.Syntax
