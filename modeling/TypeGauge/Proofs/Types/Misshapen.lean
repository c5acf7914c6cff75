import TypeGauge.Proofs.Types.Parts
import Mathlib.Logic.Relation

/-!
# Type expressions that cannot be read

A node is misshapen when its type is no name, when it starts at no place, when what lists its
parts has none or when what an interface extends has no length.  Reading a node fails exactly
when it is misshapen.  Building a type tree reads a node and then all that it is made of: it
fails when one of these nodes is misshapen, and for no other reason than that and a nesting
that is too deep to follow.
-/

namespace TypeGauge.Types

open TypeGauge.Data TypeGauge.Syntax

variable {node part : Value} {fault : Fault}

/-! ## One node -/

/-- The value whose parts a node of a kind asks for, an empty list where there is none. -/
def listing (kind : TypeKind) (node : Value) : Value :=
  match kind with
  | .interface => listed (node.field "body") "body"
  | .typeLiteral => listed node "members"
  | .union | .intersection => listed node "types"
  | .tuple => listed node "elementTypes"
  | .reference => listed (argumentHolder node) "params"
  | .function =>
      listed node (if (node.field "params").isNull then "parameters" else "params")
  | .array | .conditional | .mapped | .rest | .optional | .primitive | .shortCircuit
  | .unknown => .list []

/-- The value whose parts are counted as what a node of a kind extends. -/
def extended (kind : TypeKind) (node : Value) : Value :=
  if kind = .interface then (node.field "extends").orElse (.list []) else .list []

/-- A node holds something that its reader cannot use, and this fault says so. -/
inductive Misshapes (node : Value) : Fault → Prop
  | type (noName : isNoName (typeOf node) = true) :
      Misshapes node (.notAName (typeOf node).kind)
  | position {fault : Fault} (mispositions : Mispositions node fault) : Misshapes node fault
  | extension {kind : TypeKind} (declared : TypeKind.ofValue (typeOf node) = .ok kind)
      (noParts : hasParts (extended kind node) = false) :
      Misshapes node (.noLength (extended kind node).kind)
  | partList {kind : TypeKind} (declared : TypeKind.ofValue (typeOf node) = .ok kind)
      (noParts : hasParts (listing kind node) = false) :
      Misshapes node (.notIterable (listing kind node).kind)

theorem ofValue_eq_error_iff {declared : Value} :
    TypeKind.ofValue declared = .error fault ↔
      isNoName declared = true ∧ fault = .notAName declared.kind := by
  constructor
  · intro refused
    rcases bind_eq_error_iff.mp refused with noName | ⟨_, _, ended⟩
    · exact requireName_eq_error_iff.mp noName
    · cases declared <;> cases ended
  · intro noName
    exact bind_eq_error_iff.mpr (.inl (requireName_eq_error_iff.mpr noName))

theorem readHead_eq_ok_iff (isObject : node.isObject = true) {kind : TypeKind}
    {source : Option Position} :
    readHead node = .ok (kind, source) ↔
      TypeKind.ofValue (typeOf node) = .ok kind ∧ positionOf node = .ok source := by
  rw [readHead, requireObject, if_pos isObject]
  simp [bind_eq_ok_iff, pure, Except.pure]

/-- The reader of a node of a kind counts what the node extends and then asks for the parts. -/
theorem exists_outline (kind : TypeKind) (isObject : node.isObject = true) :
    ∃ finish : Nat → List Value → Outline,
      outline kind node = (do
        let count ← partCount (extended kind node)
        let items ← parts (listing kind node)
        return finish count items) := by
  have under : ∀ (holder : Value) (key : String) (finish : List Value → Outline),
      (nodesUnder holder key >>= fun nodes => pure (finish nodes)) =
        (parts (listed holder key) >>= fun items =>
          pure (finish (items.filter Value.isObject))) := by
    intro holder key finish
    rw [nodesUnder, partNodes, ← listed]
    cases parts (listed holder key) <;> rfl
  cases kind with
  | interface =>
      refine ⟨fun count items => ⟨nameUnder node "id", (items.filter Value.isObject).length, count,
        ascribedTypes (items.filter Value.isObject)⟩, ?_⟩
      simp only [outline, members, if_true, ite_nodesUnder, under, listing]
      rfl
  | typeLiteral =>
      exact ⟨fun _ items => ⟨.null, (items.filter Value.isObject).length, 0,
        ascribedTypes (items.filter Value.isObject)⟩, under node "members" _⟩
  | union | intersection =>
      exact ⟨fun _ items => .ofParts (items.filter Value.isObject), under node "types" _⟩
  | tuple =>
      exact ⟨fun _ items => .ofParts (items.filter Value.isObject), under node "elementTypes" _⟩
  | reference =>
      refine ⟨fun _ items => ⟨dottedName (node.field "typeName"), 0, 0,
        items.filter Value.isObject⟩, ?_⟩
      rw [outline, typeArguments_of_isObject isObject, ite_nodesUnder]
      exact under (argumentHolder node) "params" fun nodes => ⟨_, 0, 0, nodes⟩
  | function =>
      refine ⟨fun _ items => .ofParts (ascribedTypes items ++
        nodeOnly ((node.field "returnType").field ascriptionKey)), ?_⟩
      rw [outline, parameters, listing]
      split
      · rfl
      · rename_i present
        rw [listed_eq_field (eq_false_of_ne_true present)]
        rfl
  | array | conditional | mapped | rest | optional | primitive | shortCircuit | unknown =>
      exact ⟨fun _ _ => _, rfl⟩

theorem outline_eq_error_iff {kind : TypeKind} (isObject : node.isObject = true) :
    outline kind node = .error fault ↔
      hasParts (extended kind node) = false ∧ fault = .noLength (extended kind node).kind ∨
        hasParts (extended kind node) = true ∧ hasParts (listing kind node) = false ∧
          fault = .notIterable (listing kind node).kind := by
  rcases exists_outline kind isObject with ⟨finish, outlined⟩
  simp [outlined, bind_eq_error_iff, partCount_eq_error_iff, parts_eq_error_iff,
    exists_partCount_iff, pure, Except.pure]

theorem Misshapes.of_readHead (isObject : node.isObject = true)
    (refused : readHead node = .error fault) : Misshapes node fault := by
  rw [readHead, requireObject, if_pos isObject, bind_eq_error_iff] at refused
  rcases refused with refused | ⟨_, _, refused⟩
  · cases refused
  · rcases bind_eq_error_iff.mp refused with declared | ⟨kind, _, refused⟩
    · rcases ofValue_eq_error_iff.mp declared with ⟨noName, rfl⟩
      exact .type noName
    · rcases bind_eq_error_iff.mp refused with positioned | ⟨_, _, ended⟩
      · exact .position (mispositions_of_positionOf isObject positioned)
      · cases ended

theorem Misshapes.of_outline (isObject : node.isObject = true) {kind : TypeKind}
    (declared : TypeKind.ofValue (typeOf node) = .ok kind)
    (refused : outline kind node = .error fault) : Misshapes node fault := by
  rcases (outline_eq_error_iff isObject).mp refused with ⟨noParts, rfl⟩ | ⟨_, noParts, rfl⟩
  · exact .extension declared noParts
  · exact .partList declared noParts

/-- A node is read in two steps, and fails at one of them if it is misshapen. -/
theorem Misshapes.exists_fault (isObject : node.isObject = true)
    (misshapes : Misshapes node fault) :
    (∃ other, readHead node = .error other) ∨
      ∃ kind source other, readHead node = .ok (kind, source) ∧
        outline kind node = .error other := by
  cases read : readHead node with
  | error other => exact .inl ⟨other, rfl⟩
  | ok head =>
      rcases head with ⟨kind, source⟩
      rcases (readHead_eq_ok_iff isObject).mp read with ⟨declared, positioned⟩
      refine .inr ⟨kind, source, ?_⟩
      cases misshapes with
      | type noName =>
          rw [ofValue_eq_error_iff.mpr ⟨noName, rfl⟩] at declared
          cases declared
      | position mispositions =>
          rcases mispositions.exists_fault with ⟨other, refused⟩
          rw [refused] at positioned
          cases positioned
      | extension otherDeclared noParts =>
          cases declared.symm.trans otherDeclared
          exact ⟨_, rfl, (outline_eq_error_iff isObject).mpr (.inl ⟨noParts, rfl⟩)⟩
      | partList otherDeclared noParts =>
          cases declared.symm.trans otherDeclared
          cases counted : hasParts (extended kind node) with
          | false => exact ⟨_, rfl, (outline_eq_error_iff isObject).mpr (.inl ⟨counted, rfl⟩)⟩
          | true =>
              exact ⟨_, rfl, (outline_eq_error_iff isObject).mpr (.inr ⟨counted, noParts, rfl⟩)⟩

/-! ## Whole type expressions -/

/-- The type expression of one node is made of that of another. -/
def MadeOf (node part : Value) : Prop :=
  ∃ kind found, TypeKind.ofValue (typeOf node) = .ok kind ∧ outline kind node = .ok found ∧
    part ∈ found.parts

/-- Somewhere in a type expression stands a node that cannot be read. -/
def Unreadable (node : Value) (fault : Fault) : Prop :=
  ∃ part, Relation.ReflTransGen MadeOf node part ∧ Misshapes part fault

theorem Misshapes.unreadable (misshapes : Misshapes node fault) : Unreadable node fault :=
  ⟨node, .refl, misshapes⟩

theorem Unreadable.ne_tooDeep (unreadable : Unreadable node fault) : fault ≠ .tooDeep := by
  rcases unreadable with ⟨part, _, misshapes⟩
  cases misshapes with
  | position mispositions => exact mispositions.ne_tooDeep
  | type | extension | partList => nofun

theorem Unreadable.head (made : MadeOf node part) (unreadable : Unreadable part fault) :
    Unreadable node fault := by
  rcases unreadable with ⟨inner, reached, misshapes⟩
  exact ⟨inner, .head made reached, misshapes⟩

theorem MadeOf.isObject (made : MadeOf node part) : part.isObject = true ∧ node.Holds part := by
  rcases made with ⟨kind, found, _, outlined, member⟩
  exact holds_of_mem_parts outlined member

/-- What cannot be read is not built, whatever the room is. -/
theorem Unreadable.exists_fault (unreadable : Unreadable node fault)
    (isObject : node.isObject = true) (room supply : Nat) :
    ∃ other, (outcome (buildWithin room node) supply).1 = .error other := by
  rcases unreadable with ⟨part, reached, misshapes⟩
  induction reached using Relation.ReflTransGen.head_induction_on generalizing room supply with
  | refl =>
      cases room with
      | zero => exact ⟨_, rfl⟩
      | succ room =>
          rw [outcome_buildWithin_succ]
          rcases misshapes.exists_fault isObject with
            ⟨other, refused⟩ | ⟨kind, source, other, read, refused⟩
          · rw [refused]
            exact ⟨other, rfl⟩
          · simp only [read, refused]
            exact ⟨other, rfl⟩
  | @head node next made _ hypothesis =>
      cases room with
      | zero => exact ⟨_, rfl⟩
      | succ room =>
          have partIsObject := made.isObject.1
          rcases made with ⟨kind, found, declared, outlined, member⟩
          rw [outcome_buildWithin_succ]
          cases read : readHead node with
          | error other => exact ⟨other, rfl⟩
          | ok head =>
              rcases head with ⟨otherKind, source⟩
              cases declared.symm.trans ((readHead_eq_ok_iff isObject).mp read).1
              rcases exists_fault_of_mem_items member (hypothesis partIsObject room)
                (supply + 1) with ⟨other, failed⟩
              simp only [outlined]
              rcases ran : outcome (found.parts.mapM (buildWithin room)) (supply + 1) with
                ⟨result, next⟩
              rw [ran] at failed
              cases failed
              exact ⟨other, rfl⟩

/-- A tree is built unless the node is nested too deep or cannot be read. -/
theorem faults_of_buildWithin
    (room : Nat) {node : Value} (isObject : node.isObject = true) (supply : Nat) :
    FaultsOnly (fun fault => fault = .tooDeep ∧ room < node.nesting ∨ Unreadable node fault)
      (outcome (buildWithin room node) supply).1 := by
  induction room generalizing node supply with
  | zero => exact .error (.inl ⟨rfl, Value.nesting_pos isObject⟩)
  | succ room hypothesis =>
      rw [outcome_buildWithin_succ]
      cases read : readHead node with
      | error fault =>
          have misshapes : Misshapes node fault := .of_readHead isObject read
          exact .error (Or.inr misshapes.unreadable)
      | ok head =>
          rcases head with ⟨kind, source⟩
          have declared := ((readHead_eq_ok_iff isObject).mp read).1
          cases outlined : outline kind node with
          | error fault =>
              have misshapes : Misshapes node fault := .of_outline isObject declared outlined
              simp only [outlined]
              exact .error (Or.inr misshapes.unreadable)
          | ok found =>
              have parts : FaultsOnly
                  (fun fault => fault = .tooDeep ∧ room + 1 < node.nesting ∨ Unreadable node fault)
                  (outcome (found.parts.mapM (buildWithin room)) (supply + 1)).1 := by
                apply FaultsOnly.outcome_mapM
                intro part member state
                have made : MadeOf node part := ⟨kind, found, declared, outlined, member⟩
                refine (hypothesis made.isObject.1 state).imp ?_
                rintro fault (⟨tooDeep, deep⟩ | unreadable)
                · have shallower := made.isObject.2.nesting_lt
                  exact .inl ⟨tooDeep, by omega⟩
                · exact .inr (unreadable.head made)
              simp only [outlined]
              rcases ran : outcome (found.parts.mapM (buildWithin room)) (supply + 1) with
                ⟨result, next⟩
              rw [ran] at parts
              cases result with
              | error fault => exact .error (parts fault rfl)
              | ok children => exact .ok _

end TypeGauge.Types
