import TypeGauge.Proofs.Outcome
import TypeGauge.Types.Build
import TypeGauge.Types.Graph

/-!
# Numbering of type trees

Building a type tree numbers its nodes in pre-order with the numbers that follow
the supply, and leaves the supply right behind them.  So the identities of a tree
are distinct, and trees that are built one after the other have no identity in
common.  The supply decides nothing else: from another supply the same node gives
the same tree with all identities shifted, or the same fault.
-/

namespace TypeGauge.Types

open TypeGauge.Data TypeGauge.Syntax

/-! ## What building a node does -/

theorem buildAll_eq_mapM (buildOne : Value → BuildM TypeTree) (parts : List Value) :
    buildAll buildOne parts = parts.mapM buildOne := by
  induction parts with
  | nil => rfl
  | cons part rest hypothesis => simp [buildAll, hypothesis, List.mapM_cons]

@[simp]
theorem outcome_fresh (supply : Nat) : outcome fresh supply = (.ok supply, supply + 1) :=
  rfl

/-- What is read of a node before it is numbered: its kind and its position. -/
def readHead (node : Value) : Except Fault (TypeKind × Option Position) := do
  requireObject node
  let kind ← TypeKind.ofValue (typeOf node)
  let source ← positionOf node
  return (kind, source)

/-- The root of the tree that a node becomes. -/
def headOf (node : Value) (identity : Nat) (kind : TypeKind) (source : Option Position)
    (found : Outline) : TypeHead :=
  ⟨identity, kind, found.name, found.memberCount, found.extendsCount, source, typeOf node⟩

/-- What building a node does, in every case. -/
theorem outcome_buildWithin_succ (room : Nat) (node : Value) (supply : Nat) :
    outcome (buildWithin (room + 1) node) supply =
      match readHead node with
      | .error fault => (.error fault, supply)
      | .ok (kind, source) =>
          match outline kind node with
          | .error fault => (.error fault, supply + 1)
          | .ok found =>
              match outcome (found.parts.mapM (buildWithin room)) (supply + 1) with
              | (.error fault, next) => (.error fault, next)
              | (.ok children, next) =>
                  (.ok (.node (headOf node supply kind source found) children), next) := by
  rw [buildWithin, readHead]
  simp only [outcome_bind, outcome_liftM, buildAll_eq_mapM]
  cases requireObject node with
  | error fault => rfl
  | ok isObject =>
      cases TypeKind.ofValue (typeOf node) with
      | error fault => rfl
      | ok kind =>
          cases positionOf node with
          | error fault => rfl
          | ok source =>
              simp only [outcome_fresh, bind, Except.bind, pure, Except.pure]
              cases outline kind node with
              | error fault => rfl
              | ok found =>
                  simp only
                  rcases outcome (found.parts.mapM (buildWithin room)) (supply + 1) with
                    ⟨result, next⟩
                  cases result with
                  | error fault => rfl
                  | ok children => rfl

/-- A tree that is built is a numbered root over the trees of the node's parts. -/
theorem exists_parts_of_buildWithin
    {room : Nat} {node : Value} {supply next : Nat} {tree : TypeTree}
    (built : outcome (buildWithin (room + 1) node) supply = (.ok tree, next)) :
    ∃ kind source found children,
      outcome (found.parts.mapM (buildWithin room)) (supply + 1) = (.ok children, next) ∧
        tree = .node (headOf node supply kind source found) children := by
  rw [outcome_buildWithin_succ] at built
  cases read : readHead node with
  | error fault => simp [read] at built
  | ok facts =>
      rcases facts with ⟨kind, source⟩
      simp only [read] at built
      cases outlined : outline kind node with
      | error fault => simp [outlined] at built
      | ok found =>
          simp only [outlined] at built
          rcases ran : outcome (found.parts.mapM (buildWithin room)) (supply + 1) with
            ⟨result, last⟩
          rw [ran] at built
          cases result with
          | error fault => simp at built
          | ok children =>
              simp only [Prod.mk.injEq, Except.ok.injEq] at built
              rcases built with ⟨rfl, rfl⟩
              exact ⟨kind, source, found, children, ran, rfl⟩

/-- A tree that is built is of the kind that its node declares. -/
theorem kind_of_buildWithin
    {room : Nat} {node : Value} {supply next : Nat} {tree : TypeTree}
    (built : outcome (buildWithin room node) supply = (.ok tree, next)) :
    TypeKind.ofValue (typeOf node) = .ok tree.head.kind := by
  cases room with
  | zero => cases built
  | succ room =>
      rw [outcome_buildWithin_succ] at built
      split at built
      · cases built
      · rename_i kind source read
        rw [readHead, bind_eq_ok_iff] at read
        rcases read with ⟨_, _, read⟩
        rw [bind_eq_ok_iff] at read
        rcases read with ⟨declared, kindRead, read⟩
        rw [bind_eq_ok_iff] at read
        rcases read with ⟨_, _, ended⟩
        cases ended
        split at built
        · cases built
        · split at built <;> cases built
          exact kindRead

/-! ## Identities in pre-order -/

/-- The identities of trees that are built in turn follow the supply. -/
theorem preorderAll_of_mapM
    {room : Nat}
    (single : ∀ (node : Value) (supply next : Nat) (tree : TypeTree),
      outcome (buildWithin room node) supply = (.ok tree, next) →
        tree.preorder.map TypeHead.identity = List.range' supply tree.size ∧
          next = supply + tree.size)
    {parts : List Value} {supply next : Nat} {trees : List TypeTree}
    (built : outcome (parts.mapM (buildWithin room)) supply = (.ok trees, next)) :
    (TypeTree.preorderAll trees).map TypeHead.identity =
        List.range' supply (TypeTree.sizeAll trees) ∧
      next = supply + TypeTree.sizeAll trees := by
  induction parts generalizing supply trees with
  | nil =>
      simp only [List.mapM_nil, outcome_pure, Prod.mk.injEq, Except.ok.injEq] at built
      rcases built with ⟨rfl, rfl⟩
      simp [TypeTree.preorderAll, TypeTree.sizeAll]
  | cons part rest hypothesis =>
      rcases outcome_mapM_cons_eq_ok_iff.mp built with
        ⟨tree, between, others, headBuilt, restBuilt, rfl⟩
      rcases single part supply between tree headBuilt with ⟨headNumbers, rfl⟩
      rcases hypothesis restBuilt with ⟨restNumbers, rfl⟩
      simp only [TypeTree.preorderAll, TypeTree.sizeAll, List.map_append, headNumbers,
        restNumbers]
      exact ⟨by rw [List.range'_append_1], by omega⟩

/-- Building numbers the nodes of a tree in pre-order from the supply on. -/
theorem preorder_of_buildWithin
    {room : Nat} {node : Value} {supply next : Nat} {tree : TypeTree}
    (built : outcome (buildWithin room node) supply = (.ok tree, next)) :
    tree.preorder.map TypeHead.identity = List.range' supply tree.size ∧
      next = supply + tree.size := by
  induction room generalizing node supply next tree with
  | zero => simp [buildWithin] at built
  | succ room hypothesis =>
      rcases exists_parts_of_buildWithin built with
        ⟨kind, source, found, children, partsBuilt, rfl⟩
      rcases preorderAll_of_mapM (fun _ _ _ _ single => hypothesis single) partsBuilt with
        ⟨numbers, rfl⟩
      simp only [TypeTree.preorder, TypeTree.size, List.map_cons, numbers, headOf]
      exact ⟨by rw [List.range'_succ], by omega⟩

/-! ## Shifted identities -/

mutual

/-- The same tree with every identity shifted. -/
def TypeTree.shift (offset : Nat) : TypeTree → TypeTree
  | .node head children =>
      .node { head with identity := head.identity + offset } (TypeTree.shiftAll offset children)

/-- The same trees with every identity shifted. -/
def TypeTree.shiftAll (offset : Nat) : List TypeTree → List TypeTree
  | [] => []
  | tree :: rest => tree.shift offset :: TypeTree.shiftAll offset rest

end

/-- Trees that are built in turn from a shifted supply are shifted. -/
theorem outcome_mapM_shift
    {room : Nat} (offset : Nat)
    (single : ∀ (node : Value) (supply : Nat),
      outcome (buildWithin room node) (supply + offset) =
        ((outcome (buildWithin room node) supply).1.map (TypeTree.shift offset),
          (outcome (buildWithin room node) supply).2 + offset))
    (parts : List Value) (supply : Nat) :
    outcome (parts.mapM (buildWithin room)) (supply + offset) =
      ((outcome (parts.mapM (buildWithin room)) supply).1.map (TypeTree.shiftAll offset),
        (outcome (parts.mapM (buildWithin room)) supply).2 + offset) := by
  induction parts generalizing supply with
  | nil => rfl
  | cons part rest hypothesis =>
      simp only [List.mapM_cons, outcome_bind, single]
      rcases outcome (buildWithin room part) supply with ⟨result, between⟩
      cases result with
      | error fault => rfl
      | ok tree =>
          simp only [Except.map, hypothesis]
          rcases outcome (rest.mapM (buildWithin room)) between with ⟨others, next⟩
          cases others with
          | error fault => rfl
          | ok trees => rfl

/-- From a shifted supply a node gives the shifted tree, or the same fault. -/
theorem outcome_buildWithin_shift (room offset : Nat) (node : Value) (supply : Nat) :
    outcome (buildWithin room node) (supply + offset) =
      ((outcome (buildWithin room node) supply).1.map (TypeTree.shift offset),
        (outcome (buildWithin room node) supply).2 + offset) := by
  induction room generalizing node supply with
  | zero => rfl
  | succ room hypothesis =>
      simp only [outcome_buildWithin_succ]
      cases readHead node with
      | error fault => rfl
      | ok facts =>
          rcases facts with ⟨kind, source⟩
          simp only
          cases outline kind node with
          | error fault =>
              simp only [Except.map, Prod.mk.injEq, true_and]
              omega
          | ok found =>
              have shifted := outcome_mapM_shift offset hypothesis found.parts (supply + 1)
              rw [Nat.add_right_comm] at shifted
              simp only [shifted]
              rcases outcome (found.parts.mapM (buildWithin room)) (supply + 1) with
                ⟨result, next⟩
              cases result with
              | error fault => rfl
              | ok children => rfl

/-- The tree of a node is the one that is built from nought, shifted by the supply. -/
theorem outcome_build (node : Value) (supply : Nat) :
    outcome (build node) supply =
      ((outcome (build node) 0).1.map (TypeTree.shift supply),
        (outcome (build node) 0).2 + supply) := by
  have shifted := outcome_buildWithin_shift Nesting.typeRoom supply node 0
  rwa [Nat.zero_add] at shifted

end TypeGauge.Types
