import TypeGauge.Proofs.Syntax.WellFormed
import TypeGauge.Proofs.Types.Numbering

/-!
# What type expressions are made of

What a type expression is made of stands in the node of the type expression, so it is
nested less deep.
-/

namespace TypeGauge.Types

open TypeGauge.Data TypeGauge.Syntax

theorem holds_of_mem_nodesAt {node part : Value} {keys : List String}
    (member : part ∈ nodesAt node keys) : part.isObject = true ∧ node.Holds part := by
  rw [nodesAt, List.mem_flatMap] at member
  rcases member with ⟨key, _, member⟩
  rcases mem_nodeOnly_iff.mp member with ⟨rfl, isObject⟩
  exact ⟨isObject, Value.holds_field isObject .here⟩

/-- An object that is found two fields deep is held by the value itself. -/
theorem holds_field_field {node : Value} {outer inner : String}
    (isObject : ((node.field outer).field inner).isObject = true) :
    node.Holds ((node.field outer).field inner) :=
  Value.holds_field isObject (Value.holds_field isObject .here).contains

theorem contains_of_mem_ascribedTypes {holders : List Value} {part : Value}
    (member : part ∈ ascribedTypes holders) :
    part.isObject = true ∧ ∃ holder ∈ holders, holder.Contains part := by
  rw [ascribedTypes, List.mem_flatMap] at member
  rcases member with ⟨holder, holderMember, member⟩
  rcases mem_nodeOnly_iff.mp member with ⟨rfl, isObject⟩
  refine ⟨isObject, holder, holderMember, ?_⟩
  rw [ascribedType] at isObject ⊢
  split at isObject
  · rename_i inner
    rw [if_pos inner]
    exact (holds_field_field inner).contains
  · cases isObject

theorem holds_of_mem_members
    {kind : TypeKind} {node holder : Value} {found : List Value}
    (read : members kind node = .ok found) (member : holder ∈ found) : node.Holds holder := by
  rw [members] at read
  split at read
  · simp only at read
    split at read
    · rcases holds_of_mem_nodesUnder read member with ⟨isObject, held⟩
      exact Value.holds_field isObject held.contains
    · cases read
      cases member
  · exact (holds_of_mem_nodesUnder read member).2

/-- What the members of a node ascribe stands in the node. -/
theorem holds_of_mem_ascribed_members
    {kind : TypeKind} {node part : Value} {found : List Value}
    (read : members kind node = .ok found) (member : part ∈ ascribedTypes found) :
    part.isObject = true ∧ node.Holds part := by
  rcases contains_of_mem_ascribedTypes member with ⟨isObject, holder, holderMember, inside⟩
  exact ⟨isObject, (holds_of_mem_members read holderMember).trans inside⟩

/-- What the parameters of a node ascribe stands in the node. -/
theorem holds_of_mem_ascribed_parameters
    {node part : Value} {holders : List Value}
    (read : parameters node = .ok holders) (member : part ∈ ascribedTypes holders) :
    part.isObject = true ∧ node.Holds part := by
  rcases contains_of_mem_ascribedTypes member with ⟨isObject, holder, holderMember, inside⟩
  refine ⟨isObject, ?_⟩
  rw [parameters] at read
  split at read
  · cases found : node.field? "parameters" with
    | none =>
        rw [found] at read
        cases read
        cases holderMember
    | some value =>
        rw [found] at read
        exact (Value.holds_of_field? found).trans
          (contains_of_mem_parts read holderMember isObject inside)
  · exact Value.holds_field isObject (contains_of_mem_parts read holderMember isObject inside)

theorem holds_of_mem_mappedConstraint {node part : Value}
    (member : part ∈ nodeOnly (mappedConstraint node)) :
    part.isObject = true ∧ node.Holds part := by
  rcases mem_nodeOnly_iff.mp member with ⟨rfl, isObject⟩
  refine ⟨isObject, ?_⟩
  rw [mappedConstraint, Value.orElse] at isObject ⊢
  split at isObject
  · rename_i present
    rw [if_pos present]
    exact holds_field_field isObject
  · rename_i absent
    rw [if_neg absent]
    exact Value.holds_field isObject .here

/-- The parts of a type expression are nodes that its own node holds. -/
theorem holds_of_mem_parts
    {kind : TypeKind} {node part : Value} {found : Outline}
    (outlined : outline kind node = .ok found) (member : part ∈ found.parts) :
    part.isObject = true ∧ node.Holds part := by
  cases kind with
  | interface =>
      rw [outline, bind_eq_ok_iff] at outlined
      rcases outlined with ⟨extended, _, continued⟩
      rw [bind_eq_ok_iff] at continued
      rcases continued with ⟨holders, read, ended⟩
      cases ended
      exact holds_of_mem_ascribed_members read member
  | typeLiteral =>
      rw [outline, bind_eq_ok_iff] at outlined
      rcases outlined with ⟨holders, read, ended⟩
      cases ended
      exact holds_of_mem_ascribed_members read member
  | union | intersection | tuple =>
      simp only [outline] at outlined
      rw [bind_eq_ok_iff] at outlined
      rcases outlined with ⟨nodes, read, ended⟩
      cases ended
      exact holds_of_mem_nodesUnder read member
  | reference =>
      rw [outline, bind_eq_ok_iff] at outlined
      rcases outlined with ⟨arguments, read, ended⟩
      cases ended
      exact holds_of_mem_typeArguments read member
  | mapped =>
      cases outlined
      rcases List.mem_append.mp member with constraint | inside
      · exact holds_of_mem_mappedConstraint constraint
      · exact holds_of_mem_nodesAt inside
  | function =>
      rw [outline, bind_eq_ok_iff] at outlined
      rcases outlined with ⟨holders, read, ended⟩
      cases ended
      rcases List.mem_append.mp member with parameter | result
      · exact holds_of_mem_ascribed_parameters read parameter
      · rcases mem_nodeOnly_iff.mp result with ⟨rfl, isObject⟩
        exact ⟨isObject, holds_field_field isObject⟩
  | array | conditional | rest | optional =>
      cases outlined
      exact holds_of_mem_nodesAt member
  | primitive | shortCircuit | unknown =>
      cases outlined
      cases member

end TypeGauge.Types
