import TypeGauge.Number.Binary
import TypeGauge.Proofs.Data.Inside
import TypeGauge.Proofs.Syntax.Refusals

/-!
# Well-formed programs

The readers of a syntax tree work on any value and refuse what they cannot use.  A
program is well formed when no reader has a reason to: types and the names of
identifiers are texts, the keys for several parts hold lists of a sensible length, and
positions are whole numbers, in every object of the program.  A field may always be
missing, and a value that is no object has no fields to speak of.

So a reader finds in a well-formed node what it asks for.
-/

namespace TypeGauge.Syntax

open TypeGauge.Data

/-! ## The conditions -/

/-- Whether a field, if it is there, holds a value of the given sort. -/
def holdsOnly (node : Value) (key : String) (kind : Kind) : Bool :=
  (node.field? key).all fun value => value.kind == kind

/-- The keys that hold several parts. -/
def listKeys : List String :=
  ["types", "elementTypes", "members", "params", "parameters", "arguments", "properties",
    "extends"]

/-- Lists are shorter than this. -/
def lengthLimit : Nat :=
  Number.Binary.twoTo 60

/-- Whether a value is no list or a list of a sensible length. -/
def isShort : Value → Bool
  | .list items => items.length < lengthLimit
  | _ => true

/-- Whether the fields of a node hold what their readers want. -/
def hasOrderlyFields (node : Value) : Bool :=
  let start := (node.field "loc").field "start"
  holdsOnly node "type" .text &&
    listKeys.all (fun key => holdsOnly node key .list) &&
    (!isNodeOf node "TSInterfaceDeclaration" || holdsOnly (node.field "body") "body" .list) &&
    (!isNodeOf node "Identifier" || holdsOnly node "name" .text) &&
    holdsOnly start "line" .whole && holdsOnly start "column" .whole

/-- A value in which every list is short and every object has orderly fields. -/
def Orderly (value : Value) : Prop :=
  value.everywhere (fun part => isShort part && hasOrderlyFields part) = true

instance : DecidablePred Orderly :=
  fun value => inferInstanceAs (Decidable (value.everywhere _ = true))

/-- A well-formed program. -/
structure WellFormed (program : Value) : Prop where
  isObject : program.isObject = true
  orderly : Orderly program

theorem holdsOnly_iff {node : Value} {key : String} {kind : Kind} :
    holdsOnly node key kind = true ↔
      ∀ value, node.field? key = some value → value.kind = kind := by
  simp [holdsOnly, Option.all_eq_true]

namespace Orderly

theorem inside {whole part : Value} (orderly : Orderly whole) (inside : whole.Contains part) :
    Orderly part :=
  inside.everywhere orderly

theorem field {node : Value} (orderly : Orderly node) (key : String) :
    Orderly (node.field key) := by
  cases found : node.field? key with
  | none =>
      rw [Value.field, found]
      decide
  | some value =>
      rw [Value.field, found]
      exact orderly.inside (Value.holds_of_field? found).contains

theorem length_lt {items : List Value} (orderly : Orderly (.list items)) :
    items.length < lengthLimit := by
  have holds := Value.condition_of_everywhere orderly
  rw [Bool.and_eq_true] at holds
  exact of_decide_eq_true holds.1

theorem fields {node : Value} (orderly : Orderly node) : hasOrderlyFields node = true := by
  have holds := Value.condition_of_everywhere orderly
  rw [Bool.and_eq_true] at holds
  exact holds.2

variable {node : Value}

theorem type (orderly : Orderly node) : holdsOnly node "type" .text = true := by
  have fields := orderly.fields
  simp only [hasOrderlyFields, Bool.and_eq_true] at fields
  exact fields.1.1.1.1.1

theorem list (orderly : Orderly node) (key : String) (listed : key ∈ listKeys) :
    holdsOnly node key .list = true := by
  have fields := orderly.fields
  simp only [hasOrderlyFields, Bool.and_eq_true, List.all_eq_true] at fields
  exact fields.1.1.1.1.2 key listed

theorem members (orderly : Orderly node)
    (isInterface : isNodeOf node "TSInterfaceDeclaration" = true) :
    holdsOnly (node.field "body") "body" .list = true := by
  have fields := orderly.fields
  simp only [hasOrderlyFields, Bool.and_eq_true, isInterface, Bool.not_true, Bool.false_or]
    at fields
  exact fields.1.1.1.2

theorem name (orderly : Orderly node) (isIdentifier : isNodeOf node "Identifier" = true) :
    holdsOnly node "name" .text = true := by
  have fields := orderly.fields
  simp only [hasOrderlyFields, Bool.and_eq_true, isIdentifier, Bool.not_true, Bool.false_or]
    at fields
  exact fields.1.1.2

theorem start (orderly : Orderly node) :
    holdsOnly ((node.field "loc").field "start") "line" .whole = true ∧
      holdsOnly ((node.field "loc").field "start") "column" .whole = true := by
  have fields := orderly.fields
  simp only [hasOrderlyFields, Bool.and_eq_true] at fields
  exact ⟨fields.1.2, fields.2⟩

end Orderly

/-! ## What readers ask for -/

section Readers

variable {node : Value} {fault : Fault}

/-- A field that holds only texts is null or a text. -/
theorem null_or_text {key : String} (texts : holdsOnly node key .text = true) :
    node.field key = .null ∨ ∃ content, node.field key = .text content := by
  rw [holdsOnly_iff] at texts
  rw [Value.field]
  cases found : node.field? key with
  | none => exact .inl rfl
  | some value =>
      have isText := texts value found
      cases value with
      | text content => exact .inr ⟨content, rfl⟩
      | _ => cases isText

/-- What is listed under a key that holds only lists has parts. -/
theorem hasParts_listed {key : String} (lists : holdsOnly node key .list = true) :
    hasParts (listed node key) = true := by
  rw [holdsOnly_iff] at lists
  rw [listed]
  cases found : node.field? key with
  | none => rfl
  | some value =>
      have isList := lists value found
      cases value with
      | list items => rfl
      | _ => cases isList

/-- A field that holds only lists is a list once it is made up for where it is missing or empty. -/
theorem exists_list_orElse {key : String} (lists : holdsOnly node key .list = true) :
    ∃ items, (node.field key).orElse (.list []) = .list items := by
  rw [holdsOnly_iff] at lists
  rw [Value.field]
  cases found : node.field? key with
  | none => exact ⟨[], rfl⟩
  | some value =>
      have isList := lists value found
      cases value with
      | list items =>
          cases items with
          | nil => exact ⟨[], rfl⟩
          | cons item rest => exact ⟨item :: rest, rfl⟩
      | _ => cases isList

theorem not_mispositions (orderly : Orderly node) : ¬ Mispositions node fault := by
  rintro ⟨key, member, value, found, misnumbers⟩
  have isWhole : value.kind = .whole := by
    rw [List.mem_cons, List.mem_singleton] at member
    rcases member with rfl | rfl
    · exact holdsOnly_iff.mp orderly.start.1 value found
    · exact holdsOnly_iff.mp orderly.start.2 value found
  cases misnumbers with
  | other kind => simp [isWhole] at kind
  | infinite | undefined | malformed | long => cases isWhole

end Readers

/-! ## Where readers find nodes -/

theorem mem_nodeOnly_iff {value part : Value} :
    part ∈ nodeOnly value ↔ part = value ∧ value.isObject = true := by
  rw [nodeOnly]
  split <;> simp_all

/-- The objects inside the parts of a value stand in the value. -/
theorem contains_of_mem_parts
    {value holder part : Value} {items : List Value}
    (found : parts value = .ok items) (member : holder ∈ items)
    (isObject : part.isObject = true) (inside : holder.Contains part) : value.Contains part := by
  -- The parts of a text or of an object are texts, and no object stands in a text.
  have noText : ∀ content, holder ≠ .text content := by
    rintro content rfl
    rw [inside.eq_of_plain (by simp [Value.kind]) (by simp [Value.kind])] at isObject
    cases isObject
  cases value with
  | list inner =>
      cases found
      exact Value.Contains.trans (.item .here member) inside
  | text content =>
      cases found
      rcases List.mem_map.mp member with ⟨character, _, rfl⟩
      exact absurd rfl (noText _)
  | object fields =>
      cases found
      rcases List.mem_map.mp member with ⟨entry, _, rfl⟩
      exact absurd rfl (noText _)
  | _ => cases found

theorem holds_of_mem_nodesUnder
    {node part : Value} {key : String} {nodes : List Value}
    (found : nodesUnder node key = .ok nodes) (member : part ∈ nodes) :
    part.isObject = true ∧ node.Holds part := by
  rw [nodesUnder, partNodes, map_eq_ok_iff] at found
  rcases found with ⟨items, parted, rfl⟩
  rw [List.mem_filter] at member
  refine ⟨member.2, ?_⟩
  cases looked : node.field? key with
  | none =>
      rw [looked] at parted
      cases parted
      cases member.1
  | some value =>
      rw [looked] at parted
      exact (Value.holds_of_field? looked).trans
        (contains_of_mem_parts parted member.1 member.2 .here)

theorem holds_of_mem_typeArguments
    {node part : Value} {nodes : List Value}
    (found : typeArguments node = .ok nodes) (member : part ∈ nodes) :
    part.isObject = true ∧ node.Holds part := by
  rw [typeArguments, bind_eq_ok_iff] at found
  rcases found with ⟨_, _, found⟩
  simp only at found
  split at found
  · rcases holds_of_mem_nodesUnder found member with ⟨isObject, held⟩
    refine ⟨isObject, ?_⟩
    rw [Value.orElse] at held
    split at held
    · exact Value.holds_field isObject held.contains
    · exact Value.holds_field isObject held.contains
  · cases found
    cases member

end TypeGauge.Syntax
