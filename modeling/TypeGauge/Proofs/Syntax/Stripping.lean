import TypeGauge.Proofs.Check.Tours
import TypeGauge.Proofs.Data.Fields
import TypeGauge.Proofs.Syntax.Transparency

/-!
# Syntax trees without metadata

Front-ends attach to nodes what is no part of the program: links back, ranges, tokens and
comments, all of which may hold nodes of their own.  `stripped` takes these fields away from
every node, at every depth.  A stripped node has under every other key what the node has
there, stripped, and a walk passes over what is taken away.  So a tour of a stripped node
visits the stripped nodes of the tour of the node.
-/

namespace TypeGauge.Syntax

open TypeGauge.Data

/-- The keys of what is no part of the program. -/
def metadataKeys : List String :=
  ["parent", "range", "tokens", "comments"]

/-- The fields of an object, without metadata if the object is a node. -/
def stripNode (fields : List (String × Value)) : List (String × Value) :=
  if (Value.lookup? "type" fields).isSome then
    fields.filter fun entry => !metadataKeys.contains entry.1
  else fields

mutual

/-- A value with all nodes inside it without their metadata. -/
def stripped : Value → Value
  | .list items => .list (strippedAll items)
  | .object fields => .object (stripNode (strippedUnder fields))
  | other => other

/-- Several values without metadata. -/
def strippedAll : List Value → List Value
  | [] => []
  | value :: rest => stripped value :: strippedAll rest

/-- Fields with their values without metadata. -/
def strippedUnder : List (String × Value) → List (String × Value)
  | [] => []
  | (key, value) :: rest => (key, stripped value) :: strippedUnder rest

end

theorem strippedAll_eq_map (items : List Value) : strippedAll items = items.map stripped := by
  induction items with
  | nil => simp [strippedAll]
  | cons item rest hypothesis => simp [strippedAll, hypothesis]

theorem strippedUnder_eq_map (fields : List (String × Value)) :
    strippedUnder fields = fields.map fun entry => (entry.1, stripped entry.2) := by
  induction fields with
  | nil => simp [strippedUnder]
  | cons head rest hypothesis => simp [strippedUnder, hypothesis]

theorem lookup?_stripNode {key : String} (kept : key ∉ metadataKeys)
    (fields : List (String × Value)) :
    Value.lookup? key (stripNode fields) = Value.lookup? key fields := by
  rw [stripNode]
  split
  · have stays : (!metadataKeys.contains key) = true := by simpa using kept
    exact @Value.lookup?_filter (fun key => !metadataKeys.contains key) key stays fields
  · rfl

/-- A node that loses its metadata still has its type. -/
theorem isEmpty_stripNode (fields : List (String × Value)) :
    (stripNode fields).isEmpty = fields.isEmpty := by
  have kept := lookup?_stripNode (show "type" ∉ metadataKeys by decide) fields
  cases found : Value.lookup? "type" fields with
  | none => simp [stripNode, found]
  | some declared =>
      have before := Value.mem_of_lookup?_eq_some found
      have after := Value.mem_of_lookup?_eq_some (kept.trans found)
      rw [List.isEmpty_eq_false_iff.mpr (List.ne_nil_of_mem before),
        List.isEmpty_eq_false_iff.mpr (List.ne_nil_of_mem after)]

theorem keepsShape_stripped : KeepsShape stripped := by
  intro value
  cases value with
  | list items =>
      rw [stripped, strippedAll_eq_map]
      exact .list items
  | object fields =>
      rw [stripped]
      exact .object (by rw [isEmpty_stripNode, strippedUnder_eq_map, List.isEmpty_map])
  | _ =>
      rw [stripped]
      · exact .plain (by simp [Value.kind]) (by simp [Value.kind])
      all_goals simp

/-- Under every key but those of metadata, a stripped node has what the node has, stripped. -/
theorem findsUnder_stripped {key : String} (kept : key ∉ metadataKeys) (node : Value) :
    FindsUnder stripped node key := by
  cases node with
  | object fields =>
      rw [FindsUnder, stripped, Value.field?, Value.field?, lookup?_stripNode kept,
        strippedUnder_eq_map, Value.lookup?_map]
  | _ => simp [FindsUnder, stripped, Value.field?]

theorem findsUnder_all_stripped {keys : List String} (kept : ∀ key ∈ keys, key ∉ metadataKeys) :
    ∀ key ∈ keys, ∀ node, FindsUnder stripped node key :=
  fun key member => findsUnder_stripped (kept key member)

theorem field_stripped {key : String} (kept : key ∉ metadataKeys) (node : Value) :
    (stripped node).field key = stripped (node.field key) :=
  (findsUnder_stripped kept node).field keepsShape_stripped

theorem isNodeOf_stripped (node : Value) (typeName : String) :
    isNodeOf (stripped node) typeName = isNodeOf node typeName :=
  (findsUnder_stripped (by decide) node).isNodeOf keepsShape_stripped typeName

end TypeGauge.Syntax

namespace TypeGauge.Check

open TypeGauge.Data TypeGauge.Syntax

/-! ## Walks -/

theorem isTyped_stripped (value : Value) : isTyped (stripped value) = isTyped value := by
  have finds := findsUnder_stripped (show "type" ∉ metadataKeys by decide) value
  rw [FindsUnder] at finds
  rw [isTyped, isTyped, (keepsShape_stripped value).isObject, Value.hasField, Value.hasField,
    finds, Option.isSome_map]

theorem nodesInside_of_not_list {value : Value} (noList : value.kind ≠ .list) :
    nodesInside value = if isTyped value then [value] else [] := by
  cases value with
  | list => exact absurd rfl noList
  | _ => rfl

theorem nodesInside_stripped (value : Value) :
    nodesInside (stripped value) = (nodesInside value).map stripped := by
  by_cases isList : value.kind = .list
  · cases value with
    | list items =>
        rw [stripped, strippedAll_eq_map, nodesInside, nodesInside, List.filter_map]
        simp only [Function.comp_def, isTyped_stripped]
    | _ => cases isList
  · rw [nodesInside_of_not_list isList,
      nodesInside_of_not_list (by rwa [(keepsShape_stripped value).kind]), isTyped_stripped]
    split <;> rfl

/-- Every key of metadata is passed over. -/
theorem skipped_of_metadata {key : String} (isMetadata : key ∈ metadataKeys) :
    key ∈ skippedKeys := by
  revert key
  decide

/-- A search that passes over metadata finds as much in the fields that a node keeps. -/
theorem flatMap_stripNode {find : String × Value → List Value}
    (skips : ∀ entry, entry.1 ∈ metadataKeys → find entry = []) (fields : List (String × Value)) :
    (stripNode fields).flatMap find = fields.flatMap find := by
  have kept : (fields.filter fun entry => !metadataKeys.contains entry.1).flatMap find =
      fields.flatMap find := by
    induction fields with
    | nil => rfl
    | cons head rest hypothesis =>
        by_cases isMetadata : head.1 ∈ metadataKeys
        · rw [List.filter_cons_of_neg (by simpa using isMetadata), hypothesis, List.flatMap_cons,
            skips head isMetadata, List.nil_append]
        · rw [List.filter_cons_of_pos (by simpa using isMetadata), List.flatMap_cons,
            List.flatMap_cons, hypothesis]
  rw [stripNode]
  split
  · exact kept
  · rfl

/-- The nodes directly inside a stripped node are those inside the node, stripped. -/
theorem childNodes_stripped (node : Value) :
    childNodes (stripped node) = (childNodes node).map stripped := by
  cases node with
  | object fields =>
      rw [stripped, childNodes, childNodes, flatMap_stripNode, strippedUnder_eq_map,
        List.flatMap_map, List.map_flatMap]
      · apply List.flatMap_congr
        intro entry _
        split
        · rfl
        · exact nodesInside_stripped entry.2
      · intro entry isMetadata
        rw [if_pos (by simpa using skipped_of_metadata isMetadata)]
  | _ => simp [stripped, childNodes]

theorem tourAll_map_stripped {tourOne : Value → Tour} {nodes : List Value}
    (single : ∀ node, tourOne (stripped node) =
      ⟨(tourOne node).visited.map stripped, (tourOne node).isComplete⟩) :
    tourAll tourOne (nodes.map stripped) =
      ⟨(tourAll tourOne nodes).visited.map stripped, (tourAll tourOne nodes).isComplete⟩ := by
  induction nodes with
  | nil => rfl
  | cons node rest hypothesis =>
      rw [List.map_cons, tourAll, tourAll, single, hypothesis, Tour.andThen, Tour.andThen]
      split
      · simp
      · rfl

/-- A tour of a stripped node visits the stripped nodes of the tour of the node. -/
theorem tourWithin_stripped (room : Nat) (node : Value) :
    tourWithin room (stripped node) =
      ⟨(tourWithin room node).visited.map stripped, (tourWithin room node).isComplete⟩ := by
  induction room generalizing node with
  | zero => rfl
  | succ room hypothesis =>
      rw [tourWithin, tourWithin, childNodes_stripped,
        tourAll_map_stripped hypothesis]
      rfl

end TypeGauge.Check
