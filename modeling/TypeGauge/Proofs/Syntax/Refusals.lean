import TypeGauge.Proofs.Outcome
import TypeGauge.Syntax.Ascription
import TypeGauge.Syntax.Position

/-!
# What the readers of a syntax tree refuse

Each reader works on any value and refuses some of them.  For each of them there is one
lemma that says exactly which values it refuses and how: values without parts, values that
cannot be names, and values that are no numbers of lines and columns.
-/

namespace TypeGauge.Syntax

open TypeGauge.Data TypeGauge.Number

variable {value node : Value} {fault : Fault}

/-! ## Parts -/

/-- Whether a value has parts: a list has items, a text characters and an object keys. -/
def hasParts : Value → Bool
  | .text _ | .list _ | .object _ => true
  | .null | .truth _ | .whole _ | .double _ | .moment _ => false

theorem parts_eq_error_iff :
    parts value = .error fault ↔ hasParts value = false ∧ fault = .notIterable value.kind := by
  cases value <;> simp [parts, hasParts, Value.kind, eq_comm]

theorem partCount_eq_error_iff :
    partCount value = .error fault ↔ hasParts value = false ∧ fault = .noLength value.kind := by
  cases value <;> simp [partCount, hasParts, Value.kind, eq_comm]

theorem exists_partCount_iff :
    (∃ count, partCount value = .ok count) ↔ hasParts value = true := by
  cases value <;> simp [partCount, hasParts]

theorem firstPart_eq_error_iff :
    firstPart value = .error fault ↔
      value.isObject = true ∧ fault = .noFirstPart ∨
        hasParts value = false ∧ fault = .noPositions value.kind := by
  cases value <;> simp [firstPart, hasParts, Value.isObject, Value.kind, eq_comm]

/-- The value whose parts are asked for under a key, an empty list where it is missing. -/
def listed (node : Value) (key : String) : Value :=
  (node.field? key).getD (.list [])

theorem listed_eq_field {key : String} (present : (node.field key).isNull = false) :
    listed node key = node.field key := by
  rw [Value.field] at present ⊢
  rw [listed]
  cases found : node.field? key with
  | none =>
      rw [found] at present
      cases present
  | some value => rfl

theorem nodesUnder_eq_error_iff {key : String} :
    nodesUnder node key = .error fault ↔
      hasParts (listed node key) = false ∧ fault = .notIterable (listed node key).kind := by
  rw [nodesUnder, partNodes, map_eq_error_iff, parts_eq_error_iff, listed]

/-- There are no nodes under a key of a value that is no object. -/
theorem ite_nodesUnder (holder : Value) (key : String) :
    (if holder.isObject then nodesUnder holder key else .ok []) = nodesUnder holder key := by
  cases holder <;> rfl

/-- The value in which the type arguments of a node stand. -/
def argumentHolder (node : Value) : Value :=
  (node.field "typeArguments").orElse (node.field "typeParameters")

theorem typeArguments_of_isObject (isObject : node.isObject = true) :
    typeArguments node =
      if (argumentHolder node).isObject then nodesUnder (argumentHolder node) "params"
      else .ok [] := by
  rw [typeArguments, requireObject, if_pos isObject]
  rfl

theorem typeArguments_eq_error_iff (isObject : node.isObject = true) :
    typeArguments node = .error fault ↔
      hasParts (listed (argumentHolder node) "params") = false ∧
        fault = .notIterable (listed (argumentHolder node) "params").kind := by
  rw [typeArguments_of_isObject isObject, ite_nodesUnder, nodesUnder_eq_error_iff]

/-! ## Names -/

/-- Whether a value cannot be told apart by name. -/
def isNoName : Value → Bool
  | .list _ | .object _ => true
  | .null | .truth _ | .whole _ | .double _ | .text _ | .moment _ => false

theorem requireName_eq_error_iff :
    requireName value = .error fault ↔ isNoName value = true ∧ fault = .notAName value.kind := by
  cases value <;> simp [requireName, isNoName, Value.kind, eq_comm]

/-! ## Positions -/

/-- A value that is no number of a line or a column, and the fault that says so. -/
inductive Misnumbers : Value → Fault → Prop
  | other {value : Value} (kind : value.kind ∉ [.truth, .whole, .double, .text]) :
      Misnumbers value (.notNumeric value.kind)
  | infinite {number : Float} {negative : Bool}
      (parts : Binary.parts number = .infinite negative) :
      Misnumbers (.double number) .infinitePosition
  | undefined {number : Float} (parts : Binary.parts number = .notANumber) :
      Misnumbers (.double number) .undefinedPosition
  | malformed {content : String} (read : Whole.read content.toList = .error .malformed) :
      Misnumbers (.text content) (.notWhole content)
  | long {content : String} {count : Nat}
      (read : Whole.read content.toList = .error (.tooManyDigits count)) :
      Misnumbers (.text content) (.tooManyDigits count)

theorem wholeOf_eq_error_iff : wholeOf value = .error fault ↔ Misnumbers value fault := by
  constructor
  · intro refused
    cases value with
    | truth | whole => cases refused
    | double number =>
        rw [wholeOf] at refused
        split at refused
        · cases refused
        · rename_i negative found
          cases refused
          exact .infinite found
        · rename_i found
          cases refused
          exact .undefined found
    | text content =>
        rw [wholeOf] at refused
        split at refused
        · cases refused
        · rename_i read
          cases refused
          exact .malformed read
        · rename_i count read
          cases refused
          exact .long read
    | null | moment | list | object =>
        cases refused
        exact .other (by simp [Value.kind])
  · intro misnumbers
    cases misnumbers with
    | other kind => cases value <;> first | rfl | simp [Value.kind] at kind
    | infinite found => rw [wholeOf, found]
    | undefined found => rw [wholeOf, found]
    | malformed read => rw [wholeOf, read]
    | long read => rw [wholeOf, read]

/-- A node says that it starts at a line or a column that is no number. -/
def Mispositions (node : Value) (fault : Fault) : Prop :=
  ∃ key ∈ ["line", "column"], ∃ value,
    ((node.field "loc").field "start").field? key = some value ∧ Misnumbers value fault

theorem Mispositions.ne_tooDeep (mispositions : Mispositions node fault) : fault ≠ .tooDeep := by
  rcases mispositions with ⟨_, _, _, _, misnumbers⟩
  cases misnumbers <;> nofun

theorem mispositions_of_wholeOf {key : String} {number : Int} (member : key ∈ ["line", "column"])
    (refused : wholeOf ((((node.field "loc").field "start").field? key).getD (.whole number)) =
      .error fault) :
    Mispositions node fault := by
  cases found : ((node.field "loc").field "start").field? key with
  | none =>
      rw [found] at refused
      cases refused
  | some value =>
      rw [found] at refused
      exact ⟨key, member, value, found, wholeOf_eq_error_iff.mp refused⟩

theorem mispositions_of_positionOf (isObject : node.isObject = true)
    (refused : positionOf node = .error fault) : Mispositions node fault := by
  rw [positionOf, requireObject, if_pos isObject, bind_eq_error_iff] at refused
  rcases refused with refused | ⟨_, _, refused⟩
  · cases refused
  · simp only at refused
    split at refused
    · rcases bind_eq_error_iff.mp refused with line | ⟨_, _, refused⟩
      · exact mispositions_of_wholeOf (by simp) line
      · rcases bind_eq_error_iff.mp refused with column | ⟨_, _, ended⟩
        · exact mispositions_of_wholeOf (by simp) column
        · cases ended
    · cases refused

/-- A node that says so has no position. -/
theorem Mispositions.exists_fault (mispositions : Mispositions node fault) :
    ∃ other, positionOf node = .error other := by
  rcases mispositions with ⟨key, member, value, found, misnumbers⟩
  cases positioned : positionOf node with
  | error other => exact ⟨other, rfl⟩
  | ok source =>
      have refused := wholeOf_eq_error_iff.mpr misnumbers
      have isObject : ((node.field "loc").field "start").isObject = true := by
        revert found
        cases (node.field "loc").field "start" <;> simp [Value.field?, Value.isObject]
      rw [positionOf, bind_eq_ok_iff] at positioned
      rcases positioned with ⟨_, _, positioned⟩
      simp only [isObject, if_true] at positioned
      rw [bind_eq_ok_iff] at positioned
      rcases positioned with ⟨line, lineRead, positioned⟩
      rw [bind_eq_ok_iff] at positioned
      rcases positioned with ⟨column, columnRead, _⟩
      rw [List.mem_cons, List.mem_singleton] at member
      rcases member with rfl | rfl
      · rw [found, Option.getD_some, refused] at lineRead
        cases lineRead
      · rw [found, Option.getD_some, refused] at columnRead
        cases columnRead

end TypeGauge.Syntax
