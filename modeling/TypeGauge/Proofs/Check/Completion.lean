import TypeGauge.Proofs.Check.Stopping
import TypeGauge.Proofs.Types.Building

/-!
# Where a pass over a well-formed program can stop

No declaration of a well-formed program is misdeclared: its type expressions can be read, its
validators are called with arguments that can be counted and names in it are null or texts.
Two reasons to stop are left: the program is nested too deep, or some declaration in it has
earned a score that cannot be shown.
-/

namespace TypeGauge.Check

open TypeGauge.Data TypeGauge.Setup TypeGauge.Score TypeGauge.Syntax TypeGauge.Types

variable {α : Type} {node : Value} {fault : Fault}

/-! ## Names -/

/-- Values that well-formed programs use as names. -/
def IsPlainName (name : Value) : Prop :=
  name = .null ∨ ∃ content, name = .text content

theorem IsPlainName.isNoName {name : Value} (plain : IsPlainName name) :
    isNoName name = false := by
  rcases plain with rfl | ⟨content, rfl⟩
  · rfl
  · rfl

/-- The name of an identifier, or null for what is none. -/
theorem isPlainName_of_orderly (orderly : Orderly node) :
    IsPlainName (if isNodeOf node "Identifier" then node.field "name" else .null) := by
  split
  · rename_i isIdentifier
    exact null_or_text (orderly.name isIdentifier)
  · exact .inl rfl

theorem isPlainName_queriedName (orderly : Orderly node) : IsPlainName (queriedName node) := by
  have named := isPlainName_of_orderly (orderly.field "exprName")
  rw [queriedName]
  split
  · rename_i queried
    rw [Bool.and_eq_true] at queried
    rwa [if_pos queried.2] at named
  · exact .inl rfl

theorem isPlainName_of_staticOfTarget {marker : Option String} {target : Value}
    (orderly : Orderly node) (found : staticOfTarget node marker = .ok target) :
    IsPlainName target := by
  rw [staticOfTarget, bind_eq_ok_iff] at found
  rcases found with ⟨argument, read, ended⟩
  cases argument with
  | none =>
      cases ended
      exact .inl rfl
  | some query =>
      cases ended
      exact isPlainName_queriedName ((madeOf_of_onlyArgument read).orderly orderly)

theorem isPlainName_of_reexposed {marker : Option String} {target : Value}
    (orderly : Orderly node) (found : reexposed node marker = .ok target) :
    IsPlainName target := by
  rw [reexposed, bind_eq_ok_iff] at found
  rcases found with ⟨direct, directRead, found⟩
  split at found
  · cases found
    exact isPlainName_of_staticOfTarget orderly directRead
  · rw [bind_eq_ok_iff] at found
    rcases found with ⟨argument, read, found⟩
    cases argument with
    | none =>
        cases found
        exact .inl rfl
    | some inside =>
        exact isPlainName_of_staticOfTarget ((madeOf_of_onlyArgument read).orderly orderly) found

/-! ## Validators -/

theorem isPlainName_of_declaredName {name : Value} (orderly : Orderly node)
    (found : declaredName node = .ok name) : IsPlainName name := by
  rw [declaredName, bind_eq_ok_iff] at found
  rcases found with ⟨_, _, ended⟩
  cases ended
  exact isPlainName_of_orderly (orderly.field "id")

theorem exists_calledMethod (isObject : node.isObject = true) :
    ∃ method, calledMethod node = .ok method := by
  rw [calledMethod, requireObject, if_pos isObject]
  exact ⟨_, rfl⟩

theorem isPlainName_of_calledMethod {method : Value} (orderly : Orderly node)
    (called : calledMethod node = .ok method) : IsPlainName method := by
  rw [calledMethod, bind_eq_ok_iff] at called
  rcases called with ⟨_, _, ended⟩
  cases ended
  exact isPlainName_of_orderly ((orderly.field "callee").field "property")

/-- A list under a key of an orderly node is orderly, also where it is made up for. -/
theorem exists_orderly_list (orderly : Orderly node) (key : String) (listed : key ∈ listKeys) :
    ∃ items, (node.field key).orElse (.list []) = .list items ∧ Orderly (.list items) := by
  rcases exists_list_orElse (orderly.list key listed) with ⟨items, found⟩
  refine ⟨items, found, ?_⟩
  rw [← found, Value.orElse]
  split
  · exact orderly.field key
  · decide

/-- No validator call of a well-formed program has more points than this. -/
def pointLimit : Nat :=
  10 + 3 * lengthLimit

theorem exists_shapePoints {shape : Value} (orderly : Orderly shape) :
    ∃ points, shapePoints shape = .ok points ∧ points ≤ pointLimit := by
  rcases exists_orderly_list orderly "properties" (by decide) with
    ⟨properties, given, propertiesOrderly⟩
  have short := propertiesOrderly.length_lt
  rw [shapePoints, given]
  split
  · exact ⟨10 + 3 * properties.length, rfl, by rw [pointLimit]; omega⟩
  · exact ⟨0, rfl, Nat.zero_le _⟩

theorem flatScore_le (method : Value) : flatScore method ≤ pointLimit := by
  have listed : ∀ entry ∈ flatScores, entry.2 ≤ 3 := by decide
  have single : flatScore method ≤ 3 := by
    unfold flatScore
    split
    · rename_i name
      cases found : flatScores.lookup name with
      | none => decide
      | some points =>
          rcases List.lookup_eq_some_iff.mp found with ⟨before, after, split, _⟩
          apply listed (name, points)
          rw [split]
          exact List.mem_append_right before List.mem_cons_self
    · decide
  rw [pointLimit]
  omega

/-- A validator call of a well-formed program has points, and not too many of them. -/
theorem exists_validatorPoints (isObject : node.isObject = true) (orderly : Orderly node) :
    ∃ points, validatorPoints node = .ok points ∧ points ≤ pointLimit := by
  rcases exists_calledMethod isObject with ⟨method, called⟩
  have named : requireName method = .ok () := by
    rcases isPlainName_of_calledMethod orderly called with rfl | ⟨content, rfl⟩ <;> rfl
  rcases exists_orderly_list orderly "arguments" (by decide) with
    ⟨arguments, given, argumentsOrderly⟩
  have short := argumentsOrderly.length_lt
  rw [validatorPoints, called]
  simp only [bind, Except.bind, named, given]
  split
  · exact ⟨0, rfl, Nat.zero_le _⟩
  · split
    · cases arguments with
      | nil =>
          have nothing : Orderly .null := by decide
          exact exists_shapePoints nothing
      | cons first rest =>
          exact exists_shapePoints (argumentsOrderly.inside (.item .here List.mem_cons_self))
    · split
      · exact ⟨2 * arguments.length, rfl, by rw [pointLimit]; omega⟩
      · exact ⟨flatScore method, rfl, flatScore_le method⟩

theorem not_miscalls (isObject : node.isObject = true) (orderly : Orderly node) :
    ¬ Miscalls node fault := by
  intro miscalls
  rcases exists_validatorPoints isObject orderly with ⟨points, counted, _⟩
  rcases miscalls.exists_fault with ⟨other, failed⟩
  cases failed.symm.trans counted

/-! ## Stopping -/

theorem Pass.not_misdeclares {pass : Pass α} (isObject : node.isObject = true)
    (orderly : Orderly node) : ¬ pass.Misdeclares node fault := by
  intro misdeclares
  cases misdeclares with
  | typeAlias declared unreadable =>
      exact not_unreadable (isTypeAlias_iff.mp declared).2 (orderly.field _) unreadable
  | interface declared unreadable => exact not_unreadable isObject orderly unreadable
  | validator declared miscalls =>
      exact not_miscalls (isObject_of_isValidator declared) (orderly.field _) miscalls
  | position declared mispositions => exact not_mispositions orderly mispositions
  | exposed declared found noName =>
      rw [(isPlainName_of_reexposed (orderly.field _) found).isNoName] at noName
      cases noName
  | bound described late noName =>
      have named := described.name
      rw [kind_of_isPutOff late] at named
      rw [(isPlainName_of_declaredName orderly named).isNoName] at noName
      cases noName

/-- A pass over a well-formed program stops only for one of the listed reasons. -/
theorem analyze_faults
    (pass : Pass α) (weighs : pass.arithmetic.Weighs) (entered : 0 ≤ pass.policy.entryDepth)
    {program : Value} (wellFormed : WellFormed program) (supply : Nat) :
    FaultsOnly (pass.Stops program)
      (analyze pass.arithmetic pass.settings pass.file program supply).1 := by
  refine (analyze_halts pass weighs entered wellFormed.isObject supply).imp ?_
  intro fault halts
  cases halts with
  | stops stops => exact stops
  | misdeclares visited misdeclares =>
      rcases contains_of_mem_tourWithin wellFormed.isObject visited with ⟨isObject, inside⟩
      exact absurd misdeclares (Pass.not_misdeclares isObject (wellFormed.orderly.inside inside))

end TypeGauge.Check
