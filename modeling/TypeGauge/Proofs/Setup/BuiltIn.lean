import TypeGauge.Proofs.Setup.Variables
import TypeGauge.Setup.BuiltIn

/-!
# The built-in library does what is documented

The library that the program runs with takes the documented steps, so what is shown of
every documented library is not empty, and it holds of the program.
-/

namespace TypeGauge.Setup

open TypeGauge.Data TypeGauge.Data.Value TypeGauge.Text

/-! ## Validation -/

theorem Reading.along_eq_ok_iff
    {α β : Type} {function : Reading (α → β)} {argument : Reading α} {result : β} :
    function.along argument = .ok result ↔
      ∃ apply value, function = .ok apply ∧ argument = .ok value ∧ apply value = result := by
  cases function <;> cases argument <;> simp [Reading.along]

theorem isReadFrom_of_readUnder
    {α : Type} {read : Value → Except Complaint α} {fields : List (String × Value)}
    {keys : List String} {result : Option α} (done : readUnder read fields keys = .ok result)
    (standard : α) :
    IsReadFrom (readUnhalved read) standard (keys.findSome? (lookup? · fields))
      (result.getD standard) := by
  fun_induction readUnder read fields keys with
  | case1 =>
      cases done
      rfl
  | case2 key rest absent hypothesis =>
      rw [List.findSome?_cons, absent]
      exact hypothesis done
  | case3 key rest value found given accepted =>
      cases done
      rw [List.findSome?_cons, found]
      exact accepted
  | case4 => cases done

theorem follows_of_readPolicy
    {policy : Value} {draft : PolicyDraft} (read : readPolicy policy = .ok draft)
    (field : PolicyField) :
    draft.complete.Follows .builtIn
      ((policy.field? field.alternate).or (policy.field? field.name)) field := by
  unfold readPolicy at read
  split at read
  · rename_i fields
    simp only [Reading.along_eq_ok_iff, Reading.of, Except.ok.injEq] at read
    rcases read with ⟨_, depth, ⟨_, mode, ⟨_, penalty, ⟨_, error, ⟨_, warn, ⟨_, base, rfl,
      baseRead, rfl⟩, warnRead, rfl⟩, errorRead, rfl⟩, penaltyRead, rfl⟩, modeRead, rfl⟩,
      depthRead, rfl⟩
    have source : ∀ field : PolicyField,
        ((Value.object fields).field? field.alternate).or
            ((Value.object fields).field? field.name) =
          [field.alternate, field.name].findSome? (lookup? · fields) := by
      intro field
      simp [List.findSome?, field?]
      cases lookup? field.alternate fields <;> cases lookup? field.name fields <;> rfl
    rw [source]
    cases field with
    | baseThreshold => exact isReadFrom_of_readUnder baseRead _
    | warnThreshold => exact isReadFrom_of_readUnder warnRead _
    | errorThreshold => exact isReadFrom_of_readUnder errorRead _
    | interfacePenalty => exact isReadFrom_of_readUnder penaltyRead _
    | performanceMode => exact isReadFrom_of_readUnder modeRead _
    | entryDepth => exact isReadFrom_of_readUnder depthRead _
  · cases read

theorem follows_of_readPolicyAmong
    {fields : List (String × Value)} {draft : PolicyDraft}
    (read : readPolicyAmong fields = .ok draft) :
    (∀ policy, lookup? policyKey fields = some policy → policy.isObject = true) ∧
      ∀ field : PolicyField,
        let policy := (lookup? policyKey fields).getD .null
        draft.complete.Follows .builtIn
          ((policy.field? field.alternate).or (policy.field? field.name)) field := by
  rw [readPolicyAmong] at read
  cases among : lookup? policyKey fields with
  | none =>
      rw [among] at read
      cases read
      refine ⟨by simp, ?_⟩
      intro field
      cases field <;> rfl
  | some value =>
      rw [among] at read
      simp only at read
      split at read
      · rename_i accepted
        cases read
        refine ⟨?_, follows_of_readPolicy accepted⟩
        rintro _ ⟨⟩
        unfold readPolicy at accepted
        split at accepted
        · rfl
        · cases accepted
      · cases read

theorem follows_of_readSettings
    {fields : List (String × Value)} {draft : SettingsDraft}
    (read : readSettings fields = .ok draft) :
    readPolicyAmong fields = .ok draft.policy ∧
      ∀ field : PlainField,
        draft.complete.Follows .builtIn (lookup? field.name fields) (.plain field) := by
  simp only [readSettings, Reading.along_eq_ok_iff, Reading.of, Except.ok.injEq] at read
  rcases read with ⟨_, level, ⟨_, marker, ⟨_, space, ⟨_, policy, rfl, policyRead, rfl⟩,
    spaceRead, rfl⟩, markerRead, rfl⟩, levelRead, rfl⟩
  refine ⟨policyRead, ?_⟩
  have source : ∀ field : PlainField,
      lookup? field.name fields = [field.name].findSome? (lookup? · fields) := by
    intro field
    simp
  intro field
  rw [source]
  cases field with
  | validatorNamespace => exact isReadFrom_of_readUnder spaceRead _
  | staticMarker => exact isReadFrom_of_readUnder markerRead _
  | logLevel => exact isReadFrom_of_readUnder levelRead _

/-- A setting is never read from an object. -/
theorem isObject_eq_false_of_follows
    {settings : Settings Float} {value : Value} {key : SettingKey}
    (follows : settings.Follows .builtIn (some value) key) : value.isObject = false := by
  cases value with
  | object fields =>
      match key with
      | .policy field => cases field <;> cases follows
      | .plain field => cases field <;> cases follows
  | null | truth | whole | double | text | moment | list => rfl

/-! ## Layers -/

theorem overlaid_builtIn (lower : Option Value) (upper : Value) :
    Library.builtIn.overlaid lower upper = mergeValue lower upper := by
  cases upper with
  | object fields =>
      unfold mergeValue
      rfl
  | null | truth | whole | double | text | moment | list =>
      rw [LibrarySteps.overlaid, mergeValue] <;> simp

theorem exists_key_of_namedSettings
    {given : List (String × Value)} {name : String} (member : name ∈ topNames) {value : Value}
    (found : lookup? name (namedSettings given) = some value) :
    ∃ key, (key, value) ∈ given ∧ LetterCase.lowered key = name := by
  have distinct : (topNames.map id).Nodup := by
    rw [List.map_id]
    exact topNames_nodup
  have first : lookup? name (namedSettings given) = firstNamed? name given :=
    lookup?_gather (firstNamed? · given) distinct member
  rw [first, firstNamed?, Option.map_eq_some_iff] at found
  rcases found with ⟨⟨key, _⟩, listed, rfl⟩
  have named := List.find?_some listed
  exact ⟨key, List.mem_of_find?_eq_some listed, beq_iff_eq.mp named⟩

/-- The built-in library does what is documented. -/
theorem Library.builtIn_documented : Library.builtIn.Documented where
  builds := by
    intro order environment given plain
    have noOption : given.find? (fun entry => plainSteps.isOption entry.1) = none := by
      rw [List.find?_eq_none]
      intro entry member
      have isPlain : (!plainSteps.isOption entry.1) = true :=
        List.all_eq_true.mp plain entry member
      simpa using isPlain
    simp only [builtIn, noOption]
  nothingOver := mergeFields_nil
  deep := by
    intro lower upper distinct key
    rw [funext (overlaid_builtIn (lookup? key lower))]
    exact lookup?_mergeFields lower distinct key
  stops _ _ := Environment.settingFields_eq_error_iff
  gives _ _ := Environment.isVariableLayer_of_settingFields
  given _ _ member _ := exists_key_of_namedSettings member
  plain _ _ read := (follows_of_readSettings read).2
  isObject _ _ read := (follows_of_readPolicyAmong (follows_of_readSettings read).1).1
  policy _ _ read := (follows_of_readPolicyAmong (follows_of_readSettings read).1).2
  refuses _ _ _ := isObject_eq_false_of_follows

end TypeGauge.Setup
