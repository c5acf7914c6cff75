import TypeGauge.Proofs.Data.Fields
import TypeGauge.Proofs.Outcome
import TypeGauge.Proofs.Setup.Environment
import TypeGauge.Proofs.Setup.Library
import TypeGauge.Setup.VariableLayer

/-!
# The layer of the variables

A variable for one field of the policy puts its text under the name of the field.  No
other variable changes that: two variables that lead to the same place would have the
same name, and a variable that leads further down leads nowhere once a text is in the way.
The text stays there when the fields are laid over a document for the whole policy and
when keys are put right, because no key is put right to the name of a field.  Conversely
a text or a value in the policy can be followed back to the variable that it is from.

So the settings that the variables of an environment give are the layer that is documented.
-/

namespace TypeGauge.Setup

open TypeGauge.Data TypeGauge.Data.Value TypeGauge.Text

/-! ## The policy that is given field by field -/

theorem nodup_placeUnder
    (content : String) (keys : List String) {fields : List (String × Value)}
    (distinct : (fields.map Prod.fst).Nodup) :
    ((placeUnder content keys fields).map Prod.fst).Nodup := by
  fun_cases placeUnder content keys fields with
  | case1 => exact distinct
  | case2 last => exact nodup_putField distinct _ _
  | case3 => exact nodup_putField distinct _ _
  | case4 => exact nodup_putField distinct _ _
  | case5 => exact distinct

/-- A text under a key stays where it is unless the same key is given again. -/
theorem lookup?_placeUnder_other
    {key text : String} {fields : List (String × Value)}
    (placed : lookup? key fields = some (.text text))
    (content : String) {keys : List String} (different : keys ≠ [key]) :
    lookup? key (placeUnder content keys fields) = some (.text text) := by
  fun_cases placeUnder content keys fields with
  | case1 => exact placed
  | case2 last =>
      have elsewhere : key ≠ last := by
        rintro rfl
        exact different rfl
      rw [lookup?_putField, if_neg elsewhere, placed]
  | case3 first rest _ _ absent =>
      have elsewhere : key ≠ first := by
        rintro rfl
        rw [placed] at absent
        cases absent
      rw [lookup?_putField, if_neg elsewhere, placed]
  | case4 first rest _ _ _ found =>
      have elsewhere : key ≠ first := by
        rintro rfl
        rw [placed] at found
        cases found
      rw [lookup?_putField, if_neg elsewhere, placed]
  | case5 => exact placed

namespace Environment

/-- Fields of the policy with one more variable. -/
def placeVariable (fields : List (String × Value)) (entry : String × String) :
    List (String × Value) :=
  match policyPath? entry.1 with
  | some keys => placeUnder entry.2 keys fields
  | none => fields

theorem nodup_policyFields (environment : Environment) :
    (environment.policyFields.map Prod.fst).Nodup := by
  have invariant : ∀ (entries : List (String × String)) (fields : List (String × Value)),
      (fields.map Prod.fst).Nodup →
        ((entries.foldl placeVariable fields).map Prod.fst).Nodup := by
    intro entries
    induction entries with
    | nil =>
        intro fields distinct
        exact distinct
    | cons entry rest hypothesis =>
        intro fields distinct
        apply hypothesis
        rw [placeVariable]
        split
        · exact nodup_placeUnder _ _ distinct
        · exact distinct
  exact invariant _ [] List.nodup_nil

theorem lookup?_foldl_placeVariable
    {key text : String} {entries : List (String × String)}
    (elsewhere : policyStart ++ key ∉ entries.map Prod.fst)
    {fields : List (String × Value)} (placed : lookup? key fields = some (.text text)) :
    lookup? key (entries.foldl placeVariable fields) = some (.text text) := by
  induction entries generalizing fields with
  | nil => exact placed
  | cons entry rest hypothesis =>
      rw [List.map_cons, List.mem_cons, not_or] at elsewhere
      apply hypothesis elsewhere.2
      rw [placeVariable]
      split
      · rename_i keys leads
        apply lookup?_placeUnder_other placed
        rintro rfl
        exact elsewhere.1 (eq_of_policyPath? leads).symm
      · exact placed

/-- The variable that leads straight to a key puts its text there. -/
theorem lookup?_policyFields
    {environment : Environment} {key content : String}
    (leads : policyPath? (policyStart ++ key) = some [key])
    (given : environment.lowered.value? (policyStart ++ key) = some content) :
    lookup? key environment.policyFields = some (.text content) := by
  rcases List.lookup_eq_some_iff.mp given with ⟨before, after, split, _⟩
  have distinct := environment.nodup_lowered
  rw [split, List.map_append, List.map_cons] at distinct
  have elsewhere : policyStart ++ key ∉ after.map Prod.fst :=
    (List.nodup_cons.mp (List.nodup_append.mp distinct).2.1).1
  have folded : environment.policyFields =
      (before ++ (policyStart ++ key, content) :: after).foldl placeVariable [] := by
    rw [← split]
    rfl
  rw [folded, List.foldl_append, List.foldl_cons]
  apply lookup?_foldl_placeVariable elsewhere
  rw [placeVariable, leads]
  exact lookup?_putField_same key (.text content) _

end Environment

/-! ## Keys that are put right -/

/-- No key is put right to the name of a field, which is right already. -/
theorem environmentKey_eq_name_iff (key : String) (field : PolicyField) :
    environmentKey key = field.name ↔ key = field.name := by
  have unlike : ∀ other : PolicyField, other.alternate ≠ field.name := by
    intro other
    cases other <;> cases field <;> decide
  have own : environmentKey field.name = field.name := by
    cases field <;> decide +kernel
  constructor
  · intro same
    rw [environmentKey] at same
    split at same
    · exact absurd same (unlike _)
    · exact same
  · rintro rfl
    exact own

theorem nodup_withEnvironmentKeys (fields : List (String × Value)) :
    ((withEnvironmentKeys fields).map Prod.fst).Nodup := by
  have invariant : ∀ (entries done : List (String × Value)), (done.map Prod.fst).Nodup →
      ((entries.foldl (fun done entry => putField (environmentKey entry.1) entry.2 done)
        done).map Prod.fst).Nodup := by
    intro entries
    induction entries with
    | nil =>
        intro done distinct
        exact distinct
    | cons entry rest hypothesis =>
        intro done distinct
        exact hypothesis _ (nodup_putField distinct _ _)
  exact invariant fields [] List.nodup_nil

theorem lookup?_withEnvironmentKeys
    {fields : List (String × Value)} (distinct : (fields.map Prod.fst).Nodup)
    (field : PolicyField) :
    lookup? field.name (withEnvironmentKeys fields) = lookup? field.name fields := by
  have invariant : ∀ (entries done : List (String × Value)), (entries.map Prod.fst).Nodup →
      lookup? field.name
          (entries.foldl (fun done entry => putField (environmentKey entry.1) entry.2 done) done) =
        (lookup? field.name entries).or (lookup? field.name done) := by
    intro entries
    induction entries with
    | nil =>
        intro done _
        rfl
    | cons entry rest hypothesis =>
        obtain ⟨name, value⟩ := entry
        intro done entriesDistinct
        rw [List.map_cons, List.nodup_cons] at entriesDistinct
        rw [List.foldl_cons, hypothesis _ entriesDistinct.2, lookup?_putField, lookup?]
        have right : field.name = environmentKey name ↔ name = field.name := by
          rw [eq_comm, environmentKey_eq_name_iff]
        simp only [right]
        by_cases here : name = field.name
        · have absent : lookup? field.name rest = none := by
            rw [lookup?_eq_none_iff, ← here]
            exact entriesDistinct.1
          simp [here, absent]
        · simp [here]
  rw [withEnvironmentKeys, invariant fields [] distinct]
  simp [lookup?]

/-! ## Documents for the whole policy -/

theorem nodup_of_readFields
    {supply room : Nat} {done fields : List (String × Value)} {characters rest : List Char}
    (distinct : (done.map Prod.fst).Nodup)
    (read : Json.readFields supply room done characters = .ok (.object fields, rest)) :
    (fields.map Prod.fst).Nodup := by
  induction supply generalizing done characters with
  | zero => simp [Json.readFields] at read
  | succ supply hypothesis =>
      unfold Json.readFields at read
      split at read
      · rw [bind_eq_ok_iff] at read
        rcases read with ⟨⟨name, afterName⟩, _, read⟩
        simp only at read
        split at read
        · rw [bind_eq_ok_iff] at read
          rcases read with ⟨⟨value, afterValue⟩, _, read⟩
          simp only at read
          have larger := nodup_putField distinct name value
          split at read
          · cases read
            exact larger
          · exact hypothesis larger read
          · cases read
        · cases read
      · cases read

theorem kind_of_readNumber
    {start characters rest : List Char} {negative : Bool} {value : Value}
    (read : Json.readNumber start characters negative = .ok (value, rest)) :
    value.kind ≠ .object := by
  unfold Json.readNumber at read
  simp only at read
  split at read
  -- However the whole part is cut off, what is read is a whole number or a double.
  all_goals
    split at read
    · cases read
    · split at read
      · split at read
        · cases read
        · cases read
          simp [Value.kind]
      · cases read
        simp [Value.kind]

theorem kind_of_readScalar
    {supply : Nat} {characters rest : List Char} {value : Value}
    (read : Json.readScalar supply characters = .ok (value, rest)) : value.kind ≠ .object := by
  have plain : ∀ word ∈ Json.words, word.2.kind ≠ .object := by decide
  unfold Json.readScalar at read
  split at read
  · cases read
  · split at read
    · rw [bind_eq_ok_iff] at read
      rcases read with ⟨⟨content, after⟩, _, ended⟩
      cases ended
      simp [Value.kind]
    · split at read
      · rename_i found word
        cases read
        rw [Json.readWord?, Option.map_eq_some_iff] at word
        rcases word with ⟨word, listed, same⟩
        cases same
        exact plain word (List.mem_of_find?_eq_some listed)
      · split at read
        · exact kind_of_readNumber read
        · exact kind_of_readNumber read

theorem kind_of_readItems
    {supply room : Nat} {done : List Value} {characters rest : List Char} {value : Value}
    (read : Json.readItems supply room done characters = .ok (value, rest)) :
    value.kind ≠ .object := by
  induction supply generalizing done characters with
  | zero => simp [Json.readItems] at read
  | succ supply hypothesis =>
      unfold Json.readItems at read
      rw [bind_eq_ok_iff] at read
      rcases read with ⟨⟨item, after⟩, _, read⟩
      simp only at read
      split at read
      · cases read
        simp [Value.kind]
      · exact hypothesis read
      · cases read

/-- The keys of an object in a document are all different. -/
theorem nodup_of_readDocument
    {room : Nat} {characters : List Char} {fields : List (String × Value)}
    (read : Json.readDocument room characters = .ok (.object fields)) :
    (fields.map Prod.fst).Nodup := by
  have ofValue : ∀ (supply room : Nat) (characters rest : List Char),
      Json.readValue supply room characters = .ok (.object fields, rest) →
        (fields.map Prod.fst).Nodup := by
    intro supply room characters rest read
    unfold Json.readValue at read
    split at read
    · cases read
    · split at read
      · split at read
        · cases read
        · split at read
          · cases read
            exact List.nodup_nil
          · exact nodup_of_readFields (by simp) read
      · split at read
        · cases read
        · split at read
          · cases read
          · exact absurd rfl (kind_of_readItems read)
      · exact absurd rfl (kind_of_readScalar read)
  unfold Json.readDocument at read
  split at read
  · cases read
  · rw [bind_eq_ok_iff] at read
    rcases read with ⟨⟨value, rest⟩, valueRead, read⟩
    simp only at read
    split at read
    · cases read
      exact ofValue _ _ _ _ valueRead
    · cases read

/-! ## The policy of an environment -/

namespace Environment

theorem policyPath?_name (field : PolicyField) :
    policyPath? (policyStart ++ field.name) = some [field.name] := by
  cases field <;> decide +kernel

/-- The policy of an environment has different keys, and the texts of variables under names. -/
theorem policyValue_spec
    {environment : Environment} {upper : List (String × Value)}
    (policy : environment.policyValue = .ok (some (.object upper))) :
    (upper.map Prod.fst).Nodup ∧
      ∀ (field : PolicyField) (content : String),
        environment.lowered.value? (policyStart ++ field.name) = some content →
          lookup? field.name upper = some (.text content) := by
  have given : ∀ (field : PolicyField) (content : String),
      environment.lowered.value? (policyStart ++ field.name) = some content →
        lookup? field.name environment.policyFields = some (.text content) := by
    intro field content found
    exact lookup?_policyFields (policyPath?_name field) found
  have distinct := environment.nodup_policyFields
  rw [policyValue] at policy
  split at policy
  · split at policy
    · cases policy
    · cases policy
      refine ⟨nodup_withEnvironmentKeys _, ?_⟩
      intro field content found
      rw [lookup?_withEnvironmentKeys distinct]
      exact given field content found
  · split at policy
    · cases policy
    · cases policy
    · cases policy
    · rename_i fields read
      cases policy
      refine ⟨nodup_withEnvironmentKeys _, ?_⟩
      intro field content found
      have merged := nodup_mergeFields (nodup_of_readDocument read) environment.policyFields
      rw [lookup?_withEnvironmentKeys merged, lookup?_mergeFields _ distinct,
        given field content found]
      simp
    · rename_i notObject _
      cases policy
      exact absurd rfl (notObject upper)

end Environment

/-! ## Where the values are from -/

theorem lookup?_placeUnder_cases
    {content : String} {keys : List String} {fields : List (String × Value)} {key : String}
    {value : Value} (found : lookup? key (placeUnder content keys fields) = some value) :
    lookup? key fields = some value ∨ value.isObject = true ∨
      keys = [key] ∧ value = .text content := by
  revert found
  fun_cases placeUnder content keys fields with
  | case1 => exact .inl
  | case2 last =>
      rw [lookup?_putField]
      split
      · rename_i here
        rintro ⟨⟩
        exact .inr (.inr ⟨by rw [here], rfl⟩)
      · exact .inl
  | case3 | case4 =>
      rw [lookup?_putField]
      split
      · rintro ⟨⟩
        exact .inr (.inl rfl)
      · exact .inl
  | case5 => exact .inl

/-- Under a key of the policy that is given field by field stands an object or a variable's text. -/
theorem Environment.lookup?_policyFields_cases
    {environment : Environment} {key : String} {value : Value}
    (found : lookup? key environment.policyFields = some value) :
    value.isObject = true ∨
      ∃ name content, (name, content) ∈ environment.assignments ∧
        policyPath? (LetterCase.lowered name) = some [key] ∧ value = .text content := by
  revert key value
  refine List.foldlRecOn environment.lowered.assignments _ (motive := fun fields =>
    ∀ {key : String} {value : Value}, lookup? key fields = some value → value.isObject = true ∨
      ∃ name content, (name, content) ∈ environment.assignments ∧
        policyPath? (LetterCase.lowered name) = some [key] ∧ value = .text content) ?_ ?_
  · intro key value found
    cases found
  · intro fields known entry listed key value found
    rcases exists_assigned_of_mem_lowered listed with ⟨name, assigned, lowered⟩
    split at found
    · rename_i keys leads
      rcases lookup?_placeUnder_cases found with earlier | isObject | ⟨rfl, rfl⟩
      · exact known earlier
      · exact .inl isObject
      · exact .inr ⟨name, entry.2, assigned, by rw [lowered, leads], rfl⟩
    · exact known found

theorem exists_key_of_lookup?_withEnvironmentKeys
    {fields : List (String × Value)} {key : String} {value : Value}
    (found : lookup? key (withEnvironmentKeys fields) = some value) :
    ∃ own, (own, value) ∈ fields ∧ environmentKey own = key := by
  revert key value
  refine List.foldlRecOn fields _ (motive := fun done =>
    ∀ {key : String} {value : Value}, lookup? key done = some value →
      ∃ own, (own, value) ∈ fields ∧ environmentKey own = key) ?_ ?_
  · intro key value found
    cases found
  · intro done known entry listed key value found
    rw [lookup?_putField] at found
    split at found
    · rename_i here
      cases found
      exact ⟨entry.1, listed, here.symm⟩
    · exact known found

theorem lowered_environmentKey (name : String) :
    LetterCase.lowered (environmentKey name) = LetterCase.lowered name := by
  rw [environmentKey]
  split
  · rename_i field found
    have same := List.find?_some found
    exact beq_iff_eq.mp same
  · rfl

/-- What stands in the policy of an environment is from a variable, unless it is an object. -/
theorem Environment.offers_of_policyValue
    {environment : Environment} {upper : List (String × Value)}
    (policy : environment.policyValue = .ok (some (.object upper))) {key : String} {value : Value}
    (found : lookup? key upper = some value) :
    value.isObject = true ∨ environment.Offers key value := by
  have distinct := environment.nodup_policyFields
  rw [policyValue] at policy
  split at policy
  · split at policy
    · cases policy
    · cases policy
      rcases exists_key_of_lookup?_withEnvironmentKeys found with ⟨own, listed, rfl⟩
      rw [← lookup?_eq_some_iff distinct] at listed
      rcases lookup?_policyFields_cases listed with isObject | ⟨name, content, assigned, leads, rfl⟩
      · exact .inl isObject
      · exact .inr (.part assigned leads (lowered_environmentKey own).symm)
  · rename_i content given
    rcases exists_assigned_of_value? given with ⟨name, assigned, named⟩
    split at policy
    · cases policy
    · cases policy
    · cases policy
    · rename_i fields read
      cases policy
      rcases exists_key_of_lookup?_withEnvironmentKeys found with ⟨own, listed, rfl⟩
      have merged := nodup_mergeFields (nodup_of_readDocument read) environment.policyFields
      rw [← lookup?_eq_some_iff merged, lookup?_mergeFields _ distinct] at listed
      -- A part that is given on its own is laid over the document's, which counts elsewhere.
      cases partGiven : lookup? own environment.policyFields with
      | none =>
          rw [partGiven, Option.map_none, Option.none_or] at listed
          exact .inr (.document assigned named read listed (lowered_environmentKey own).symm)
      | some part =>
          rw [partGiven, Option.map_some, Option.some_or, Option.some.injEq] at listed
          subst listed
          rcases lookup?_policyFields_cases partGiven with
            isObject | ⟨part, content, assigned, leads, rfl⟩
          · exact .inl (isObject_mergeValue _ isObject)
          · rw [mergeValue_text]
            exact .inr (.part assigned leads (lowered_environmentKey own).symm)
    · rename_i notObject _
      cases policy
      exact absurd rfl (notObject upper)

/-! ## The whole layer -/

/-- The text of the variable of a setting outside the policy, in any letter case. -/
def Environment.plainText? (environment : Environment) (field : PlainField) : Option Value :=
  (environment.lowered.value? (settingName field.name)).map .text

/-- The settings at the top, the policy first. -/
def tops : List (Option PlainField) :=
  none :: PlainField.all.map some

/-- The name of a setting at the top; without a field it is the policy. -/
def topName (top? : Option PlainField) : String :=
  top?.elim policyKey PlainField.name

/-- What an environment with the given policy has for a setting at the top. -/
def Environment.topValue? (environment : Environment) (policy? : Option Value)
    (top? : Option PlainField) : Option Value :=
  top?.elim policy? environment.plainText?

theorem topNames_nodup : topNames.Nodup := by
  decide

namespace Environment

variable {environment : Environment}

theorem eq_gather_of_settingFields {fields : List (String × Value)}
    (given : environment.settingFields = .ok fields) :
    ∃ policy? : Option Value, environment.policyValue = .ok policy? ∧
      fields = gather topName (environment.topValue? policy?) tops := by
  have plain : environment.plainFields =
      gather PlainField.name environment.plainText? PlainField.all := by
    simp [plainFields, gather, plainText?, Function.comp_def]
  rw [settingFields, bind_eq_ok_iff] at given
  rcases given with ⟨policy?, policyGiven, ended⟩
  refine ⟨policy?, policyGiven, ?_⟩
  cases policy? with
  | none =>
      cases ended
      rw [plain]
      rfl
  | some policy =>
      cases ended
      rw [plain]
      rfl

/-- The settings of an environment are its policy and the texts of its variables. -/
theorem settingFields_spec {fields : List (String × Value)}
    (given : environment.settingFields = .ok fields) :
    environment.policyValue = .ok (lookup? policyKey fields) ∧
      (fields.map Prod.fst).Sublist topNames ∧
      ∀ field : PlainField, lookup? field.name fields = environment.plainText? field := by
  rcases eq_gather_of_settingFields given with ⟨policy?, policyGiven, rfl⟩
  have distinct : (tops.map topName).Nodup := topNames_nodup
  have policy : lookup? policyKey (gather topName (environment.topValue? policy?) tops) = policy? :=
    lookup?_gather (environment.topValue? policy?) distinct List.mem_cons_self
  refine ⟨by rw [policyGiven, policy], keys_gather_sublist topName _ tops, ?_⟩
  intro field
  have member : some field ∈ tops := by
    cases field <;> decide
  exact lookup?_gather (environment.topValue? policy?) distinct member

/-- Without a policy either no variable names a field of it or it is taken away. -/
theorem takesPolicyAway_of_policyValue (absent : environment.policyValue = .ok none)
    {field : PolicyField} {content : String}
    (given : environment.lowered.value? (policyStart ++ field.name) = some content) :
    environment.TakesPolicyAway := by
  have placed := lookup?_policyFields (policyPath?_name field) given
  rw [policyValue] at absent
  split at absent
  · split at absent
    · rename_i nothing
      rw [nothing] at placed
      cases placed
    · cases absent
  · rename_i document whole
    split at absent
    · cases absent
    · cases absent
    · rename_i read
      exact ⟨document, whole, read⟩
    · cases absent
    · cases absent

/-- What the variables of an environment give is the layer that is documented. -/
theorem isVariableLayer_of_settingFields {fields : List (String × Value)}
    (given : environment.settingFields = .ok fields) : IsVariableLayer environment fields := by
  rcases settingFields_spec given with ⟨policyGiven, keys, plain⟩
  refine ⟨keys.nodup topNames_nodup, plain, ?_, ?_, ?_, ?_⟩
  · intro field content placed absent
    rw [absent] at policyGiven
    exact takesPolicyAway_of_policyValue policyGiven placed
  · intro policy found
    rw [found] at policyGiven
    exact (policyValue_spec policyGiven).1
  · intro policy found
    rw [found] at policyGiven
    exact (policyValue_spec policyGiven).2
  · intro policy found field key _ value
    rw [found] at policyGiven
    exact offers_of_policyValue policyGiven

theorem settingFields_eq_error_iff {interruption : Interruption} :
    environment.settingFields = .error interruption ↔
      VariableInterrupts environment interruption := by
  rw [settingFields, bind_eq_error_iff]
  constructor
  · rintro (stopped | ⟨policy?, _, stopped⟩)
    · rw [policyValue] at stopped
      split at stopped
      · split at stopped <;> cases stopped
      · rename_i content given
        split at stopped <;> cases stopped
        · rename_i refused
          exact .tooDeep given refused
        · rename_i refusal isShallow refused
          exact .malformed given refused isShallow
    · cases policy? with
      | none => cases stopped
      | some policy => cases stopped
  · intro interrupts
    left
    rw [policyValue]
    cases interrupts with
    | tooDeep given refused =>
        rw [PolicyText] at given
        simp [given, refused]
    | @malformed content refusal given refused isShallow =>
        rw [PolicyText] at given
        cases refusal with
        | tooDeep => exact absurd rfl isShallow
        | complaint | tooManyDigits => simp [given, refused]

end Environment

end TypeGauge.Setup
