import TypeGauge.Proofs.Setup.BuiltIn
import TypeGauge.Setup.Configuration

/-!
# Which source a setting follows

The settings library merges its layers key by key before the two names of a policy field
are told apart.  So a field follows the first of four places: its alternate name in the
layer of the variables, its alternate name in the layer of the file, its name in the layer
of the variables and its name in the layer of the file.  A setting outside the policy
follows its variable before the file.

A variable that is listed as replacing a setting therefore does so when it has no rival:
no later variable of its name in other letters, no alternate name for its field in a
variable or in the file, no document that takes the policy of the variables away, and no
option in the file that tells the library to look elsewhere.
-/

namespace TypeGauge.Setup

open TypeGauge.Data TypeGauge.Data.Value TypeGauge.Files TypeGauge.Text

/-! ## The layers of a policy -/

/-- What a field of the policy follows, given the policies of the file and of the variables. -/
def policySource? (file upper : Value) (field : PolicyField) : Option Value :=
  (upper.field? field.alternate).or <|
    (file.field? field.alternate).or <|
      (upper.field? field.name).or (file.field? field.name)

/-- What a setting follows, given the layers of the file and of the variables. -/
def settingSource? (file upper : List (String × Value)) : SettingKey → Option Value
  | .policy field =>
      policySource? ((lookup? policyKey file).getD .null) ((lookup? policyKey upper).getD .null)
        field
  | .plain field => (lookup? field.name upper).or (lookup? field.name file)

section Layers

variable {library : Library} (documented : library.Documented)
include documented

theorem field?_overlaid
    (lower : Option Value) {upper : List (String × Value)}
    (distinct : (upper.map Prod.fst).Nodup) (key : String) :
    (library.overlaid lower (.object upper)).field? key =
      ((lookup? key upper).map (library.overlaid ((lower.getD .null).field? key))).or
        ((lower.getD .null).field? key) := by
  have unmerged : ∀ other : Value, other.field? key = none →
      (Value.object upper).field? key =
        ((lookup? key upper).map (library.overlaid (other.field? key))).or (other.field? key) := by
    intro other absent
    rw [absent, field?, Option.or_none, funext (overlaid_nothing library), Option.map_id']
  cases lower with
  | none => exact unmerged .null rfl
  | some below =>
      cases below with
      | object fields => exact documented.deep fields upper distinct key
      | null | truth | whole | double | text | moment | list => exact unmerged _ rfl

theorem follows_of_merged
    {settings : Settings Float} {field : PolicyField} (file : Option Value)
    {upper : List (String × Value)} (distinct : (upper.map Prod.fst).Nodup)
    (follows : settings.Follows library
      (((library.overlaid file (.object upper)).field? field.alternate).or
        ((library.overlaid file (.object upper)).field? field.name)) (.policy field)) :
    settings.Follows library (policySource? (file.getD .null) (.object upper) field)
      (.policy field) := by
  rw [field?_overlaid documented file distinct, field?_overlaid documented file distinct] at follows
  have own : ∀ key : String, (Value.object upper).field? key = lookup? key upper := by
    intro key
    rfl
  rw [policySource?, own, own]
  revert follows
  -- The two orders differ only in which policy is asked first under each of the names.
  cases lookup? field.alternate upper with
  | some value =>
      intro follows
      exact follows.of_overlaid documented
  | none =>
      cases (file.getD .null).field? field.alternate with
      | some value =>
          intro follows
          exact follows
      | none =>
          cases lookup? field.name upper with
          | some value =>
              intro follows
              exact follows.of_overlaid documented
          | none =>
              intro follows
              exact follows

/-! ## The layers of the settings -/

/-- Without options, the settings of the variables are laid over those of the file. -/
theorem build_eq_of_plain
    (environment : Environment) {given : List (String × Value)}
    (plain : library.arePlain given = true) :
    library.build sources environment given =
      match library.variableLayer environment with
      | .error interruption => .error (.interrupted interruption)
      | .ok upper =>
          (library.validate (library.merge (library.givenLayer given) upper)).mapError
            .refused := by
  rw [documented.builds _ _ _ plain, LibrarySteps.buildLayers, LibrarySteps.layers, sources]
  cases layer : library.variableLayer environment with
  | error interruption =>
      simp [LibrarySteps.layer, layer, bind, Except.bind, Except.mapError]
  | ok upper =>
      simp [LibrarySteps.layer, layer, bind, Except.bind, pure, Except.pure, Except.mapError,
        documented.nothingOver]

theorem exists_variableLayer_of_build
    {environment : Environment} {given : List (String × Value)} {draft : SettingsDraft}
    (plain : library.arePlain given = true)
    (built : library.build sources environment given = .ok draft) :
    ∃ upper, library.variableLayer environment = .ok upper ∧
      library.validate (library.merge (library.givenLayer given) upper) = .ok draft := by
  rw [build_eq_of_plain documented environment plain] at built
  split at built
  · cases built
  · rename_i upper layer
    refine ⟨upper, layer, ?_⟩
    rw [mapError_eq_ok_iff] at built
    exact built

/-- The policy of the variables is an object wherever settings are accepted. -/
theorem isObject_of_validate
    {file upper : List (String × Value)} {draft : SettingsDraft}
    (distinct : (upper.map Prod.fst).Nodup)
    (validated : library.validate (library.merge file upper) = .ok draft)
    {policy : Value} (found : lookup? policyKey upper = some policy) :
    policy.isObject = true := by
  have merged := documented.deep file upper distinct policyKey
  rw [found, Option.map_some, Option.some_or] at merged
  have isObject := documented.isObject _ _ validated _ merged
  cases policy with
  | object fields => rfl
  | null | truth | whole | double | text | moment | list =>
      rw [LibrarySteps.overlaid] at isObject
      · exact isObject
      · simp

/-- Settings that are accepted follow the first source in the order of precedence. -/
theorem follows_of_validate
    {environment : Environment} {file upper : List (String × Value)} {draft : SettingsDraft}
    (layer : IsVariableLayer environment upper)
    (validated : library.validate (library.merge file upper) = .ok draft) (key : SettingKey) :
    draft.complete.Follows library (settingSource? file upper key) key := by
  cases key with
  | plain field =>
      have follows := documented.plain _ _ validated field
      rw [documented.deep _ _ layer.distinct] at follows
      rw [settingSource?]
      cases found : lookup? field.name upper with
      | none =>
          rw [found] at follows
          exact follows
      | some value =>
          rw [found] at follows
          exact follows.of_overlaid documented
  | policy field =>
      have follows := documented.policy _ _ validated field
      rw [documented.deep _ _ layer.distinct] at follows
      rw [settingSource?]
      cases found : lookup? policyKey upper with
      | none =>
          rw [found] at follows
          exact follows
      | some policy =>
          have isObject := isObject_of_validate documented layer.distinct validated found
          rw [found] at follows
          cases policy with
          | object fields =>
              exact follows_of_merged documented _ (layer.distinctParts _ found) follows
          | null | truth | whole | double | text | moment | list => cases isObject

end Layers

/-! ## Precedence -/

/-- Nothing counts for more than the content of a setting's variable. -/
structure Unrivalled (library : Library) (given : List (String × Value))
    (environment : Environment) (key : SettingKey) (content : String) : Prop where
  /-- The file sets no option of the library. -/
  arePlain : library.arePlain given = true
  /-- No later variable has the same name in other letters. -/
  isLast : environment.lowered.value? (LetterCase.lowered key.variableName) = some content
  /-- No document takes the policy of the variables away. -/
  isGiven : ∀ field, key = .policy field → ¬ environment.TakesPolicyAway
  /-- No variable has the alternate name of the field. -/
  notAbove : ∀ field, key = .policy field → ∀ value, ¬ environment.Offers field.alternate value
  /-- No policy of the file has the alternate name of the field. -/
  notBelow : ∀ field, key = .policy field → ∀ name policy, (name, policy) ∈ given →
    LetterCase.lowered name = policyKey → policy.field? field.alternate = none

/-- Accepted settings follow a variable that has no rival. -/
theorem Unrivalled.follows
    {library : Library} (documented : library.Documented) {given : List (String × Value)}
    {environment : Environment} {draft : SettingsDraft} {key : SettingKey} {content : String}
    (unrivalled : Unrivalled library given environment key content)
    (built : library.build sources environment given = .ok draft) :
    draft.complete.Follows library (some (.text content)) key := by
  rcases exists_variableLayer_of_build documented unrivalled.arePlain built with
    ⟨upper, layered, validated⟩
  have layer := documented.gives _ _ layered
  have follows := follows_of_validate documented layer validated key
  have last := unrivalled.isLast
  cases key with
  | plain field =>
      rw [lowered_variableName_plain] at last
      rw [settingSource?, layer.plain field, last] at follows
      exact follows
  | policy field =>
      rw [lowered_variableName_policy] at last
      cases found : lookup? policyKey upper with
      | none => exact absurd (layer.isGiven field content last found) (unrivalled.isGiven field rfl)
      | some policy =>
          have isObject := isObject_of_validate documented layer.distinct validated found
          cases policy with
          | object fields =>
              have placed := layer.part fields found field content last
              have below : ((lookup? policyKey (library.givenLayer given)).getD .null).field?
                  field.alternate = none := by
                cases inFile : lookup? policyKey (library.givenLayer given) with
                | none => rfl
                | some policy =>
                    rcases documented.given _ _ List.mem_cons_self _ inFile with
                      ⟨name, listed, named⟩
                    exact unrivalled.notBelow field rfl name policy listed named
              rw [settingSource?, policySource?, below, found, Option.getD_some, field?, field?,
                placed] at follows
              cases above : lookup? field.alternate fields with
              | none =>
                  rw [above] at follows
                  exact follows
              | some value =>
                  rw [above] at follows
                  rcases layer.offered fields found field _ (.inl rfl) value above with
                    isObject | offered
                  · have plain := documented.refuses _ _ _ follows
                    rw [isObject] at plain
                    cases plain
                  · exact absurd offered (unrivalled.notAbove field rfl value)
          | null | truth | whole | double | text | moment | list => cases isObject

/-- An assembled configuration is built from the given fields, or rejected and left empty. -/
theorem assembled_cases
    {library : Library} {path : Path} {environment added : Environment} {isLoaded : Bool}
    {rejection : Option Rejection} {given : List (String × Value)} {configuration : Configuration}
    (assembled : assemble library path environment added isLoaded rejection given =
      .ok configuration) :
    configuration.overrides = environment.overrides ∧
      (configuration.rejection = rejection ∧
          library.build sources environment given = .ok configuration.given ∨
        configuration.rejection ≠ none ∧ configuration.given = .empty) := by
  rw [assemble] at assembled
  split at assembled
  · cases assembled
  · split at assembled
    · rename_i draft built
      cases assembled
      exact ⟨rfl, .inl ⟨rfl, built⟩⟩
    · cases assembled
      exact ⟨rfl, .inr ⟨nofun, rfl⟩⟩
    · cases assembled

/-- A configuration without a rejection is built from the fields of the file. -/
theorem build_of_loadConfiguration
    {library : Library} {host : Host} {explicit : Option Path} {added : Environment}
    {configuration : Configuration}
    (loaded : loadConfiguration library host explicit added = .ok configuration)
    (accepted : configuration.rejection = none) :
    configuration.overrides = (host.environment added).overrides ∧
      ∃ path given, settingsPath host explicit (host.environment added) = .ok path ∧
        fileFields host.tree path = .ok given ∧
        library.build sources (host.environment added) given = .ok configuration.given := by
  rw [loadConfiguration, bind_eq_ok_iff] at loaded
  rcases loaded with ⟨path, selected, loaded⟩
  split at loaded
  · cases loaded
  · rcases assembled_cases loaded with ⟨_, ⟨kept, _⟩ | ⟨rejected, _⟩⟩
    · cases accepted.symm.trans kept
    · exact absurd accepted rejected
  · rename_i given fileRead
    split at loaded
    · cases loaded
    · rcases assembled_cases loaded with ⟨same, ⟨_, built⟩ | ⟨rejected, _⟩⟩
      · exact ⟨same, path, given, selected, fileRead, built⟩
      · exact absurd accepted rejected

/--
A configuration without a rejection follows the sources of its settings in their order, if
the file sets no option of the library.  So a setting that is listed as replaced has the
value of its variable unless something else for the same setting counts for more.
-/
theorem replaced_settings_follow_their_variables_unless_rivalled
    (library : Library) (documented : library.Documented)
    (host : Host) (explicit : Option Path) (added : Environment) (configuration : Configuration)
    (loaded : loadConfiguration library host explicit added = .ok configuration)
    (accepted : configuration.rejection = none)
    (key : SettingKey) (listed : key.dotted ∈ configuration.overrides) :
    ∃ path given content,
      settingsPath host explicit (host.environment added) = .ok path ∧
        fileFields host.tree path = .ok given ∧
        (host.environment added).value? key.variableName = some content ∧
        (library.arePlain given = true →
          ∃ upper, library.variableLayer (host.environment added) = .ok upper ∧
            configuration.settings.Follows library
              (settingSource? (library.givenLayer given) upper key) key) ∧
        (Unrivalled library given (host.environment added) key content →
          configuration.settings.Follows library (some (.text content)) key) := by
  rcases build_of_loadConfiguration loaded accepted with
    ⟨same, path, given, selected, fileRead, built⟩
  rw [same] at listed
  rcases Environment.exists_value_of_dotted_mem listed with ⟨content, found⟩
  refine ⟨path, given, content, selected, fileRead, found, ?_, ?_⟩
  · intro plain
    rcases exists_variableLayer_of_build documented plain built with ⟨upper, layered, validated⟩
    exact ⟨upper, layered,
      follows_of_validate documented (documented.gives _ _ layered) validated key⟩
  · intro unrivalled
    exact unrivalled.follows documented built

/-- The settings file of the examples. -/
def depthPath : Path :=
  ⟨.relative, ["settings.json"]⟩

/-- A host without variables, with a settings file of the given content. -/
def hostWith (content : String) : Host :=
  ⟨⟨[(depthPath, .file content.toUTF8.toList)]⟩, .empty, .nobody⟩

/-- A host with a settings file that gives a depth of one under the given name. -/
def depthHost (name : String) : Host :=
  hostWith ("\x7b\"policy\":\x7b\"" ++ name ++ "\":1\x7d\x7d")

/-- A variable that gives a depth of three. -/
def threeDeep : Environment :=
  ⟨[("IANITOR_POLICY__ENTRY_DEPTH", "3")]⟩

/-- Under its name the depth of the file gives way to that of the variable. -/
theorem depth_under_its_name_is_replaced :
    ∃ configuration,
      loadConfiguration .builtIn (depthHost "entry_depth") (some depthPath) threeDeep =
          .ok configuration ∧
        configuration.rejection = none ∧ "policy.entry_depth" ∈ configuration.overrides ∧
        configuration.settings.policy.entryDepth = 3 := by
  have loaded : ((loadConfiguration .builtIn (depthHost "entry_depth") (some depthPath)
      threeDeep).toOption.any fun configuration =>
        configuration.rejection.isNone && configuration.overrides.contains "policy.entry_depth") =
      true := by
    decide +kernel
  have file : ((fileFields (depthHost "entry_depth").tree depthPath).toOption.all fun given =>
      Library.builtIn.arePlain given &&
        given.all fun entry => (entry.2.field? "entryDepth").isNone) = true := by
    decide +kernel
  rcases exists_ok_of_any loaded with ⟨configuration, loaded, checked⟩
  rw [Bool.and_eq_true, Option.isNone_iff_eq_none, List.contains_iff_mem] at checked
  rcases replaced_settings_follow_their_variables_unless_rivalled .builtIn
    Library.builtIn_documented _ _ _ _ loaded checked.1 (.policy .entryDepth) checked.2 with
    ⟨path, given, content, selected, fileRead, found, _, follows⟩
  have contents : content = "3" := by
    have three : ((depthHost "entry_depth").environment threeDeep).value?
        (SettingKey.policy .entryDepth).variableName = some "3" := by
      decide +kernel
    exact Option.some.inj (found.symm.trans three)
  cases selected
  rw [fileRead, Except.toOption, Option.all_some, Bool.and_eq_true] at file
  subst contents
  have unrivalled : Unrivalled .builtIn given ((depthHost "entry_depth").environment threeDeep)
      (.policy .entryDepth) "3" := by
    refine ⟨file.1, by decide +kernel, ?_, ?_, ?_⟩
    · rintro _ ⟨⟩ ⟨content, isText, _⟩
      have none : ((depthHost "entry_depth").environment threeDeep).lowered.value?
          (Environment.settingName policyKey) = none := by
        decide +kernel
      rw [Environment.PolicyText, none] at isText
      cases isText
    · rintro _ ⟨⟩ value offered
      cases offered with
      | part assigned leads spelled =>
          cases List.mem_singleton.mp assigned
          have alone : Environment.policyPath? (LetterCase.lowered "IANITOR_POLICY__ENTRY_DEPTH") =
              some ["entry_depth"] := by
            decide +kernel
          rw [alone] at leads
          cases leads
          exact absurd spelled (by decide +kernel)
      | document assigned named read given spelled =>
          cases List.mem_singleton.mp assigned
          exact absurd named (by decide +kernel)
    · rintro _ ⟨⟩ name policy listed _
      exact Option.isNone_iff_eq_none.mp (List.all_eq_true.mp file.2 _ listed)
  have depth : readUnhalved readWhole (.text "3") =
      .ok configuration.settings.policy.entryDepth :=
    follows unrivalled
  have three : readUnhalved readWhole (.text "3") = .ok 3 := by
    decide +kernel
  exact ⟨configuration, loaded, checked.1, checked.2, Except.ok.inj (depth.symm.trans three)⟩

/-- Under its alternate name the depth of the file stands, though it is listed as replaced. -/
theorem depth_under_its_alternate_name_is_kept :
    threeDeep.value? (SettingKey.policy .entryDepth).variableName = some "3" ∧
    ∃ configuration,
      loadConfiguration .builtIn (depthHost "entryDepth") (some depthPath) threeDeep =
          .ok configuration ∧
        configuration.rejection = none ∧
        (SettingKey.policy .entryDepth).dotted ∈ configuration.overrides ∧
        configuration.settings.policy.entryDepth = 1 ∧
        ¬ configuration.settings.Follows .builtIn (some (.text "3")) (.policy .entryDepth) := by
  refine ⟨by decide +kernel, ?_⟩
  have loaded : ((loadConfiguration .builtIn (depthHost "entryDepth") (some depthPath)
      threeDeep).toOption.any fun configuration =>
        (configuration.rejection.isNone && configuration.overrides.contains "policy.entry_depth") &&
          configuration.settings.policy.entryDepth == 1) = true := by
    decide +kernel
  rcases exists_ok_of_any loaded with ⟨configuration, loaded, checked⟩
  rw [Bool.and_eq_true, Bool.and_eq_true, Option.isNone_iff_eq_none, List.contains_iff_mem,
    beq_iff_eq] at checked
  rcases checked with ⟨⟨accepted, listed⟩, depth⟩
  refine ⟨configuration, loaded, accepted, listed, depth, ?_⟩
  intro follows
  have read : readUnhalved readWhole (.text "3") =
      .ok configuration.settings.policy.entryDepth := follows
  have three : readUnhalved readWhole (.text "3") = .ok 3 := by
    decide +kernel
  rw [depth, three] at read
  cases read

end TypeGauge.Setup
