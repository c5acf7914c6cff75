import TypeGauge.Data.Json.Reader
import TypeGauge.Nesting
import TypeGauge.Setup.Library

/-!
# What is documented of the settings library

The library that puts settings together is known by its documentation only, and
`Library.Documented` collects what this program relies on.  Without options the settings
are built from the layers of the sources.  Layers are merged key by key and so are the
objects in them.  A field of the policy is read under its alternate name if that is there
and under its name otherwise.  Variables give texts under the names that they spell, a
document for the whole policy, and nothing else.  Nothing is assumed about options.

A setting `Follows` a source when its value is what the library reads there.
-/

namespace TypeGauge.Setup

open TypeGauge.Data TypeGauge.Data.Value TypeGauge.Text

/-! ## Following a source -/

/-- A result is what a source reads as, or the standard one where there is no source. -/
def IsReadFrom {α : Type} (read : Value → Except Complaint α) (standard : α) :
    Option Value → α → Prop
  | none, result => result = standard
  | some source, result => read source = .ok result

section Following

variable (library : Library)

/-- A field of a policy follows a source. -/
def Policy.Follows (policy : Policy Float) (source? : Option Value) (field : PolicyField) : Prop :=
  let standard := Policy.standard Score.doubles
  match field with
  | .baseThreshold =>
      IsReadFrom library.readNumber standard.baseThreshold source? policy.baseThreshold
  | .warnThreshold =>
      IsReadFrom library.readNumber standard.warnThreshold source? policy.warnThreshold
  | .errorThreshold =>
      IsReadFrom library.readNumber standard.errorThreshold source? policy.errorThreshold
  | .interfacePenalty =>
      IsReadFrom library.readNumber standard.interfacePenalty source? policy.interfacePenalty
  | .performanceMode =>
      IsReadFrom library.readTruth standard.performanceMode source? policy.performanceMode
  | .entryDepth => IsReadFrom library.readWhole standard.entryDepth source? policy.entryDepth

/-- A setting follows a source. -/
def Settings.Follows (settings : Settings Float) (source? : Option Value) (key : SettingKey) :
    Prop :=
  let standard := Settings.standard Score.doubles
  match key with
  | .policy field => settings.policy.Follows library source? field
  | .plain .validatorNamespace =>
      IsReadFrom library.readText standard.validatorNamespace source? settings.validatorNamespace
  | .plain .staticMarker =>
      IsReadFrom library.readText standard.staticMarker source? settings.staticMarker
  | .plain .logLevel => IsReadFrom library.readText standard.logLevel source? settings.logLevel

end Following

/-! ## What variables give -/

namespace Environment

/-- The policy is given as a whole by a variable, with this text. -/
def PolicyText (environment : Environment) (content : String) : Prop :=
  environment.lowered.value? (settingName policyKey) = some content

/-- The policy is given as a whole, and as nothing. -/
def TakesPolicyAway (environment : Environment) : Prop :=
  ∃ content, environment.PolicyText content ∧
    Json.readDocument Nesting.documentRoom content.toList = .ok .null

/-- A variable has this value for a key of the policy, which it spells in any letter case. -/
inductive Offers (environment : Environment) (key : String) : Value → Prop
  /-- The name of the variable leads to the key. -/
  | part {name content own : String}
      (assigned : (name, content) ∈ environment.assignments)
      (leads : policyPath? (LetterCase.lowered name) = some [own])
      (spelled : LetterCase.lowered own = LetterCase.lowered key) :
      Offers environment key (.text content)
  /-- The variable holds a document for the whole policy with the key. -/
  | document {name content own : String} {fields : List (String × Value)} {value : Value}
      (assigned : (name, content) ∈ environment.assignments)
      (named : LetterCase.lowered name = settingName policyKey)
      (read : Json.readDocument Nesting.documentRoom content.toList = .ok (.object fields))
      (given : lookup? own fields = some value)
      (spelled : LetterCase.lowered own = LetterCase.lowered key) :
      Offers environment key value

end Environment

/-- The variable for the whole policy ends the run. -/
inductive VariableInterrupts (environment : Environment) : Interruption → Prop
  | malformed {content : String} {refusal : Json.Refusal}
      (given : environment.PolicyText content)
      (refused : Json.readDocument Nesting.documentRoom content.toList = .error refusal)
      (isShallow : refusal ≠ .tooDeep) :
      VariableInterrupts environment (.malformedVariable policyKey)
  | tooDeep {content : String}
      (given : environment.PolicyText content)
      (refused : Json.readDocument Nesting.documentRoom content.toList = .error .tooDeep) :
      VariableInterrupts environment (.fault .tooDeep)

/-- Fields are the layer that the variables of an environment give. -/
structure IsVariableLayer (environment : Environment) (fields : List (String × Value)) : Prop where
  /-- No name is given twice. -/
  distinct : (fields.map Prod.fst).Nodup
  /-- A setting outside the policy has the text of its variable. -/
  plain : ∀ field : PlainField, lookup? field.name fields =
    (environment.lowered.value? (Environment.settingName field.name)).map .text
  /-- There is a policy where a variable names a field, if it is not taken away. -/
  isGiven : ∀ (field : PolicyField) (content : String),
    environment.lowered.value? (Environment.policyStart ++ field.name) = some content →
      lookup? policyKey fields = none → environment.TakesPolicyAway
  /-- No key of a policy is given twice. -/
  distinctParts : ∀ policy, lookup? policyKey fields = some (.object policy) →
    (policy.map Prod.fst).Nodup
  /-- A policy has the texts of the variables that name its fields. -/
  part : ∀ policy, lookup? policyKey fields = some (.object policy) →
    ∀ (field : PolicyField) (content : String),
      environment.lowered.value? (Environment.policyStart ++ field.name) = some content →
        lookup? field.name policy = some (.text content)
  /-- What stands under either name of a field is an object or from a variable. -/
  offered : ∀ policy, lookup? policyKey fields = some (.object policy) →
    ∀ (field : PolicyField) (key : String), key = field.alternate ∨ key = field.name →
      ∀ value, lookup? key policy = some value →
        value.isObject = true ∨ environment.Offers key value

/-! ## The documentation -/

namespace Library

variable (library : Library)

/-- How settings are built. -/
structure BuildsFromLayers : Prop where
  /-- Without options, the layers of the sources are validated. -/
  builds : ∀ order environment given, library.arePlain given = true →
    library.build order environment given = library.buildLayers order environment given
  /-- Nothing laid over a layer leaves it. -/
  nothingOver : ∀ lower, library.merge lower [] = lower
  /-- Layers are merged key by key. -/
  deep : ∀ lower upper : List (String × Value), (upper.map Prod.fst).Nodup → ∀ key,
    lookup? key (library.merge lower upper) =
      ((lookup? key upper).map (library.overlaid (lookup? key lower))).or (lookup? key lower)

/-- What the sources give. -/
structure ReadsSources : Prop where
  /-- Only the variable for the whole policy stops the library. -/
  stops : ∀ environment interruption, library.variableLayer environment = .error interruption ↔
    VariableInterrupts environment interruption
  /-- Variables give the settings that they are named after. -/
  gives : ∀ environment fields, library.variableLayer environment = .ok fields →
    IsVariableLayer environment fields
  /-- A given setting has a name in any letter case. -/
  given : ∀ given name, name ∈ topNames → ∀ value,
    lookup? name (library.givenLayer given) = some value →
      ∃ key, (key, value) ∈ given ∧ LetterCase.lowered key = name

/-- How fields are validated. -/
structure ValidatesFields : Prop where
  /-- A setting outside the policy follows the field of its name. -/
  plain : ∀ fields draft, library.validate fields = .ok draft → ∀ field : PlainField,
    draft.complete.Follows library (lookup? field.name fields) (.plain field)
  /-- A policy is an object. -/
  isObject : ∀ fields draft, library.validate fields = .ok draft → ∀ policy,
    lookup? policyKey fields = some policy → policy.isObject = true
  /-- A field of the policy follows its alternate name, and its name where that is absent. -/
  policy : ∀ fields draft, library.validate fields = .ok draft → ∀ field : PolicyField,
    let policy := (lookup? policyKey fields).getD .null
    draft.complete.Follows library
      ((policy.field? field.alternate).or (policy.field? field.name)) (.policy field)
  /-- No setting is read from an object. -/
  refuses : ∀ (settings : Settings Float) (value : Value) (key : SettingKey),
    settings.Follows library (some value) key → value.isObject = false

/-- What is documented of the library. -/
structure Documented : Prop extends library.BuildsFromLayers, library.ReadsSources,
  library.ValidatesFields

end Library

theorem overlaid_nothing (library : Library) (value : Value) :
    library.overlaid none value = value := by
  cases value with
  | object fields => rfl
  | null | truth | whole | double | text | moment | list =>
      rw [LibrarySteps.overlaid]
      simp

theorem isObject_overlaid (library : Library) (lower : Option Value) {upper : Value}
    (isObject : upper.isObject = true) : (library.overlaid lower upper).isObject = true := by
  cases upper with
  | object fields =>
      simp only [LibrarySteps.overlaid]
      split <;> rfl
  | null | truth | whole | double | text | moment | list => cases isObject

/-- Only the upper value of two counts for a setting. -/
theorem Settings.Follows.of_overlaid
    {library : Library} (documented : library.Documented) {settings : Settings Float}
    {lower : Option Value} {upper : Value} {key : SettingKey}
    (follows : settings.Follows library (some (library.overlaid lower upper)) key) :
    settings.Follows library (some upper) key := by
  cases upper with
  | object fields =>
      have isObject : (library.overlaid lower (.object fields)).isObject = true :=
        isObject_overlaid library lower rfl
      rw [documented.refuses _ _ _ follows] at isObject
      cases isObject
  | null | truth | whole | double | text | moment | list =>
      rw [LibrarySteps.overlaid] at follows
      · exact follows
      · simp

end TypeGauge.Setup
