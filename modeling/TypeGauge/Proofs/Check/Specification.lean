import TypeGauge.Proofs.Check.StableSort
import TypeGauge.Proofs.Check.Survey
import Mathlib.Data.List.ReduceOption

/-!
# What a pass is for

A pass scores the type aliases, interfaces and validators that a walk meets and
reports the ones that are too complex.  This module says so without a cache, a
register or a queue.  Each scored declaration has the score that a new scorer gives
it.  An alias or an interface is reported when its own score calls for it; a
validator is reported when its score calls for it and no alias of the whole program,
before or after it, re-exposes it.  The reports come in the order of their places,
and those about one place in the order of the walk, validators last.
-/

namespace TypeGauge.Check

open TypeGauge.Data TypeGauge.Setup TypeGauge.Score TypeGauge.Syntax TypeGauge.Types

variable {α : Type}

/-! ## Declarations -/

/-- Whether a declared binding carries a type annotation. -/
def isAnnotated (declarator : Value) : Bool :=
  (declarator.field "id").isObject && ((declarator.field "id").field "typeAnnotation").isPresent

/-- The sort of declaration that a node is scored as, if it is scored at all. -/
def declarationKind? (settings : Settings α) (node : Value) : Option DeclarationKind :=
  if (typeOf node).isText "TSTypeAliasDeclaration" then
    if (node.field "typeAnnotation").isObject then some .typeAlias else none
  else if (typeOf node).isText "TSInterfaceDeclaration" then some .interface
  else if (typeOf node).isText "VariableDeclarator" &&
      isValidatorCall (node.field "init") (some settings.validatorNamespace) &&
      !isAnnotated node then
    some .validator
  else none

/-- The validator that a node re-exposes, if it is an alias that re-exposes one. -/
def reexposedBy? (settings : Settings α) (node : Value) : Option Value :=
  if (typeOf node).isText "TSTypeAliasDeclaration" then
    match reexposed (node.field "typeAnnotation") (some settings.staticMarker) with
    | .ok target => if target.isNull then none else some target
    | .error _ => none
  else none

/-- The name that a node exempts, if it is an alias that re-exposes a validator. -/
def exemptName? (settings : Settings α) (node : Value) : Option NameKey :=
  (reexposedBy? settings node).bind fun target => (NameKey.ofValue target).toOption

/-- The names of the validators that some alias among the nodes re-exposes. -/
def exemptNames (settings : Settings α) (nodes : List Value) : List NameKey :=
  nodes.filterMap (exemptName? settings)

/-- Whether a name is one of those listed; no name never is. -/
def isListed (names : List NameKey) (name : Value) : Bool :=
  !name.isNull &&
    match NameKey.ofValue name with
    | .ok key => decide (key ∈ names)
    | .error _ => false

namespace Pass

/-- The name of a declaration. -/
def nameOf (kind : DeclarationKind) (node : Value) : Except Fault Value :=
  match kind with
  | .typeAlias | .interface => .ok (nameUnder node "id")
  | .validator => declaredName node

/-- The score of a declaration on its own, with identities from the supply on. -/
def scoreFrom (pass : Pass α) (supply : Nat) (kind : DeclarationKind) (node : Value) :
    Except Fault α :=
  match kind with
  | .typeAlias =>
      pass.scorer.freshScore supply (node.field "typeAnnotation") pass.policy.entryDepth
  | .interface => pass.scorer.freshScore supply node pass.policy.entryDepth
  | .validator => validatorScore pass.arithmetic (node.field "init")

/-- The entry says of a node what it is to say. -/
structure Describes (pass : Pass α) (node : Value) (entry : ScoredDeclaration α) : Prop where
  kind : declarationKind? pass.settings node = some entry.kind
  name : nameOf entry.kind node = .ok entry.name
  score : ∀ supply, pass.scoreFrom supply entry.kind node = .ok entry.score
  source : positionOf node = .ok entry.source

/-- The message about a plain type or a validator whose score is shown so. -/
def plainMessage (pass : Pass α) (shown : String) : String :=
  "Complex type (score: " ++ shown ++ ") requires " ++
    (pass.settings.validatorNamespace ++ ".Check<T>") ++ " annotation for type safety"

/-- The message about an interface of this name. -/
def interfaceMessage (pass : Pass α) (name : Value) : String :=
  "Interface '" ++ name.shown ++ "' requires " ++
    (pass.settings.validatorNamespace ++ ".Check<T>") ++
    " annotation (interfaces always need explicit checking)"

/-- The diagnostic says of a scored declaration what it is to say. -/
structure Reports (pass : Pass α) (entry : ScoredDeclaration α) (diagnostic : Diagnostic α) :
    Prop where
  type : diagnostic.type = if entry.kind = .interface then .complexInterface else .missingCheck
  file : diagnostic.file = pass.file
  line : diagnostic.line = (entry.source.map Position.line).getD 1
  column : diagnostic.column = (entry.source.map Position.column).getD 0
  message :
    if entry.kind = .interface then
      diagnostic.message = pass.interfaceMessage (entry.name.orElse (.text "unknown"))
    else
      ∃ shown, pass.arithmetic.show? entry.score = some shown ∧
        diagnostic.message = pass.plainMessage shown
  severity : diagnostic.severity = .ofScore pass.arithmetic pass.policy entry.score
  score : diagnostic.score = some entry.score
  name : diagnostic.name =
    if entry.kind = .interface then entry.name.orElse (.text "unknown") else .null

/-- Whether a scored alias or interface is reported. -/
def isReportedAtOnce (pass : Pass α) (declared : Value × ScoredDeclaration α) : Bool :=
  match declared.2.kind with
  | .typeAlias =>
      (reexposedBy? pass.settings declared.1).isNone &&
        !pass.arithmetic.less declared.2.score pass.policy.baseThreshold
  | .interface => !pass.arithmetic.less declared.2.score pass.policy.interfacePenalty
  | .validator => false

/-- Whether a scored validator is reported unless it is exempt. -/
def isPutOff (pass : Pass α) (declared : Value × ScoredDeclaration α) : Bool :=
  match declared.2.kind with
  | .typeAlias | .interface => false
  | .validator => !pass.arithmetic.less declared.2.score pass.policy.baseThreshold

/-- Whether a scored validator is reported. -/
def isReportedLate (pass : Pass α) (nodes : List Value)
    (declared : Value × ScoredDeclaration α) : Bool :=
  pass.isPutOff declared && !isListed (exemptNames pass.settings nodes) declared.2.name

/-! ## Reports -/

theorem reports_of_missingCheck
    {pass : Pass α} {entry : ScoredDeclaration α} (isPlain : entry.kind ≠ .interface)
    {report : Option (Diagnostic α)}
    (made : pass.diagnosticOf (.missingCheck entry.score) entry.source = .ok report) :
    ∃ diagnostic, report = some diagnostic ∧ pass.Reports entry diagnostic := by
  rw [diagnosticOf] at made
  cases shown : pass.arithmetic.show? entry.score with
  | none => simp [shown] at made
  | some text =>
      simp only [shown, Except.ok.injEq] at made
      subst made
      refine ⟨_, rfl, ?_⟩
      constructor
      case message =>
        rw [if_neg isPlain]
        exact ⟨text, shown, rfl⟩
      all_goals cases entry.source <;> simp [diagnostic, isPlain, Position.start]

theorem reports_of_complexInterface
    {pass : Pass α} {entry : ScoredDeclaration α} (isInterface : entry.kind = .interface)
    {report : Option (Diagnostic α)}
    (made : pass.diagnosticOf
      (.complexInterface (entry.name.orElse (.text Decision.unknownName)) entry.score)
      entry.source = .ok report) :
    ∃ diagnostic, report = some diagnostic ∧ pass.Reports entry diagnostic := by
  simp only [diagnosticOf, Except.ok.injEq] at made
  subst made
  refine ⟨_, rfl, ?_⟩
  constructor
  case message =>
    rw [if_pos isInterface]
    rfl
  all_goals
    cases entry.source <;> simp [diagnostic, isInterface, Position.start, Decision.unknownName]

/-- What a report on a scored declaration is about. -/
def decisionAbout (entry : ScoredDeclaration α) : Decision α :=
  if entry.kind = .interface then
    .complexInterface (entry.name.orElse (.text Decision.unknownName)) entry.score
  else .missingCheck entry.score

theorem reports_of_decisionAbout
    {pass : Pass α} {entry : ScoredDeclaration α} {report : Option (Diagnostic α)}
    (made : pass.diagnosticOf (decisionAbout entry) entry.source = .ok report) :
    ∃ diagnostic, report = some diagnostic ∧ pass.Reports entry diagnostic := by
  by_cases isInterface : entry.kind = .interface
  · rw [decisionAbout, if_pos isInterface] at made
    exact reports_of_complexInterface isInterface made
  · rw [decisionAbout, if_neg isInterface] at made
    exact reports_of_missingCheck isInterface made

/-! ## What a node contributes -/

/-- A finding says of its node what the specification says. -/
structure Contributes (pass : Pass α) (node : Value) (found : Finding α) : Prop where
  exposed : found.exposed.map Prod.fst = exemptName? pass.settings node
  undeclared : found.entry = none →
    declarationKind? pass.settings node = none ∧ found.report = none ∧ found.putOff = none
  described : ∀ entry, found.entry = some entry → pass.Describes node entry
  reported : ∀ entry, found.entry = some entry → pass.isReportedAtOnce (node, entry) = true →
    ∃ diagnostic, found.report = some diagnostic ∧ pass.Reports entry diagnostic
  unreported : ∀ entry, found.entry = some entry → pass.isReportedAtOnce (node, entry) = false →
    found.report = none
  putOff : ∀ entry, found.entry = some entry →
    found.putOff =
      if pass.isPutOff (node, entry) then some ⟨entry.name, entry.score, entry.source⟩ else none

theorem exposedName_keys
    {target : Value} {exposed : Option (NameKey × Value)}
    (named : exposedName target = .ok exposed) :
    exposed.map Prod.fst =
      (if target.isNull then none else some target).bind fun target =>
        (NameKey.ofValue target).toOption := by
  rw [exposedName] at named
  cases isNull : target.isNull with
  | true =>
      simp only [isNull, if_true, Except.ok.injEq] at named
      subst named
      rfl
  | false =>
      simp only [isNull, Bool.false_eq_true, if_false] at named ⊢
      cases keyed : NameKey.ofValue target with
      | error fault => simp [keyed, Except.map] at named
      | ok key =>
          simp only [keyed, Except.map, Except.ok.injEq] at named
          subst named
          simp [keyed, Except.toOption]

theorem exists_parts_of_scoredFinding
    {pass : Pass α} {exposed : Option (NameKey × Value)} {kind : DeclarationKind}
    {name part node : Value} {decide : α → Decision α} {found : Finding α}
    (contributed : pass.scoredFinding exposed kind name part node decide = .ok found) :
    ∃ score source report,
      pass.scoreOf part = .ok score ∧ positionOf node = .ok source ∧
        pass.diagnosticOf (decide score) source = .ok report ∧
        found = ⟨exposed, some ⟨kind, name, score, source⟩, report, none⟩ := by
  rw [scoredFinding, bind_eq_ok_iff] at contributed
  rcases contributed with ⟨score, scored, continued⟩
  rw [bind_eq_ok_iff] at continued
  rcases continued with ⟨source, positioned, continued⟩
  rw [bind_eq_ok_iff] at continued
  rcases continued with ⟨report, reported, ended⟩
  cases ended
  exact ⟨score, source, report, scored, positioned, reported, rfl⟩

/-- What is scored and reported on at once is described and reported as it should be. -/
theorem scoredFinding_contributes
    {pass : Pass α} {exposed : Option (NameKey × Value)} {kind : DeclarationKind}
    {name part node : Value} {decide : α → Decision α} {found : Finding α}
    (exempts : exposed.map Prod.fst = exemptName? pass.settings node)
    (declared : declarationKind? pass.settings node = some kind)
    (named : nameOf kind node = .ok name)
    (scores : ∀ supply, pass.scoreFrom supply kind node = pass.scoreOf part)
    (atOnce : kind ≠ .validator)
    (decides : ∀ score source,
      decide score =
        if pass.isReportedAtOnce (node, ⟨kind, name, score, source⟩) then
          decisionAbout ⟨kind, name, score, source⟩
        else .noReport)
    (contributed : pass.scoredFinding exposed kind name part node decide = .ok found) :
    pass.Contributes node found := by
  rcases exists_parts_of_scoredFinding contributed with
    ⟨score, source, report, scored, positioned, reported, rfl⟩
  rw [decides score source] at reported
  constructor
  · exact exempts
  · simp
  · rintro _ ⟨rfl⟩
    constructor
    · exact declared
    · exact named
    · intro supply
      rw [scores]
      exact scored
    · exact positioned
  · rintro _ ⟨rfl⟩ above
    rw [if_pos above] at reported
    exact reports_of_decisionAbout reported
  · rintro _ ⟨rfl⟩ below
    rw [below, if_neg Bool.false_ne_true] at reported
    exact (Except.ok.inj reported).symm
  · rintro _ ⟨rfl⟩
    cases kind with
    | validator => exact absurd rfl atOnce
    | interface => rfl
    | typeAlias => rfl

theorem interfaceFinding_contributes
    {pass : Pass α} {node : Value} {found : Finding α}
    (isAlias : (typeOf node).isText "TSTypeAliasDeclaration" = false)
    (isInterface : (typeOf node).isText "TSInterfaceDeclaration" = true)
    (contributed : pass.interfaceFinding node = .ok found) :
    pass.Contributes node found := by
  apply scoredFinding_contributes _ _ _ _ _ _ contributed
  · simp [exemptName?, reexposedBy?, isAlias]
  · simp [declarationKind?, isAlias, isInterface]
  · rfl
  · intro supply
    rw [scoreFrom, Scorer.freshScore_eq, scoreOf]
  · decide
  · intro score source
    cases below : pass.arithmetic.less score pass.policy.interfacePenalty with
    | true => simp [isReportedAtOnce, Decision.ofInterface, below]
    | false => simp [isReportedAtOnce, Decision.ofInterface, below, decisionAbout]

theorem aliasFinding_contributes
    {pass : Pass α} {node : Value} {found : Finding α}
    (isAlias : (typeOf node).isText "TSTypeAliasDeclaration" = true)
    (contributed : pass.aliasFinding node = .ok found) :
    pass.Contributes node found := by
  rw [aliasFinding, bind_eq_ok_iff] at contributed
  rcases contributed with ⟨target, reexposes, continued⟩
  rw [bind_eq_ok_iff] at continued
  rcases continued with ⟨exposed, named, continued⟩
  have exposes : reexposedBy? pass.settings node = if target.isNull then none else some target := by
    simp [reexposedBy?, isAlias, reexposes]
  have keys := exposedName_keys named
  rw [← exposes, ← exemptName?] at keys
  cases isObject : (node.field "typeAnnotation").isObject with
  | false =>
      simp only [isObject, Bool.false_eq_true, if_false] at continued
      cases continued
      constructor
      · exact keys
      · simp [declarationKind?, isAlias, isObject, Finding.only]
      all_goals simp [Finding.only]
  | true =>
      simp only [isObject, if_true] at continued
      apply scoredFinding_contributes keys _ _ _ _ _ continued
      · simp [declarationKind?, isAlias, isObject]
      · rfl
      · intro supply
        rw [scoreFrom, Scorer.freshScore_eq, scoreOf]
      · decide
      · intro score source
        cases below : pass.arithmetic.less score pass.policy.baseThreshold with
        | true => simp [isReportedAtOnce, Decision.ofAlias, below]
        | false =>
            cases isNull : target.isNull <;>
              simp [isReportedAtOnce, Decision.ofAlias, below, exposes, isNull, decisionAbout]

theorem contributes_nothing
    {pass : Pass α} {node : Value}
    (isAlias : (typeOf node).isText "TSTypeAliasDeclaration" = false)
    (undeclared : declarationKind? pass.settings node = none) :
    pass.Contributes node (.only none) := by
  constructor
  · simp [exemptName?, reexposedBy?, isAlias, Finding.only]
  · simp [undeclared, Finding.only]
  all_goals simp [Finding.only]

theorem uncheckedFinding_contributes
    {pass : Pass α} {node : Value} {found : Finding α}
    (isAlias : (typeOf node).isText "TSTypeAliasDeclaration" = false)
    (isValidator : declarationKind? pass.settings node = some .validator)
    (contributed : pass.uncheckedFinding node (node.field "init") = .ok found) :
    pass.Contributes node found := by
  rw [uncheckedFinding, bind_eq_ok_iff] at contributed
  rcases contributed with ⟨name, named, continued⟩
  rw [bind_eq_ok_iff] at continued
  rcases continued with ⟨score, scored, continued⟩
  rw [bind_eq_ok_iff] at continued
  rcases continued with ⟨source, positioned, ended⟩
  cases ended
  constructor
  · simp [exemptName?, reexposedBy?, isAlias]
  · simp
  · rintro _ ⟨rfl⟩
    constructor
    · exact isValidator
    · exact named
    · intro supply
      exact scored
    · exact positioned
  · rintro _ ⟨rfl⟩ above
    simp [isReportedAtOnce] at above
  · simp
  · rintro _ ⟨rfl⟩
    simp only [isPutOff, Decision.ofValidator]
    by_cases below : pass.arithmetic.less score pass.policy.baseThreshold
    · simp [below, Decision.isReport]
    · simp [below, Decision.isReport]

theorem isAnnotated_of_hasExplicitCheck
    {node : Value} {isChecked : Bool} (checked : hasExplicitCheck node = .ok isChecked) :
    isAnnotated node = isChecked := by
  rw [hasExplicitCheck, bind_eq_ok_iff] at checked
  rcases checked with ⟨_, _, ended⟩
  cases ended
  rfl

theorem declaratorFinding_contributes
    {pass : Pass α} {node : Value} {found : Finding α}
    (isAlias : (typeOf node).isText "TSTypeAliasDeclaration" = false)
    (isInterface : (typeOf node).isText "TSInterfaceDeclaration" = false)
    (isDeclarator : (typeOf node).isText "VariableDeclarator" = true)
    (contributed : pass.declaratorFinding node = .ok found) :
    pass.Contributes node found := by
  rw [declaratorFinding] at contributed
  cases called : isValidatorCall (node.field "init") (some pass.settings.validatorNamespace) with
  | false =>
      simp only [called, Bool.false_eq_true, if_false] at contributed
      cases contributed
      apply contributes_nothing isAlias
      simp [declarationKind?, isAlias, isInterface, called]
  | true =>
      simp only [called, if_true, bind_eq_ok_iff] at contributed
      rcases contributed with ⟨isChecked, checked, continued⟩
      have annotated := isAnnotated_of_hasExplicitCheck checked
      cases isChecked with
      | true =>
          cases continued
          apply contributes_nothing isAlias
          simp [declarationKind?, isAlias, isInterface, annotated]
      | false =>
          apply uncheckedFinding_contributes isAlias _ continued
          simp [declarationKind?, isAlias, isInterface, isDeclarator, called, annotated]

/-- The finding of a node is what the specification says of the node. -/
theorem contributes_of_finding
    {pass : Pass α} {node : Value} {found : Finding α}
    (contributed : pass.finding node = .ok found) :
    pass.Contributes node found := by
  rw [finding] at contributed
  cases isAlias : (typeOf node).isText "TSTypeAliasDeclaration" with
  | true =>
      simp only [isAlias, if_true] at contributed
      exact aliasFinding_contributes isAlias contributed
  | false =>
      simp only [isAlias, Bool.false_eq_true, if_false] at contributed
      cases isInterface : (typeOf node).isText "TSInterfaceDeclaration" with
      | true =>
          simp only [isInterface, if_true] at contributed
          exact interfaceFinding_contributes isAlias isInterface contributed
      | false =>
          simp only [isInterface, Bool.false_eq_true, if_false] at contributed
          cases isDeclarator : (typeOf node).isText "VariableDeclarator" with
          | true =>
              simp only [isDeclarator, if_true] at contributed
              exact declaratorFinding_contributes isAlias isInterface isDeclarator contributed
          | false =>
              simp only [isDeclarator, Bool.false_eq_true, if_false] at contributed
              cases contributed
              apply contributes_nothing isAlias
              simp [declarationKind?, isAlias, isInterface, isDeclarator]

/-! ## What the nodes of a walk contribute -/

/-- The scored declarations among nodes with these findings. -/
def declarations (nodes : List Value) (findings : List (Finding α)) :
    List (Value × ScoredDeclaration α) :=
  (nodes.zip findings).filterMap fun item => item.2.entry.map fun entry => (item.1, entry)

variable {pass : Pass α} {nodes : List Value} {findings : List (Finding α)}

theorem declarations_cons (node : Value) (found : Finding α) :
    declarations (node :: nodes) (found :: findings) =
      (found.entry.map fun entry => (node, entry)).toList ++ declarations nodes findings := by
  cases entered : found.entry <;> simp [declarations, entered]

theorem describes_declarations
    (contributed : List.Forall₂ pass.Contributes nodes findings) :
    (∀ declared ∈ declarations nodes findings, pass.Describes declared.1 declared.2) ∧
      (declarations nodes findings).map Prod.fst =
        nodes.filter (fun node => (declarationKind? pass.settings node).isSome) ∧
      (declarations nodes findings).map Prod.snd = findings.filterMap Finding.entry := by
  induction contributed with
  | nil => simp [declarations]
  | @cons node found nodes findings contributes _ hypothesis =>
      rw [declarations_cons]
      cases entered : found.entry with
      | none =>
          have undeclared := (contributes.undeclared entered).1
          simpa [entered, undeclared] using hypothesis
      | some entry =>
          have described := contributes.described entry entered
          simpa [entered, described.kind, described] using hypothesis

theorem reports_declarations
    (contributed : List.Forall₂ pass.Contributes nodes findings) :
    List.Forall₂ (fun declared diagnostic => pass.Reports declared.2 diagnostic)
      ((declarations nodes findings).filter pass.isReportedAtOnce)
      (findings.filterMap Finding.report) := by
  induction contributed with
  | nil => exact .nil
  | @cons node found nodes findings contributes _ hypothesis =>
      rw [declarations_cons]
      cases entered : found.entry with
      | none =>
          have silent := (contributes.undeclared entered).2.1
          simpa [silent] using hypothesis
      | some entry =>
          cases reported : pass.isReportedAtOnce (node, entry) with
          | true =>
              rcases contributes.reported entry entered reported with ⟨diagnostic, made, reports⟩
              simpa [reported, made] using And.intro reports hypothesis
          | false =>
              have silent := contributes.unreported entry entered reported
              simpa [reported, silent] using hypothesis

theorem putOff_declarations
    (contributed : List.Forall₂ pass.Contributes nodes findings) :
    findings.filterMap Finding.putOff =
      ((declarations nodes findings).filter pass.isPutOff).map fun declared =>
        ⟨declared.2.name, declared.2.score, declared.2.source⟩ := by
  induction contributed with
  | nil => rfl
  | @cons node found nodes findings contributes _ hypothesis =>
      rw [declarations_cons]
      cases entered : found.entry with
      | none =>
          have silent := (contributes.undeclared entered).2.2
          simpa [silent] using hypothesis
      | some entry =>
          have deferred := contributes.putOff entry entered
          cases late : pass.isPutOff (node, entry) with
          | true => simpa [late, deferred] using hypothesis
          | false => simpa [late, deferred] using hypothesis

theorem exposed_findings
    (contributed : List.Forall₂ pass.Contributes nodes findings) :
    (findings.filterMap Finding.exposed).map Prod.fst = exemptNames pass.settings nodes := by
  induction contributed with
  | nil => rfl
  | @cons node found nodes findings contributes _ hypothesis =>
      have exposes := contributes.exposed
      rw [exemptNames] at hypothesis ⊢
      cases entered : found.exposed with
      | none =>
          rw [entered, Option.map_none] at exposes
          simpa [entered, ← exposes] using hypothesis
      | some entry =>
          rw [entered, Option.map_some] at exposes
          simpa [entered, ← exposes] using hypothesis

end Pass

/-! ## Exemptions -/

theorem Register.hasKey_enter
    (register : Register) (exposed : Option (NameKey × Value)) (key : NameKey) :
    (register.enter exposed).hasKey key = true ↔
      register.hasKey key = true ∨ exposed.map Prod.fst = some key := by
  cases exposed with
  | none => simp [enter]
  | some entry =>
      by_cases present : register.hasKey entry.1
      · simp only [enter, present, if_true, Option.map_some, Option.some.injEq]
        constructor
        · exact Or.inl
        · rintro (found | rfl)
          · exact found
          · exact present
      · have entered : register.enter (some entry) =
            { register with names := register.names ++ [entry] } := by
          simp [enter, present]
        simp [entered, hasKey]

theorem hasKey_registerOf (findings : List (Finding α)) (key : NameKey) :
    (registerOf findings).hasKey key = true ↔
      key ∈ (findings.filterMap Finding.exposed).map Prod.fst := by
  induction findings using List.reverseRecOn with
  | nil => simp [registerOf, Register.empty, Register.hasKey]
  | append_singleton findings found hypothesis =>
      rw [registerOf_concat, Register.hasKey_enter, hypothesis, List.filterMap_append,
        List.map_append, List.mem_append]
      cases exposed : found.exposed with
      | none => simp [exposed]
      | some entry => simp [exposed, eq_comm]

/-- After a walk, the exempt names are the ones that some node has re-exposed. -/
theorem isExempt_registerOf
    {findings : List (Finding α)} {name : Value} {exempt : Bool}
    (looked : (registerOf findings).close.isExempt name = .ok exempt) :
    isListed ((findings.filterMap Finding.exposed).map Prod.fst) name = exempt := by
  have keys := hasKey_registerOf findings
  cases isNull : name.isNull with
  | true =>
      simp only [Register.isExempt, Register.close, isNull, Bool.not_true, Bool.false_eq_true,
        if_false, if_true, Except.ok.injEq] at looked
      simp [isListed, isNull, ← looked]
  | false =>
      simp only [Register.isExempt, Register.close, isNull, Bool.not_true, Bool.false_eq_true,
        if_false, Register.contains] at looked
      cases keyed : NameKey.ofValue name with
      | error fault => simp [keyed, Except.map] at looked
      | ok key =>
          simp only [keyed, Except.map, Except.ok.injEq] at looked
          subst looked
          have same : Register.hasKey ⟨(registerOf findings).names, true⟩ key =
              (registerOf findings).hasKey key :=
            rfl
          rw [same, Bool.eq_iff_iff, keys]
          simp [isListed, isNull, keyed]

theorem unexempted_eq_filter
    {register : Register} {names : List NameKey}
    (listed : ∀ name exempt, register.isExempt name = .ok exempt → isListed names name = exempt)
    {reports kept : List (DeferredReport α)} (left : unexempted register reports = .ok kept) :
    kept = reports.filter fun report => !isListed names report.name := by
  induction reports generalizing kept with
  | nil =>
      cases left
      rfl
  | cons report rest hypothesis =>
      rw [unexempted, bind_eq_ok_iff] at left
      rcases left with ⟨exempt, looked, continued⟩
      rw [bind_eq_ok_iff] at continued
      rcases continued with ⟨others, restLeft, ended⟩
      have restKept := hypothesis restLeft
      have isExempt := listed report.name exempt looked
      cases ended
      cases exempt with
      | true => simp [isExempt, restKept]
      | false => simp [isExempt, restKept]

namespace Pass

variable {pass : Pass α} {nodes : List Value} {findings : List (Finding α)}

theorem reports_of_mapM
    {declared : List (Value × ScoredDeclaration α)}
    (isPlain : ∀ item ∈ declared, item.2.kind ≠ .interface)
    {made : List (Option (Diagnostic α))}
    (reported : List.Forall₂
      (fun item report =>
        pass.diagnosticOf (.missingCheck item.2.score) item.2.source = .ok report)
      declared made) :
    List.Forall₂ (fun item diagnostic => pass.Reports item.2 diagnostic) declared
      made.reduceOption := by
  induction reported with
  | nil => exact .nil
  | @cons item report declared made first _ hypothesis =>
      rw [List.forall_mem_cons] at isPlain
      rcases reports_of_missingCheck isPlain.1 first with ⟨diagnostic, rfl, reports⟩
      rw [List.reduceOption_cons_of_some]
      exact .cons reports (hypothesis isPlain.2)

theorem kind_of_isPutOff
    {declared : Value × ScoredDeclaration α} (late : pass.isPutOff declared = true) :
    declared.2.kind = .validator := by
  cases kind : declared.2.kind with
  | validator => rfl
  | interface => simp [isPutOff, kind] at late
  | typeAlias => simp [isPutOff, kind] at late

theorem reports_of_lateReports
    (contributed : List.Forall₂ pass.Contributes nodes findings)
    {late : List (Diagnostic α)} (made : pass.lateReports findings = .ok late) :
    List.Forall₂ (fun declared diagnostic => pass.Reports declared.2 diagnostic)
      ((declarations nodes findings).filter (pass.isReportedLate nodes)) late := by
  rw [lateReports, bind_eq_ok_iff] at made
  rcases made with ⟨kept, left, continued⟩
  rw [bind_eq_ok_iff] at continued
  rcases continued with ⟨reports, reported, ended⟩
  cases ended
  have keptReports := unexempted_eq_filter (fun _ _ => isExempt_registerOf) left
  rw [exposed_findings contributed, putOff_declarations contributed, List.filter_map,
    List.filter_filter] at keptReports
  subst keptReports
  have answered := forall₂_of_mapM_eq_ok reported
  rw [List.forall₂_map_left_iff] at answered
  have selected :
      ((declarations nodes findings).filter (pass.isReportedLate nodes)) =
        (declarations nodes findings).filter fun declared =>
          !isListed (exemptNames pass.settings nodes) declared.2.name &&
            pass.isPutOff declared := by
    congr 1
    ext declared
    rw [isReportedLate, Bool.and_comm]
  rw [selected]
  apply reports_of_mapM _ answered
  intro declared member
  rw [List.mem_filter, Bool.and_eq_true] at member
  rw [kind_of_isPutOff member.2.2]
  decide

end Pass

/--
Whenever a pass ends well, it has visited every node of the walk.  It has scored the
declarations among them, in the order of the walk, each on its own.  Its diagnostics
are the stable sort of the reports on aliases and interfaces, in the order of the
walk, followed by the reports on the validators that no alias of the program
re-exposes, in the order of the walk.
-/
theorem pass_meets_specification
    (pass : Pass α) (program : Value) (supply : Nat)
    (diagnostics : List (Diagnostic α)) (state : PassState α)
    (ran : analyze pass.arithmetic pass.settings pass.file program supply =
      (.ok diagnostics, state)) :
    (tour program).isComplete = true ∧
      ∃ declared : List (Value × ScoredDeclaration α),
        declared.map Prod.fst =
            (tour program).visited.filter
              (fun node => (declarationKind? pass.settings node).isSome) ∧
          (∀ item ∈ declared, pass.Describes item.1 item.2) ∧
          state.scored = declared.map Prod.snd ∧
          ∃ atOnce late : List (Diagnostic α),
            List.Forall₂ (fun item diagnostic => pass.Reports item.2 diagnostic)
                (declared.filter pass.isReportedAtOnce) atOnce ∧
              List.Forall₂ (fun item diagnostic => pass.Reports item.2 diagnostic)
                (declared.filter (pass.isReportedLate (tour program).visited)) late ∧
              ∀ sorted, Diagnostic.StablySorted (atOnce ++ late) sorted ↔ sorted = diagnostics := by
  rcases exists_findings_of_analyze pass ran with
    ⟨findings, late, complete, read, lateMade, sorted, scored⟩
  have contributed : List.Forall₂ pass.Contributes (tour program).visited findings :=
    (forall₂_of_mapM_eq_ok read).imp fun _ _ found => Pass.contributes_of_finding found
  rcases Pass.describes_declarations contributed with ⟨described, declaring, entries⟩
  refine ⟨complete, Pass.declarations (tour program).visited findings, declaring, described, ?_,
    findings.filterMap Finding.report, late, Pass.reports_declarations contributed,
    Pass.reports_of_lateReports contributed lateMade, ?_⟩
  · rw [scored, entries]
  · intro other
    rw [Diagnostic.stablySorted_iff, sorted]

/-- Scores as whole numbers, the same at every depth. -/
def wholeNumbers : Arithmetic Nat where
  ofHalves count := count / 2
  add first second := first + second
  mul first second := first * second
  less first second := first < second
  atMost first second := first ≤ second
  weight? _ := some 1
  show? score := some (toString score)

def identifierNode (name : String) : Value :=
  .object [("type", .text "Identifier"), ("name", .text name)]

/-- A declared validator of an empty shape. -/
def validatorNode (name : String) : Value :=
  .object
    [("type", .text "VariableDeclarator"), ("id", identifierNode name),
      ("init", .object
        [("type", .text "CallExpression"),
          ("callee", .object
            [("type", .text "MemberExpression"), ("object", identifierNode "Ianitor"),
              ("property", identifierNode "interface")]),
          ("arguments", .list
            [.object [("type", .text "ObjectExpression"), ("properties", .list [])]])])]

/-- An alias that re-exposes a validator. -/
def staticNode (name : String) : Value :=
  .object
    [("type", .text "TSTypeAliasDeclaration"),
      ("typeAnnotation", .object
        [("type", .text "TSTypeReference"),
          ("typeName", .object
            [("type", .text "TSQualifiedName"), ("left", identifierNode "Ianitor"),
              ("right", identifierNode "Static")]),
          ("typeArguments", .object
            [("params", .list
              [.object [("type", .text "TSTypeQuery"), ("exprName", identifierNode name)]])])])]

/-- Two validators, and then an alias that re-exposes the first. -/
def lateExemption : Value :=
  .object
    [("type", .text "Program"),
      ("body", .list [validatorNode "user", validatorNode "order", staticNode "user"])]

/-- The alias exempts the validator that stands before it, and not the other one. -/
theorem lateExemption_meets_specification :
    isListed (exemptNames (.standard wholeNumbers) (tour lateExemption).visited) (.text "user") =
        true ∧
      isListed (exemptNames (.standard wholeNumbers) (tour lateExemption).visited)
        (.text "order") = false ∧
      ∃ diagnostics state, ∃ declared : List (Value × ScoredDeclaration Nat),
        analyze wholeNumbers (.standard wholeNumbers) ⟨.relative, []⟩ lateExemption 1 =
            (.ok diagnostics, state) ∧
          state.scored = declared.map Prod.snd ∧
          ∀ item ∈ declared,
            (⟨wholeNumbers, .standard wholeNumbers, ⟨.relative, []⟩⟩ : Pass Nat).Describes
              item.1 item.2 := by
  refine ⟨by decide +kernel, by decide +kernel, ?_⟩
  have returns : ∃ diagnostics state,
      analyze wholeNumbers (.standard wholeNumbers) ⟨.relative, []⟩ lateExemption 1 =
        (.ok diagnostics, state) := by
    apply exists_answer_of_toBool
    decide +kernel
  rcases returns with ⟨diagnostics, state, ran⟩
  rcases (pass_meets_specification ⟨wholeNumbers, .standard wholeNumbers, ⟨.relative, []⟩⟩
    lateExemption 1 diagnostics state ran).2 with ⟨declared, _, described, scored, _⟩
  exact ⟨diagnostics, state, declared, ran, scored, described⟩

end TypeGauge.Check
