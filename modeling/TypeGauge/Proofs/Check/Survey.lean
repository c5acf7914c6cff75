import TypeGauge.Check.Pass
import TypeGauge.Proofs.Check.Tours
import TypeGauge.Proofs.Score.Renaming
import Mathlib.Data.List.Induction
import Mathlib.Data.List.ReduceOption

/-!
# What each node contributes to a pass

A pass threads a supply, a cache, a register, a queue and two lists through a walk.
All the same, what a node contributes depends on the node alone: identities are only
names, so the score of a declaration is the one that a new scorer would give it, and
nothing else is read before the walk is over.  `Pass.finding` is this contribution,
computed without a state.

The invariant of the walk is `PassState.Records`: the lists of the state are what the
nodes read so far contribute, in order, and the cache knows nothing about identities
that are yet to be handed out.  It turns a pass into two steps without a state,
`Pass.survey`, which collects the findings, and `Pass.conclude`, which makes the
reports that were put off and sorts.
-/

namespace TypeGauge.Check

open TypeGauge.Data TypeGauge.Setup TypeGauge.Score TypeGauge.Syntax TypeGauge.Types

variable {α : Type}

/-! ## Findings -/

/-- What one node contributes to a pass. -/
structure Finding (α : Type) where
  /-- The validator that an alias re-exposes. -/
  exposed : Option (NameKey × Value)
  entry : Option (ScoredDeclaration α)
  /-- The report that is made at once. -/
  report : Option (Diagnostic α)
  /-- The report that is put off. -/
  putOff : Option (DeferredReport α)

/-- A node that contributes at most a re-exposed validator. -/
def Finding.only (exposed : Option (NameKey × Value)) : Finding α :=
  ⟨exposed, none, none, none⟩

/-- A re-exposed validator with what makes its name the same as another. -/
def exposedName (target : Value) : Except Fault (Option (NameKey × Value)) :=
  if target.isNull then .ok none
  else (NameKey.ofValue target).map fun key => some (key, target)

/-- The register after a finding. -/
def Register.enter (register : Register) : Option (NameKey × Value) → Register
  | none => register
  | some entry =>
      if register.hasKey entry.1 then register
      else { register with names := register.names ++ [entry] }

/-- The register after findings in turn. -/
def registerOf (findings : List (Finding α)) : Register :=
  findings.foldl (fun register found => register.enter found.exposed) .empty

namespace Pass

/-- The score of what a node is built to, at the entry depth, with a new scorer. -/
def scoreOf (pass : Pass α) (node : Value) : Except Fault α :=
  pass.scorer.freshScore 0 node pass.policy.entryDepth

/-- What a declaration contributes that is reported on at once if at all. -/
def scoredFinding (pass : Pass α) (exposed : Option (NameKey × Value)) (kind : DeclarationKind)
    (name part node : Value) (decide : α → Decision α) : Except Fault (Finding α) := do
  let score ← pass.scoreOf part
  let source ← positionOf node
  let report ← pass.diagnosticOf (decide score) source
  return ⟨exposed, some ⟨kind, name, score, source⟩, report, none⟩

def aliasFinding (pass : Pass α) (node : Value) : Except Fault (Finding α) := do
  let aliased := node.field "typeAnnotation"
  let target ← reexposed aliased (some pass.settings.staticMarker)
  let exposed ← exposedName target
  if aliased.isObject then
    pass.scoredFinding exposed .typeAlias (nameUnder node "id") aliased node fun score =>
      .ofAlias pass.arithmetic pass.policy score (!target.isNull)
  else return .only exposed

def interfaceFinding (pass : Pass α) (node : Value) : Except Fault (Finding α) :=
  let name := nameUnder node "id"
  pass.scoredFinding none .interface name node node
    (.ofInterface pass.arithmetic pass.policy name)

def uncheckedFinding (pass : Pass α) (node initial : Value) : Except Fault (Finding α) := do
  let name ← declaredName node
  let score ← validatorScore pass.arithmetic initial
  let source ← positionOf node
  let reported := (Decision.ofValidator pass.arithmetic pass.policy score).isReport
  return ⟨none, some ⟨.validator, name, score, source⟩, none,
    if reported then some ⟨name, score, source⟩ else none⟩

def declaratorFinding (pass : Pass α) (node : Value) : Except Fault (Finding α) := do
  let initial := node.field "init"
  if isValidatorCall initial (some pass.settings.validatorNamespace) then
    let isChecked ← hasExplicitCheck node
    if isChecked then return .only none else pass.uncheckedFinding node initial
  else return .only none

/-- What a node contributes to a pass. -/
def finding (pass : Pass α) (node : Value) : Except Fault (Finding α) :=
  let declared := typeOf node
  if declared.isText "TSTypeAliasDeclaration" then pass.aliasFinding node
  else if declared.isText "TSInterfaceDeclaration" then pass.interfaceFinding node
  else if declared.isText "VariableDeclarator" then pass.declaratorFinding node
  else .ok (.only none)

/-- The findings of a walk. -/
def survey (pass : Pass α) (program : Value) : Except Fault (List (Finding α)) := do
  requireObject program
  let found := tour program
  let findings ← found.visited.mapM pass.finding
  if found.isComplete then return findings else .error .tooDeep

/-- The reports on validators that are not exempt. -/
def lateReports (pass : Pass α) (findings : List (Finding α)) :
    Except Fault (List (Diagnostic α)) := do
  let kept ← unexempted (registerOf findings).close (findings.filterMap Finding.putOff)
  let reports ← kept.mapM fun deferred =>
    pass.diagnosticOf (.missingCheck deferred.score) deferred.source
  return reports.reduceOption

/-- The sorted diagnostics that findings lead to. -/
def conclude (pass : Pass α) (findings : List (Finding α)) :
    Except Fault (List (Diagnostic α)) := do
  let late ← pass.lateReports findings
  return Diagnostic.sort (findings.filterMap Finding.report ++ late)

end Pass

/-! ## The invariant of the walk -/

/-- The state of a pass that has read nodes with these findings. -/
structure PassState.Records (state : PassState α) (findings : List (Finding α)) : Prop where
  register : state.register = registerOf findings
  pending : state.queue.pending = findings.filterMap Finding.putOff
  diagnostics : state.diagnostics = findings.filterMap Finding.report
  scored : state.scored = findings.filterMap Finding.entry
  untouched : ∀ identity, state.supply ≤ identity → state.cache.Untouched identity

theorem Register.enter_isClosed (register : Register) (exposed : Option (NameKey × Value)) :
    (register.enter exposed).isClosed = register.isClosed := by
  cases exposed with
  | none => rfl
  | some entry =>
      simp only [Register.enter]
      split <;> rfl

theorem Register.add_eq {register : Register} (isOpen : register.isClosed = false) (name : Value) :
    register.add name =
      (NameKey.ofValue name).map fun key => register.enter (some (key, name)) := by
  rw [Register.add, if_neg (by simp [isOpen])]
  cases NameKey.ofValue name with
  | error fault => rfl
  | ok key => rfl

theorem registerOf_concat (findings : List (Finding α)) (found : Finding α) :
    registerOf (findings ++ [found]) = (registerOf findings).enter found.exposed := by
  simp [registerOf]

theorem registerOf_isClosed (findings : List (Finding α)) :
    (registerOf findings).isClosed = false := by
  induction findings using List.reverseRecOn with
  | nil => rfl
  | append_singleton findings found hypothesis =>
      rw [registerOf_concat, Register.enter_isClosed, hypothesis]

theorem PassState.start_records (supply : Nat) :
    (PassState.start supply : PassState α).Records [] := by
  constructor
  · rfl
  · rfl
  · rfl
  · rfl
  · intro identity _
    exact ⟨rfl, List.not_mem_nil⟩

/-- A state that has taken in one more finding. -/
theorem PassState.Records.extend
    {state after : PassState α} {findings : List (Finding α)} {found : Finding α}
    (records : state.Records findings)
    (register : after.register = state.register.enter found.exposed)
    (pending : after.queue.pending = state.queue.pending ++ found.putOff.toList)
    (diagnostics : after.diagnostics = state.diagnostics ++ found.report.toList)
    (scored : after.scored = state.scored ++ found.entry.toList)
    (untouched : ∀ identity, after.supply ≤ identity → after.cache.Untouched identity) :
    after.Records (findings ++ [found]) := by
  have single : ∀ {β : Type} (field : Finding α → Option β),
      List.filterMap field [found] = (field found).toList := by
    intro β field
    cases found : field _ <;> simp [found]
  constructor
  · rw [register, records.register, registerOf_concat]
  · rw [pending, records.pending, List.filterMap_append, single]
  · rw [diagnostics, records.diagnostics, List.filterMap_append, single]
  · rw [scored, records.scored, List.filterMap_append, single]
  · exact untouched

/-- Dropping the reports on exempt validators is looking each of them up in turn. -/
theorem unexempted_eq_mapM (register : Register) (reports : List (DeferredReport α)) :
    unexempted register reports =
      (reports.mapM fun report =>
        (register.isExempt report.name).map fun exempt =>
          if exempt then none else some report).map List.reduceOption := by
  induction reports with
  | nil => rfl
  | cons report rest hypothesis =>
      rw [unexempted, List.mapM_cons, hypothesis]
      cases register.isExempt report.name with
      | error fault => rfl
      | ok exempt =>
          cases rest.mapM fun report =>
            (register.isExempt report.name).map fun exempt =>
              if exempt then none else some report with
          | error fault => cases exempt <;> rfl
          | ok others => cases exempt <;> rfl

/-! ## Reading one node -/

namespace Pass

theorem outcome_buildTree (node : Value) (state : PassState α) :
    outcome (buildTree node) state =
      ((outcome (build node) state.supply).1,
        { state with supply := (outcome (build node) state.supply).2 }) := by
  simp only [buildTree, outcome_bind, outcome_get]
  rfl

theorem outcome_scoreTree (pass : Pass α) (tree : TypeTree) (state : PassState α) :
    outcome (pass.scoreTree tree) state =
      ((outcome (pass.scorer.score tree.toGraph tree.identity pass.policy.entryDepth)
          state.cache).1,
        { state with
          cache := (outcome (pass.scorer.score tree.toGraph tree.identity pass.policy.entryDepth)
            state.cache).2 }) := by
  simp only [scoreTree, outcome_bind, outcome_get]
  rfl

/-- Whatever was scored before, a node gets the score that a new scorer gives it. -/
theorem scoreNode_realizes
    (pass : Pass α) (node : Value) (state : PassState α)
    (untouched : ∀ identity, state.supply ≤ identity → state.cache.Untouched identity) :
    Realizes
      (fun score answer after => answer = score ∧
        ∃ supply cache, after = { state with supply := supply, cache := cache } ∧
          ∀ identity, supply ≤ identity → cache.Untouched identity)
      (pass.scoreOf node) (outcome (pass.scoreNode node) state) := by
  rw [scoreNode, outcome_bind, outcome_buildTree, scoreOf]
  rcases built : outcome (build node) state.supply with ⟨result, supply⟩
  cases result with
  | error fault =>
      rw [← pass.scorer.freshScore_eq state.supply, Scorer.freshScore, built]
      exact .fault
  | ok tree =>
      rw [← pass.scorer.score_eq_freshScore built untouched]
      simp only [outcome_scoreTree]
      rcases ran : outcome (pass.scorer.score tree.toGraph tree.identity pass.policy.entryDepth)
        state.cache with ⟨answer, cache⟩
      cases answer with
      | error fault => exact .fault
      | ok score =>
          have later := (preorder_of_buildWithin built).2
          refine .answer ⟨rfl, supply, cache, rfl, ?_⟩
          intro identity above
          exact untouched_of_score_of_build built ran above (untouched identity (by omega))

theorem record_realizes (kind : DeclarationKind) (name : Value) (score : α) (node : Value)
    (state : PassState α) :
    Realizes
      (fun source _ after => positionOf node = .ok source ∧
        after = { state with scored := state.scored ++ [⟨kind, name, score, source⟩] })
      (positionOf node) (outcome (record kind name score node) state) := by
  simp only [record, outcome_bind, outcome_liftM]
  cases positionOf node with
  | error fault => exact .fault
  | ok source => exact .answer ⟨rfl, rfl⟩

theorem report_realizes
    (pass : Pass α) (decision : Decision α) (source : Option Position) (state : PassState α) :
    Realizes
      (fun found _ after =>
        after = { state with diagnostics := state.diagnostics ++ found.toList })
      (pass.diagnosticOf decision source) (outcome (pass.report decision source) state) := by
  simp only [report, outcome_bind, outcome_liftM]
  cases pass.diagnosticOf decision source with
  | error fault => exact .fault
  | ok found =>
      cases found with
      | none => exact .answer (by simp)
      | some diagnostic => exact .answer rfl

/-- Register a re-exposed validator, if there is one. -/
def expose (target : Value) : PassM α Unit := do
  if !target.isNull then
    let register ← (← get).register.add target
    modify fun state => { state with register := register }

theorem expose_realizes
    (target : Value) {state : PassState α} (isOpen : state.register.isClosed = false) :
    Realizes
      (fun exposed _ after => after = { state with register := state.register.enter exposed })
      (exposedName target) (outcome (expose target) state) := by
  rw [expose, exposedName]
  cases missing : target.isNull with
  | true => exact .answer rfl
  | false =>
      simp only [Bool.not_false, if_true, Bool.false_eq_true, if_false, outcome_bind, outcome_get,
        outcome_liftM, Register.add_eq isOpen]
      cases NameKey.ofValue target with
      | error fault => exact .fault
      | ok key => exact .answer rfl

/-- Score a part of a node, record the node and report on it. -/
def visitScored (pass : Pass α) (kind : DeclarationKind) (name part node : Value)
    (decide : α → Decision α) : PassM α Unit := do
  let score ← pass.scoreNode part
  record kind name score node
  pass.report (decide score) (← positionOf node)

theorem visitScored_realizes
    (pass : Pass α) (exposed : Option (NameKey × Value)) (kind : DeclarationKind)
    (name part node : Value) (decide : α → Decision α)
    {state : PassState α} {findings : List (Finding α)} (records : state.Records findings) :
    Realizes (fun found _ after => after.Records (findings ++ [found]))
      (pass.scoredFinding exposed kind name part node decide)
      (outcome (pass.visitScored kind name part node decide)
        { state with register := state.register.enter exposed }) := by
  rw [scoredFinding, visitScored]
  have scoring :=
    pass.scoreNode_realizes part { state with register := state.register.enter exposed }
      records.untouched
  apply scoring.bind
  rintro _ score _ ⟨rfl, supply, cache, rfl, untouched⟩
  apply Realizes.bind (record_realizes kind name score node _)
  rintro source _ _ ⟨positioned, rfl⟩
  rw [positioned, outcome_bind, outcome_liftM]
  apply Realizes.last _ (pass.report_realizes (decide score) source _)
  rintro report _ _ rfl
  apply records.extend
  · rfl
  · simp
  · rfl
  · rfl
  · exact untouched

theorem visitAlias_realizes
    (pass : Pass α) (node : Value)
    {state : PassState α} {findings : List (Finding α)} (records : state.Records findings) :
    Realizes (fun found _ after => after.Records (findings ++ [found]))
      (pass.aliasFinding node) (outcome (pass.visitAlias node) state) := by
  have isOpen : state.register.isClosed = false := by
    rw [records.register, registerOf_isClosed]
  have steps : pass.visitAlias node = (do
      let target ← reexposed (node.field "typeAnnotation") (some pass.settings.staticMarker)
      expose target
      if (node.field "typeAnnotation").isObject then
        pass.visitScored .typeAlias (nameUnder node "id") (node.field "typeAnnotation") node
          (fun score => .ofAlias pass.arithmetic pass.policy score (!target.isNull))) := by
    simp only [visitAlias, expose]
    congr 1
    funext target
    cases target.isNull <;> simp [visitScored]
  rw [steps, aliasFinding]
  apply Realizes.lift_bind
  intro target _
  apply Realizes.bind (expose_realizes target isOpen)
  rintro exposed _ _ rfl
  by_cases isObject : (node.field "typeAnnotation").isObject
  · simp only [isObject, if_true]
    exact pass.visitScored_realizes exposed _ _ _ _ _ records
  · simp only [isObject, Bool.false_eq_true, if_false]
    apply Realizes.answer
    apply records.extend
    · rfl
    · simp [Finding.only]
    · simp [Finding.only]
    · simp [Finding.only]
    · exact records.untouched

theorem visitInterface_realizes
    (pass : Pass α) (node : Value)
    {state : PassState α} {findings : List (Finding α)} (records : state.Records findings) :
    Realizes (fun found _ after => after.Records (findings ++ [found]))
      (pass.interfaceFinding node) (outcome (pass.visitInterface node) state) :=
  pass.visitScored_realizes none .interface (nameUnder node "id") node node _ records

theorem nothing_realizes
    {state : PassState α} {findings : List (Finding α)} (records : state.Records findings) :
    Realizes (fun found _ after => after.Records (findings ++ [found]))
      (.ok (.only none) : Except Fault (Finding α))
      (outcome (pure () : PassM α Unit) state) := by
  apply Realizes.answer
  apply records.extend
  · rfl
  · simp [Finding.only]
  · simp [Finding.only]
  · simp [Finding.only]
  · exact records.untouched

theorem visitUnchecked_realizes
    (pass : Pass α) (node initial : Value)
    {state : PassState α} {findings : List (Finding α)} (records : state.Records findings) :
    Realizes (fun found _ after => after.Records (findings ++ [found]))
      (pass.uncheckedFinding node initial) (outcome (pass.visitUnchecked node initial) state) := by
  rw [uncheckedFinding, visitUnchecked]
  apply Realizes.lift_bind
  intro name _
  apply Realizes.lift_bind
  intro score _
  apply Realizes.bind (record_realizes .validator name score node state)
  rintro source _ _ ⟨positioned, rfl⟩
  by_cases reported : (Decision.ofValidator pass.arithmetic pass.policy score).isReport
  · simp only [reported, if_true, positioned, outcome_bind, outcome_liftM]
    apply Realizes.answer
    apply records.extend
    · rfl
    · rfl
    · simp
    · rfl
    · exact records.untouched
  · simp only [reported, Bool.false_eq_true, if_false]
    apply Realizes.answer
    apply records.extend
    · rfl
    · simp
    · simp
    · rfl
    · exact records.untouched

theorem visitDeclarator_realizes
    (pass : Pass α) (node : Value)
    {state : PassState α} {findings : List (Finding α)} (records : state.Records findings) :
    Realizes (fun found _ after => after.Records (findings ++ [found]))
      (pass.declaratorFinding node) (outcome (pass.visitDeclarator node) state) := by
  rw [declaratorFinding, visitDeclarator]
  by_cases called :
    isValidatorCall (node.field "init") (some pass.settings.validatorNamespace)
  · simp only [called, if_true]
    apply Realizes.lift_bind
    intro isChecked _
    cases isChecked with
    | true => exact nothing_realizes records
    | false => exact pass.visitUnchecked_realizes node _ records
  · simp only [called, Bool.false_eq_true, if_false]
    exact nothing_realizes records

/-- Read one node of a walk. -/
def visit (pass : Pass α) (node : Value) : PassM α Unit :=
  let declared := typeOf node
  if declared.isText "TSTypeAliasDeclaration" then pass.visitAlias node
  else if declared.isText "TSInterfaceDeclaration" then pass.visitInterface node
  else if declared.isText "VariableDeclarator" then pass.visitDeclarator node
  else return ()

/-- Reading a node takes in what it contributes, or stops at the same fault. -/
theorem visit_realizes
    (pass : Pass α) (node : Value)
    {state : PassState α} {findings : List (Finding α)} (records : state.Records findings) :
    Realizes (fun found _ after => after.Records (findings ++ [found]))
      (pass.finding node) (outcome (pass.visit node) state) := by
  rw [finding, visit]
  by_cases isAlias : (typeOf node).isText "TSTypeAliasDeclaration"
  · simp only [isAlias, if_true]
    exact pass.visitAlias_realizes node records
  · by_cases isInterface : (typeOf node).isText "TSInterfaceDeclaration"
    · simp only [isAlias, isInterface, Bool.false_eq_true, if_false, if_true]
      exact pass.visitInterface_realizes node records
    · by_cases isDeclarator : (typeOf node).isText "VariableDeclarator"
      · simp only [isAlias, isInterface, isDeclarator, Bool.false_eq_true, if_false, if_true]
        exact pass.visitDeclarator_realizes node records
      · simp only [isAlias, isInterface, isDeclarator, Bool.false_eq_true, if_false]
        exact nothing_realizes records

/-! ## A whole pass -/

/-- Read nodes in turn. -/
def visitAll (pass : Pass α) : List Value → PassM α Unit :=
  Visitor.visitEach pass.visit

/-- Reading nodes in turn takes in what each of them contributes. -/
theorem visitAll_realizes
    (pass : Pass α) (nodes : List Value)
    {state : PassState α} {findings : List (Finding α)} (records : state.Records findings) :
    Realizes (fun found _ after => after.Records (findings ++ found))
      (nodes.mapM pass.finding) (outcome (pass.visitAll nodes) state) := by
  induction nodes generalizing state findings with
  | nil =>
      apply Realizes.answer
      simpa using records
  | cons node rest hypothesis =>
      rw [visitAll, Visitor.visitEach, List.mapM_cons]
      apply Realizes.bind (pass.visit_realizes node records)
      intro found _ between recordsBetween
      apply Realizes.last _ (hypothesis recordsBetween)
      intro others _ after recordsAfter
      simpa using recordsAfter

/-- Whatever a node is, it is read and then the nodes inside it are visited, once. -/
theorem handle_eq {m : Type → Type} [Monad m] [LawfulMonad m] [MonadLiftT (PassM α) m]
    [LawfulMonadLiftT (PassM α) m] (pass : Pass α) (inside : Value → m Unit) (node : Value) :
    pass.handle inside node = (do liftM (pass.visit node); inside node) := by
  rw [handle, visit]
  by_cases isAlias : (typeOf node).isText "TSTypeAliasDeclaration"
  · simp [isAlias]
  · by_cases isInterface : (typeOf node).isText "TSInterfaceDeclaration"
    · simp [isAlias, isInterface]
    · by_cases isDeclarator : (typeOf node).isText "VariableDeclarator"
      · simp [isAlias, isInterface, isDeclarator]
      · simp [isAlias, isInterface, isDeclarator]

/-- A walk reads the nodes of a tour in turn, as far as the tour comes. -/
theorem walkWithin_eq (pass : Pass α) (room : Nat) (program : Value) :
    pass.walkWithin room program = (do
      pass.visitAll (tourWithin room program).visited
      if (tourWithin room program).isComplete then return () else throw .tooDeep) := by
  rw [walkWithin,
    Visitor.visitWithin_eq _ pass.visit (fun _ _ => pass.handle_eq _ _) fun _ => rfl]
  rfl

theorem walk_realizes (pass : Pass α) (program : Value) (supply : Nat) :
    Realizes (fun findings _ after => after.Records findings)
      (pass.survey program) (outcome (pass.walk program) (.start supply)) := by
  rw [survey, walk, walkWithin_eq, ← tour]
  apply Realizes.lift_bind
  intro _ _
  apply Realizes.bind
    (pass.visitAll_realizes (tour program).visited (PassState.start_records supply))
  intro findings _ after records
  rw [List.nil_append] at records
  cases (tour program).isComplete with
  | true => exact .answer records
  | false => exact .fault

theorem reportAll_realizes
    (pass : Pass α) (reports : List (DeferredReport α)) (state : PassState α) :
    Realizes
      (fun made _ after =>
        after = { state with diagnostics := state.diagnostics ++ made.reduceOption })
      (reports.mapM fun deferred =>
        pass.diagnosticOf (.missingCheck deferred.score) deferred.source)
      (outcome (pass.reportAll reports) state) := by
  induction reports generalizing state with
  | nil =>
      apply Realizes.answer
      simp [List.reduceOption_nil]
  | cons deferred rest hypothesis =>
      rw [reportAll, List.mapM_cons]
      apply Realizes.bind (pass.report_realizes _ _ _)
      rintro found _ _ rfl
      apply Realizes.last _ (hypothesis _)
      rintro others _ _ rfl
      cases found with
      | none => simp [List.reduceOption_cons_of_none]
      | some diagnostic => simp [List.reduceOption_cons_of_some]

theorem settle_realizes
    (pass : Pass α) {state : PassState α} {findings : List (Finding α)}
    (records : state.Records findings) :
    Realizes
      (fun late _ after =>
        after.diagnostics = state.diagnostics ++ late ∧ after.scored = state.scored)
      (pass.lateReports findings) (outcome pass.settle state) := by
  rw [lateReports, settle]
  simp only [outcome_bind, outcome_modify, outcome_get, outcome_set, DeferredQueue.flush,
    outcome_liftM, records.register, records.pending]
  cases unexempted (registerOf findings).close (findings.filterMap Finding.putOff) with
  | error fault => exact .fault
  | ok kept =>
      apply Realizes.last _ (pass.reportAll_realizes kept _)
      rintro made _ _ rfl
      exact ⟨rfl, rfl⟩

end Pass

/--
A pass collects the findings of the walk and concludes from them, or stops at the
same fault, whatever identities it hands out.
-/
theorem analyze_realizes
    (arithmetic : Arithmetic α) (settings : Settings α) (file : Files.Path)
    (program : Value) (supply : Nat) :
    Realizes
      (fun (found : List (Finding α) × List (Diagnostic α)) diagnostics after =>
        diagnostics = found.2 ∧ after.scored = found.1.filterMap Finding.entry)
      (do
        let findings ← (⟨arithmetic, settings, file⟩ : Pass α).survey program
        let diagnostics ← (⟨arithmetic, settings, file⟩ : Pass α).conclude findings
        return (findings, diagnostics))
      (analyze arithmetic settings file program supply) := by
  have started : analyze arithmetic settings file program supply =
      outcome ((⟨arithmetic, settings, file⟩ : Pass α).run program) (.start supply) :=
    rfl
  rw [started, Pass.run]
  apply Realizes.bind (Pass.walk_realizes _ program supply)
  intro findings _ state records
  simp only [Pass.conclude, bind_assoc]
  apply Realizes.bind (Pass.settle_realizes _ records)
  rintro late _ after ⟨diagnostics, scored⟩
  apply Realizes.answer
  simp [diagnostics, scored, records.diagnostics, records.scored]

/-- A pass that ends well has read every node of the walk and made the late reports. -/
theorem exists_findings_of_analyze
    (pass : Pass α) {program : Value} {supply : Nat}
    {diagnostics : List (Diagnostic α)} {state : PassState α}
    (ran : analyze pass.arithmetic pass.settings pass.file program supply =
      (.ok diagnostics, state)) :
    ∃ findings late,
      (tour program).isComplete = true ∧
        (tour program).visited.mapM pass.finding = .ok findings ∧
        pass.lateReports findings = .ok late ∧
        diagnostics = Diagnostic.sort (findings.filterMap Finding.report ++ late) ∧
        state.scored = findings.filterMap Finding.entry := by
  have realized :=
    analyze_realizes pass.arithmetic pass.settings pass.file program supply
  rw [ran] at realized
  generalize computed : (do
    let findings ← pass.survey program
    let diagnostics ← pass.conclude findings
    return (findings, diagnostics) : Except Fault _) = value at realized
  cases realized with
  | answer holds =>
      rw [bind_eq_ok_iff] at computed
      rcases computed with ⟨findings, surveyed, continued⟩
      rw [bind_eq_ok_iff] at continued
      rcases continued with ⟨sorted, concluded, ended⟩
      cases ended
      rcases holds with ⟨rfl, scored⟩
      rw [Pass.survey, bind_eq_ok_iff] at surveyed
      rcases surveyed with ⟨_, _, walked⟩
      rw [bind_eq_ok_iff] at walked
      rcases walked with ⟨read, mapped, completed⟩
      rw [Pass.conclude, bind_eq_ok_iff] at concluded
      rcases concluded with ⟨late, lateMade, sortedAll⟩
      cases sortedAll
      cases complete : (tour program).isComplete with
      | false => simp [complete] at completed
      | true =>
          simp only [complete, if_true] at completed
          cases completed
          exact ⟨findings, late, rfl, mapped, lateMade, rfl, scored⟩

/-- The result of a pass, whatever identities it hands out, is what its findings lead to. -/
theorem analyze_fst (pass : Pass α) (program : Value) (supply : Nat) :
    (analyze pass.arithmetic pass.settings pass.file program supply).1 =
      pass.survey program >>= pass.conclude := by
  have realized := analyze_realizes pass.arithmetic pass.settings pass.file program supply
  generalize analyze pass.arithmetic pass.settings pass.file program supply = result at realized ⊢
  cases surveyed : pass.survey program with
  | error fault =>
      simp only [surveyed, bind, Except.bind] at realized ⊢
      cases realized
      rfl
  | ok findings =>
      simp only [surveyed, bind, Except.bind] at realized ⊢
      cases concluded : pass.conclude findings with
      | error fault =>
          simp only [concluded] at realized
          cases realized
          rfl
      | ok diagnostics =>
          simp only [concluded] at realized
          cases realized with
          | answer holds => rw [holds.1]

theorem Pass.survey_eq_ok_iff
    {pass : Pass α} {program : Value} {findings : List (Finding α)} :
    pass.survey program = .ok findings ↔
      program.isObject = true ∧ (tour program).isComplete = true ∧
        (tour program).visited.mapM pass.finding = .ok findings := by
  rw [Pass.survey]
  cases isObject : program.isObject with
  | false => simp [requireObject, isObject, bind, Except.bind]
  | true =>
      cases complete : (tour program).isComplete with
      | false => simp [requireObject, isObject, complete, bind_eq_ok_iff]
      | true => simp [requireObject, isObject, complete, bind_eq_ok_iff, pure, Except.pure]

end TypeGauge.Check
