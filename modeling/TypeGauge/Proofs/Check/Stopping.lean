import TypeGauge.Proofs.Check.Misdeclared
import TypeGauge.Proofs.Check.Tours

/-!
# Where a pass can stop

A pass over any program stops only at a declaration that is misdeclared, where the program is
nested too deep and where a score cannot be shown; `Pass.Halts` lists these reasons.  And it
does stop if it meets a declaration that is misdeclared.
-/

namespace TypeGauge.Check

open TypeGauge.Data TypeGauge.Setup TypeGauge.Score TypeGauge.Syntax TypeGauge.Types

variable {α : Type} {node : Value} {fault : Fault}

/-! ## Reasons to stop -/

namespace Pass

/-- A score that some part of a program has earned. -/
inductive Earns (pass : Pass α) (program : Value) : α → Prop
  | type {part : Value} {score : α} (inside : program.Contains part)
      (scored : pass.scoreOf part = .ok score) : Earns pass program score
  | validator {call : Value} {score : α} (inside : program.Contains call)
      (isObject : call.isObject = true)
      (scored : validatorScore pass.arithmetic call = .ok score) : Earns pass program score

/-- The reasons for which a pass over a well-formed program stops. -/
inductive Stops (pass : Pass α) (program : Value) : Fault → Prop
  | tooDeep (deep : Nesting.typeRoom < program.nesting) : Stops pass program .tooDeep
  | unshowable {score : α} (earned : pass.Earns program score)
      (unshown : pass.arithmetic.show? score = none) : Stops pass program .unshowableScore

/-- The reasons for which a pass over any program stops. -/
inductive Halts (pass : Pass α) (program : Value) : Fault → Prop
  | stops {fault : Fault} (stops : pass.Stops program fault) : Halts pass program fault
  | misdeclares {node : Value} {fault : Fault} (visited : node ∈ (tour program).visited)
      (misdeclares : pass.Misdeclares node fault) : Halts pass program fault

theorem diagnosticOf_faults {pass : Pass α} {program : Value} {decision : Decision α}
    (earned : ∀ score, decision = .missingCheck score → pass.Earns program score)
    (source : Option Syntax.Position) :
    FaultsOnly (pass.Stops program) (pass.diagnosticOf decision source) := by
  cases decision with
  | noReport => exact .ok _
  | complexInterface name score => exact .ok _
  | missingCheck score =>
      rw [diagnosticOf]
      cases unshown : pass.arithmetic.show? score with
      | none => exact .error (.unshowable (earned score rfl) unshown)
      | some shown => exact .ok _

section Reading

variable {pass : Pass α} {program : Value}

/-- What a node is built to is scored unless the node is nested too deep or cannot be read. -/
theorem scoreOf_faults
    (weighs : pass.arithmetic.Weighs) (entered : 0 ≤ pass.policy.entryDepth)
    {part : Value} (isObject : part.isObject = true) :
    FaultsOnly
      (fun fault => fault = .tooDeep ∧ Nesting.typeRoom < part.nesting ∨ Unreadable part fault)
      (pass.scoreOf part) := by
  have building := faults_of_buildWithin Nesting.typeRoom isObject 0
  rw [scoreOf, Scorer.freshScore]
  rcases built : outcome (build part) 0 with ⟨result, next⟩
  rw [build] at built
  rw [built] at building
  cases result with
  | error fault => exact .error (building fault rfl)
  | ok tree =>
      have untouched : ∀ node ∈ tree.toGraph.nodes,
          (ScoreCache.empty : ScoreCache Nat α).Untouched node.identity := by
        intro _ _
        exact ⟨rfl, List.not_mem_nil⟩
      have weighed : pass.scorer.arithmetic.Weighs := weighs
      rcases outcome_score_of_build weighed built entered untouched with
        ⟨score, after, scored, _⟩
      simp only [scored]
      exact .ok _

/-- What cannot be read has no score. -/
theorem exists_fault_of_unreadable {part : Value} (unreadable : Unreadable part fault)
    (isObject : part.isObject = true) : ∃ other, pass.scoreOf part = .error other := by
  rcases unreadable.exists_fault isObject Nesting.typeRoom 0 with ⟨other, failed⟩
  refine ⟨other, ?_⟩
  rw [scoreOf, Scorer.freshScore]
  rcases built : outcome (build part) 0 with ⟨result, next⟩
  rw [build] at built
  rw [built] at failed
  cases failed
  rfl

theorem scoredFinding_faults
    (weighs : pass.arithmetic.Weighs) (entered : 0 ≤ pass.policy.entryDepth)
    {exposed : Option (NameKey × Value)} {kind : DeclarationKind}
    {name part : Value} {decide : α → Decision α}
    (isObject : node.isObject = true)
    (partIsObject : part.isObject = true) (partInside : program.Contains part)
    (decides : ∀ score other, decide score = .missingCheck other → other = score) :
    FaultsOnly
      (fun fault => pass.Stops program fault ∨ Unreadable part fault ∨ Mispositions node fault)
      (pass.scoredFinding exposed kind name part node decide) := by
  rw [scoredFinding]
  refine ((scoreOf_faults weighs entered partIsObject).imp ?_).bind ?_
  · rintro fault (⟨rfl, deep⟩ | unreadable)
    · exact .inl (.tooDeep (lt_of_lt_of_le deep partInside.nesting_le))
    · exact .inr (.inl unreadable)
  · intro score scored
    refine FaultsOnly.bind (fun fault refused => ?_) ?_
    · exact .inr (.inr (mispositions_of_positionOf isObject refused))
    · intro source _
      refine ((diagnosticOf_faults ?_ source).imp fun fault stops => .inl stops).bind ?_
      · intro other decided
        rw [decides score other decided]
        exact .type partInside scored
      · intro report _
        exact .ok _

theorem aliasFinding_faults
    (weighs : pass.arithmetic.Weighs) (entered : 0 ≤ pass.policy.entryDepth)
    (isAlias : (typeOf node).isText "TSTypeAliasDeclaration" = true)
    (isObject : node.isObject = true) (inside : program.Contains node) :
    FaultsOnly (fun fault => pass.Stops program fault ∨ pass.Misdeclares node fault)
      (pass.aliasFinding node) := by
  rw [aliasFinding]
  cases aliasedIsObject : (node.field "typeAnnotation").isObject with
  | false =>
      rw [reexposed_of_no_object aliasedIsObject]
      exact .ok _
  | true =>
      have declared : declarationKind? pass.settings node = some .typeAlias := by
        simp [declarationKind?, isAlias, aliasedIsObject]
      have aliasedInside := inside.trans (Value.holds_field aliasedIsObject .here).contains
      refine FaultsOnly.bind (fun fault refused => ?_) ?_
      · exact .inr (.typeAlias declared (unreadable_of_reexposed refused))
      · intro target found
        refine FaultsOnly.bind (fun fault refused => ?_) ?_
        · rcases exposedName_eq_error_iff.mp refused with ⟨noName, rfl⟩
          exact .inr (.exposed declared found noName)
        · intro exposed _
          rw [if_pos rfl]
          refine (scoredFinding_faults weighs entered isObject aliasedIsObject aliasedInside
            ?_).imp ?_
          · intro score other decided
            rw [Decision.ofAlias] at decided
            split at decided
            · cases decided
            · cases decided
              rfl
          · rintro fault (stops | unreadable | mispositions)
            · exact .inl stops
            · exact .inr (.typeAlias declared unreadable)
            · exact .inr (.position declared mispositions)

theorem interfaceFinding_faults
    (weighs : pass.arithmetic.Weighs) (entered : 0 ≤ pass.policy.entryDepth)
    (declared : declarationKind? pass.settings node = some .interface)
    (isObject : node.isObject = true) (inside : program.Contains node) :
    FaultsOnly (fun fault => pass.Stops program fault ∨ pass.Misdeclares node fault)
      (pass.interfaceFinding node) := by
  refine (scoredFinding_faults weighs entered isObject isObject inside ?_).imp ?_
  · intro score other decided
    rw [Decision.ofInterface] at decided
    split at decided
    · cases decided
    · cases decided
  · rintro fault (stops | unreadable | mispositions)
    · exact .inl stops
    · exact .inr (.interface declared unreadable)
    · exact .inr (.position declared mispositions)

theorem declaratorFinding_faults
    (isAlias : (typeOf node).isText "TSTypeAliasDeclaration" = false)
    (isInterface : (typeOf node).isText "TSInterfaceDeclaration" = false)
    (isDeclarator : (typeOf node).isText "VariableDeclarator" = true)
    (isObject : node.isObject = true) :
    FaultsOnly (pass.Misdeclares node) (pass.declaratorFinding node) := by
  rw [declaratorFinding]
  split
  · rename_i called
    rw [hasExplicitCheck_eq isObject]
    refine FaultsOnly.bind (.ok _) ?_
    rintro _ ⟨rfl⟩
    split
    · exact .ok _
    · rename_i unannotated
      have declared : declarationKind? pass.settings node = some .validator := by
        simp [declarationKind?, isAlias, isInterface, isDeclarator, called, unannotated]
      rw [uncheckedFinding]
      refine FaultsOnly.bind (fun fault refused => ?_) ?_
      · rw [declaredName, requireObject, if_pos isObject] at refused
        cases refused
      · intro name _
        refine FaultsOnly.bind (fun fault refused => ?_) ?_
        · rw [validatorScore, map_eq_error_iff] at refused
          exact .validator declared
            (miscalls_of_validatorPoints (isObject_of_isValidatorCall called) refused)
        · intro score _
          refine FaultsOnly.bind (fun fault refused => ?_) ?_
          · exact .position declared (mispositions_of_positionOf isObject refused)
          · intro source _
            exact .ok _
  · exact .ok _

theorem finding_faults
    (weighs : pass.arithmetic.Weighs) (entered : 0 ≤ pass.policy.entryDepth)
    (isObject : node.isObject = true) (inside : program.Contains node) :
    FaultsOnly (fun fault => pass.Stops program fault ∨ pass.Misdeclares node fault)
      (pass.finding node) := by
  rw [finding]
  split
  · rename_i isAlias
    exact aliasFinding_faults weighs entered isAlias isObject inside
  · rename_i isAlias
    split
    · rename_i isInterface
      have declared : declarationKind? pass.settings node = some .interface := by
        simp [declarationKind?, isAlias, isInterface]
      exact interfaceFinding_faults weighs entered declared isObject inside
    · rename_i isInterface
      split
      · rename_i isDeclarator
        refine (declaratorFinding_faults ?_ ?_ isDeclarator isObject).imp fun _ => .inr
        · exact eq_false_of_ne_true isAlias
        · exact eq_false_of_ne_true isInterface
      · exact .ok _

theorem survey_faults
    (weighs : pass.arithmetic.Weighs) (entered : 0 ≤ pass.policy.entryDepth)
    (isObject : program.isObject = true) :
    FaultsOnly (pass.Halts program) (pass.survey program) := by
  rw [survey, requireObject, if_pos isObject]
  refine FaultsOnly.bind (.ok _) ?_
  intro _ _
  refine FaultsOnly.bind (.mapM ?_) ?_
  · intro node member
    rcases contains_of_mem_tourWithin isObject member with ⟨nodeIsObject, inside⟩
    refine (finding_faults weighs entered nodeIsObject inside).imp ?_
    rintro fault (stops | misdeclares)
    · exact .stops stops
    · exact .misdeclares member misdeclares
  · intro findings _
    split
    · exact .ok _
    · rename_i incomplete
      apply FaultsOnly.error
      apply Halts.stops
      apply Stops.tooDeep
      -- A tour has at least the room that a type expression has.
      have room : Nesting.typeRoom ≤ Nesting.nodeRoom := by decide
      by_contra shallow
      apply incomplete
      exact isComplete_of_nesting_le isObject (by omega)

/-- A report that is put off is on a validator of the program. -/
theorem exists_entry_of_putOff {findings : List (Finding α)}
    (surveyed : pass.survey program = .ok findings)
    {report : DeferredReport α} (member : report ∈ findings.filterMap Finding.putOff) :
    ∃ node ∈ (tour program).visited, ∃ entry, pass.Describes node entry ∧
      pass.isPutOff (node, entry) = true ∧ report = ⟨entry.name, entry.score, entry.source⟩ := by
  rcases List.mem_filterMap.mp member with ⟨found, foundMember, putOff⟩
  have read := forall₂_of_mapM_eq_ok (survey_eq_ok_iff.mp surveyed).2.2
  rcases exists_related_of_mem read foundMember with ⟨node, nodeMember, contributed⟩
  have contributes := contributes_of_finding contributed
  refine ⟨node, nodeMember, ?_⟩
  cases recorded : found.entry with
  | none => simp [(contributes.undeclared recorded).2.2] at putOff
  | some entry =>
      have deferred := contributes.putOff entry recorded
      rw [putOff] at deferred
      split at deferred
      · rename_i late
        exact ⟨entry, contributes.described entry recorded, late, Option.some.inj deferred⟩
      · cases deferred

theorem Describes.earns {entry : ScoredDeclaration α} (described : pass.Describes node entry)
    (late : pass.isPutOff (node, entry) = true) (inside : program.Contains node) :
    pass.Earns program entry.score := by
  have isValidator : entry.kind = .validator := kind_of_isPutOff late
  have scored := described.score 0
  have declared := described.kind
  rw [isValidator] at scored declared
  have initialIsObject := isObject_of_isValidator declared
  exact .validator (inside.trans (Value.holds_field initialIsObject .here).contains)
    initialIsObject scored

theorem isExempt_eq_error_iff {register : Register} (closed : register.isClosed = true)
    {name : Value} :
    register.isExempt name = .error fault ↔ isNoName name = true ∧ fault = .notAName name.kind := by
  rw [Register.isExempt, closed]
  simp only [Bool.not_true, Bool.false_eq_true, if_false]
  split
  · rename_i isNull
    cases name with
    | null => simp [isNoName]
    | _ => cases isNull
  · rw [Register.contains, map_eq_error_iff, nameKey_eq_error_iff]

theorem conclude_faults (isObject : program.isObject = true) {findings : List (Finding α)}
    (surveyed : pass.survey program = .ok findings) :
    FaultsOnly (pass.Halts program) (pass.conclude findings) := by
  have looking : FaultsOnly (pass.Halts program)
      (unexempted (registerOf findings).close (findings.filterMap Finding.putOff)) := by
    rw [unexempted_eq_mapM]
    refine (FaultsOnly.mapM ?_).map _
    intro report member
    refine FaultsOnly.map _ fun fault refused => ?_
    rcases exists_entry_of_putOff surveyed member with
      ⟨node, visited, entry, described, late, rfl⟩
    rcases (isExempt_eq_error_iff rfl).mp refused with ⟨noName, rfl⟩
    exact .misdeclares visited (.bound described late noName)
  rw [conclude, lateReports]
  refine FaultsOnly.bind (looking.bind ?_) ?_
  · intro kept left
    have keptReports := unexempted_eq_filter (fun _ _ => isExempt_registerOf) left
    refine FaultsOnly.bind (.mapM ?_) ?_
    · intro report member
      rw [keptReports, List.mem_filter] at member
      rcases exists_entry_of_putOff surveyed member.1 with
        ⟨node, visited, entry, described, late, rfl⟩
      rcases contains_of_mem_tourWithin isObject visited with ⟨_, inside⟩
      refine (diagnosticOf_faults ?_ _).imp fun fault stops => .stops stops
      rintro score ⟨rfl⟩
      exact described.earns late inside
    · intro reports _
      exact .ok _
  · intro late _
    exact .ok _

end Reading

end Pass

/-- A pass over any program stops only for one of the listed reasons. -/
theorem analyze_halts
    (pass : Pass α) (weighs : pass.arithmetic.Weighs) (entered : 0 ≤ pass.policy.entryDepth)
    {program : Value} (isObject : program.isObject = true) (supply : Nat) :
    FaultsOnly (pass.Halts program)
      (analyze pass.arithmetic pass.settings pass.file program supply).1 := by
  rw [analyze_fst]
  refine (Pass.survey_faults weighs entered isObject).bind ?_
  intro findings surveyed
  exact Pass.conclude_faults isObject surveyed

/-! ## Every one of these declarations stops a pass -/

namespace Pass

variable {pass : Pass α} {program : Value}

theorem Describes.unique {entry other : ScoredDeclaration α}
    (described : pass.Describes node entry) (otherDescribed : pass.Describes node other) :
    entry = other := by
  cases entry
  cases other
  cases described.kind.symm.trans otherDescribed.kind
  cases described.name.symm.trans otherDescribed.name
  cases (described.score 0).symm.trans (otherDescribed.score 0)
  cases described.source.symm.trans otherDescribed.source
  rfl

/-- A declaration that is read is described. -/
theorem exists_described {found : Finding α} {kind : DeclarationKind}
    (read : pass.finding node = .ok found)
    (declared : declarationKind? pass.settings node = some kind) :
    ∃ entry, found.entry = some entry ∧ pass.Describes node entry ∧ entry.kind = kind := by
  have contributes := contributes_of_finding read
  cases recorded : found.entry with
  | none =>
      rw [(contributes.undeclared recorded).1] at declared
      cases declared
  | some entry =>
      have described := contributes.described entry recorded
      exact ⟨entry, rfl, described, Option.some.inj (described.kind.symm.trans declared)⟩

theorem isTypeAlias_iff :
    declarationKind? pass.settings node = some .typeAlias ↔
      (typeOf node).isText "TSTypeAliasDeclaration" = true ∧
        (node.field "typeAnnotation").isObject = true := by
  rw [declarationKind?]
  split
  · simp [*]
  · split
    · simp [*]
    · split <;> simp [*]

/-- A report that is put off is looked up if a pass ends well. -/
theorem exists_exempt_of_conclude {findings : List (Finding α)} {diagnostics : List (Diagnostic α)}
    (concluded : pass.conclude findings = .ok diagnostics) {found : Finding α}
    (member : found ∈ findings) {report : DeferredReport α} (putOff : found.putOff = some report) :
    ∃ exempt, (registerOf findings).close.isExempt report.name = .ok exempt := by
  rcases bind_eq_ok_iff.mp concluded with ⟨late, lateMade, _⟩
  rcases bind_eq_ok_iff.mp lateMade with ⟨kept, left, _⟩
  rw [unexempted_eq_mapM, map_eq_ok_iff] at left
  rcases left with ⟨answers, looked, _⟩
  have listed : report ∈ findings.filterMap Finding.putOff :=
    List.mem_filterMap.mpr ⟨found, member, putOff⟩
  rcases exists_answer_of_mem_items looked listed with ⟨answer, answered⟩
  rcases map_eq_ok_iff.mp answered with ⟨exempt, looked, _⟩
  exact ⟨exempt, looked⟩

/-- A pass that meets such a declaration stops. -/
theorem Misdeclares.exists_fault (misdeclares : pass.Misdeclares node fault)
    (visited : node ∈ (tour program).visited) (supply : Nat) :
    ∃ other, (analyze pass.arithmetic pass.settings pass.file program supply).1 = .error other := by
  rw [analyze_fst]
  cases ended : pass.survey program >>= pass.conclude with
  | error other => exact ⟨other, rfl⟩
  | ok diagnostics =>
      exfalso
      rcases bind_eq_ok_iff.mp ended with ⟨findings, surveyed, concluded⟩
      rcases survey_eq_ok_iff.mp surveyed with ⟨isObject, _, mapped⟩
      rcases contains_of_mem_tourWithin isObject visited with ⟨nodeIsObject, _⟩
      rcases exists_related_of_mem (forall₂_of_mapM_eq_ok mapped).flip visited with
        ⟨found, member, read⟩
      cases misdeclares with
      | typeAlias declared unreadable =>
          rcases exists_described read declared with ⟨entry, _, described, kind⟩
          have scored := described.score 0
          rw [kind] at scored
          rcases exists_fault_of_unreadable unreadable (isTypeAlias_iff.mp declared).2 with
            ⟨other, failed⟩
          cases failed.symm.trans scored
      | interface declared unreadable =>
          rcases exists_described read declared with ⟨entry, _, described, kind⟩
          have scored := described.score 0
          rw [kind] at scored
          rcases exists_fault_of_unreadable unreadable nodeIsObject with ⟨other, failed⟩
          cases failed.symm.trans scored
      | validator declared miscalls =>
          rcases exists_described read declared with ⟨entry, _, described, kind⟩
          have scored := described.score 0
          rw [kind, scoreFrom, validatorScore, map_eq_ok_iff] at scored
          rcases scored with ⟨points, counted, _⟩
          rcases miscalls.exists_fault with ⟨other, failed⟩
          cases failed.symm.trans counted
      | position declared mispositions =>
          rcases exists_described read declared with ⟨entry, _, described, _⟩
          rcases mispositions.exists_fault with ⟨other, failed⟩
          cases failed.symm.trans described.source
      | exposed declared reexposes noName =>
          rw [finding, if_pos (isTypeAlias_iff.mp declared).1, aliasFinding, reexposes] at read
          rcases bind_eq_ok_iff.mp read with ⟨_, ⟨rfl⟩, read⟩
          rcases bind_eq_ok_iff.mp read with ⟨exposed, named, _⟩
          cases (exposedName_eq_error_iff.mpr ⟨noName, rfl⟩).symm.trans named
      | bound described late noName =>
          rcases exists_described read described.kind with ⟨_, recorded, other, _⟩
          cases described.unique other
          have putOff := (contributes_of_finding read).putOff _ recorded
          rw [if_pos late] at putOff
          rcases exists_exempt_of_conclude concluded member putOff with ⟨exempt, looked⟩
          cases ((isExempt_eq_error_iff rfl).mpr ⟨noName, rfl⟩).symm.trans looked

theorem Misdeclares.ne_tooDeep (misdeclares : pass.Misdeclares node fault) : fault ≠ .tooDeep := by
  cases misdeclares with
  | typeAlias _ unreadable | interface _ unreadable => exact unreadable.ne_tooDeep
  | position _ mispositions => exact mispositions.ne_tooDeep
  | validator _ miscalls => cases miscalls <;> nofun
  | exposed | bound => nofun

/-- A pass over a shallow program stops at no nesting. -/
theorem Halts.ne_tooDeep (halts : pass.Halts program fault)
    (shallow : program.nesting ≤ Nesting.typeRoom) : fault ≠ .tooDeep := by
  cases halts with
  | stops stops =>
      cases stops with
      | tooDeep deep => omega
      | unshowable => nofun
  | misdeclares _ misdeclares => exact misdeclares.ne_tooDeep

end Pass

end TypeGauge.Check
