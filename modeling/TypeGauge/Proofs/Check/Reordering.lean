import TypeGauge.Proofs.Check.Specification
import TypeGauge.Proofs.Check.Tours
import TypeGauge.Proofs.Data.Fields

/-!
# Programs whose declarations stand in another order

Two programs that list the same declarations in different orders are reported on
alike.  The walk meets the same nodes in another order.  What a node contributes
depends on the node alone, so the findings are the same up to order.  Which names are
exempt is decided when the walk is over, from the set of all re-exposed names, so the
late reports are the same up to order as well.  The final sort fixes the order of
reports about different places.

The node of the program itself differs between the two programs, but only in its list
of declarations, and no reader of a node looks at such a list except for the walk.
-/

namespace TypeGauge.Check

open TypeGauge.Data TypeGauge.Setup TypeGauge.Score TypeGauge.Syntax TypeGauge.Types

variable {α : Type}

/-! ## Programs in another order -/

/-- The key of a program's declarations. -/
def bodyKey : String :=
  "body"

/--
Two programs have the same fields, in whatever order, except that their bodies list
the same declarations in another order.
-/
inductive Reordered : Value → Value → Prop
  | intro {fields others rest : List (String × Value)} {body otherBody : List Value}
      (distinct : (fields.map Prod.fst).Nodup)
      (fieldsOf : fields.Perm ((bodyKey, .list body) :: rest))
      (othersOf : others.Perm ((bodyKey, .list otherBody) :: rest))
      (sameBody : body.Perm otherBody) :
      Reordered (.object fields) (.object others)

/-- What reading a program's own node depends on, apart from the walk. -/
structure ReadAlike (first second : Value) : Prop where
  isObject : first.isObject = true
  otherIsObject : second.isObject = true
  field? : ∀ key, key ≠ bodyKey → first.field? key = second.field? key
  body : (first.field bodyKey).isObject = false
  otherBody : (second.field bodyKey).isObject = false

theorem Reordered.readAlike {first second : Value} (reordered : Reordered first second) :
    ReadAlike first second := by
  cases reordered with
  | @intro fields others rest body otherBody distinct fieldsOf othersOf sameBody =>
      have keys : (others.map Prod.fst).Perm (fields.map Prod.fst) :=
        (othersOf.map Prod.fst).trans (fieldsOf.map Prod.fst).symm
      have otherDistinct : (others.map Prod.fst).Nodup := keys.nodup_iff.mpr distinct
      have looked := Value.lookup?_of_perm fieldsOf distinct
      have otherLooked := Value.lookup?_of_perm othersOf otherDistinct
      constructor
      · rfl
      · rfl
      · intro key notBody
        simp [Value.field?, looked, otherLooked, Value.lookup?, Ne.symm notBody]
      · simp [Value.field, Value.field?, looked, Value.lookup?, Value.isObject]
      · simp [Value.field, Value.field?, otherLooked, Value.lookup?, Value.isObject]

theorem Reordered.childNodes_perm {first second : Value} (reordered : Reordered first second) :
    (childNodes first).Perm (childNodes second) := by
  cases reordered with
  | @intro fields others rest body otherBody distinct fieldsOf othersOf sameBody =>
      have inBody : (nodesInside (.list body)).Perm (nodesInside (.list otherBody)) :=
        sameBody.filter isTyped
      have walked : skippedKeys.contains bodyKey = false := by decide
      refine (fieldsOf.flatMap_right _).trans (.trans ?_ (othersOf.flatMap_right _).symm)
      simp only [List.flatMap_cons, walked, Bool.false_eq_true, if_false]
      exact inBody.append_right _

namespace ReadAlike

variable {first second : Value} (alike : ReadAlike first second)

include alike

theorem field (key : String) (notBody : key ≠ bodyKey) : first.field key = second.field key := by
  rw [Value.field, Value.field, alike.field? key notBody]

theorem requireObject_eq : requireObject first = requireObject second := by
  simp [requireObject, alike.isObject, alike.otherIsObject]

theorem positionOf_eq : positionOf first = positionOf second := by
  rw [positionOf, positionOf, alike.requireObject_eq, alike.field "loc" (by decide)]

theorem nodesUnder_eq (key : String) (notBody : key ≠ bodyKey) :
    nodesUnder first key = nodesUnder second key := by
  rw [nodesUnder, nodesUnder, alike.field? key notBody]

theorem nodesAt_eq (keys : List String) (noBody : bodyKey ∉ keys) :
    nodesAt first keys = nodesAt second keys := by
  rw [nodesAt, nodesAt]
  apply List.flatMap_congr
  intro key member
  have notBody : key ≠ bodyKey := by
    rintro rfl
    exact noBody member
  rw [alike.field key notBody]

theorem typeArguments_eq : typeArguments first = typeArguments second := by
  rw [typeArguments, typeArguments, alike.requireObject_eq,
    alike.field "typeArguments" (by decide), alike.field "typeParameters" (by decide)]

theorem outline_eq (kind : TypeKind) : outline kind first = outline kind second := by
  -- Only interfaces have a body, and a list is not one, so its declarations are no members.
  have members_eq : members kind first = members kind second := by
    have body := alike.body
    have otherBody := alike.otherBody
    rw [bodyKey] at body otherBody
    simp only [members, body, otherBody, alike.nodesUnder_eq "members" (by decide)]
    rfl
  cases kind <;>
    simp only [outline, members_eq, nameUnder, parameters, mappedConstraint, alike.typeArguments_eq,
      alike.field "extends" (by decide), alike.field "id" (by decide),
      alike.nodesUnder_eq "types" (by decide), alike.nodesUnder_eq "elementTypes" (by decide),
      alike.nodesAt_eq ["elementType"] (by decide), alike.field "typeName" (by decide),
      alike.nodesAt_eq ["checkType", "extendsType", "trueType", "falseType"] (by decide),
      alike.field "typeParameter" (by decide), alike.field "constraint" (by decide),
      alike.nodesAt_eq [ascriptionKey] (by decide), alike.field "params" (by decide),
      alike.field? "parameters" (by decide), alike.field "returnType" (by decide)]

theorem build_eq : build first = build second := by
  have typeOf_eq : typeOf first = typeOf second := alike.field "type" (by decide)
  have unfolded : ∀ node, build node = buildWithin ((Nesting.typeRoom - 1) + 1) node := by
    intro node
    rfl
  rw [unfolded, unfolded, buildWithin, buildWithin, alike.requireObject_eq, typeOf_eq,
    alike.positionOf_eq]
  simp only [alike.outline_eq]

theorem finding_eq (pass : Pass α) : pass.finding first = pass.finding second := by
  have typeOf_eq : typeOf first = typeOf second := alike.field "type" (by decide)
  have scoreOf_eq : pass.scoreOf first = pass.scoreOf second := by
    rw [Pass.scoreOf, Pass.scoreOf, Scorer.freshScore, Scorer.freshScore, alike.build_eq]
  simp only [Pass.finding, Pass.aliasFinding, Pass.interfaceFinding, Pass.declaratorFinding,
    Pass.uncheckedFinding, Pass.scoredFinding, nameUnder, hasExplicitCheck, declaredName,
    typeOf_eq, scoreOf_eq, alike.positionOf_eq, alike.requireObject_eq,
    alike.field "typeAnnotation" (by decide), alike.field "id" (by decide),
    alike.field "init" (by decide)]

end ReadAlike

/-! ## Findings in another order -/

/-- After a walk, which names are exempt does not depend on the order of the findings. -/
theorem isExempt_registerOf_perm
    {findings others : List (Finding α)} (same : findings.Perm others) (name : Value) :
    (registerOf findings).close.isExempt name = (registerOf others).close.isExempt name := by
  have keys : ∀ key, (registerOf findings).hasKey key = (registerOf others).hasKey key := by
    intro key
    rw [Bool.eq_iff_iff, hasKey_registerOf, hasKey_registerOf]
    exact ((same.filterMap Finding.exposed).map Prod.fst).mem_iff
  have closed : (registerOf findings).close.hasKey = (registerOf others).close.hasKey :=
    funext keys
  simp only [Register.isExempt, Register.contains, closed]
  rfl

namespace Pass

variable (pass : Pass α)

theorem lateReports_perm
    {findings others : List (Finding α)} (same : findings.Perm others)
    {late : List (Diagnostic α)} (made : pass.lateReports findings = .ok late) :
    ∃ otherLate, pass.lateReports others = .ok otherLate ∧ late.Perm otherLate := by
  rw [lateReports, bind_eq_ok_iff] at made
  rcases made with ⟨kept, left, continued⟩
  rw [bind_eq_ok_iff] at continued
  rcases continued with ⟨reports, reported, ended⟩
  cases ended
  rw [unexempted_eq_mapM, map_eq_ok_iff] at left
  rcases left with ⟨found, looked, rfl⟩
  simp only [isExempt_registerOf_perm same] at looked
  rcases mapM_perm (same.filterMap Finding.putOff) looked with
    ⟨otherFound, otherLooked, sameFound⟩
  have sameKept : found.reduceOption.Perm otherFound.reduceOption := sameFound.filterMap id
  rcases mapM_perm sameKept reported with ⟨otherReports, otherReported, sameReports⟩
  refine ⟨otherReports.reduceOption, ?_, sameReports.filterMap id⟩
  have otherKept : unexempted (registerOf others).close (others.filterMap Finding.putOff) =
      .ok otherFound.reduceOption := by
    rw [unexempted_eq_mapM, otherLooked]
    rfl
  rw [lateReports, otherKept]
  simp only [bind, Except.bind, otherReported]
  rfl

theorem conclude_perm
    {findings others : List (Finding α)} (same : findings.Perm others)
    {diagnostics : List (Diagnostic α)} (concluded : pass.conclude findings = .ok diagnostics) :
    ∃ otherDiagnostics, pass.conclude others = .ok otherDiagnostics ∧
      diagnostics.Perm otherDiagnostics := by
  rw [conclude, bind_eq_ok_iff] at concluded
  rcases concluded with ⟨late, made, ended⟩
  cases ended
  rcases pass.lateReports_perm same made with ⟨otherLate, otherMade, sameLate⟩
  refine ⟨_, by rw [conclude, otherMade]; rfl, ?_⟩
  have unsorted := (same.filterMap Finding.report).append sameLate
  exact (List.mergeSort_perm _ _).trans (unsorted.trans (List.mergeSort_perm _ _).symm)

theorem survey_perm
    {first second : Value} (reordered : Reordered first second)
    {findings : List (Finding α)} (surveyed : pass.survey first = .ok findings) :
    ∃ others, pass.survey second = .ok others ∧ findings.Perm others := by
  have alike := reordered.readAlike
  rw [survey_eq_ok_iff, tour_eq] at surveyed
  rcases surveyed with ⟨_, complete, read⟩
  rcases tourAll_perm reordered.childNodes_perm complete with ⟨otherComplete, sameNodes⟩
  rw [List.mapM_cons, bind_eq_ok_iff] at read
  rcases read with ⟨own, ownRead, continued⟩
  rw [bind_eq_ok_iff] at continued
  rcases continued with ⟨inside, insideRead, ended⟩
  cases ended
  rcases mapM_perm sameNodes insideRead with ⟨otherInside, otherRead, sameInside⟩
  refine ⟨own :: otherInside, ?_, sameInside.cons own⟩
  rw [survey_eq_ok_iff, tour_eq]
  refine ⟨alike.otherIsObject, otherComplete, ?_⟩
  rw [List.mapM_cons, ← alike.finding_eq pass, ownRead]
  simp only [bind, Except.bind]
  rw [toursInside, otherRead]
  rfl

end Pass

/-- Sorted diagnostics about different places have one order. -/
theorem Diagnostic.sort_eq_of_perm
    {first second : List (Diagnostic α)} (same : first.Perm second)
    (ordered : first.Pairwise fun earlier later => earlier.place ≤ later.place)
    (otherOrdered : second.Pairwise fun earlier later => earlier.place ≤ later.place)
    (different : (first.map Diagnostic.place).Nodup) :
    first = second := by
  apply same.eq_of_pairwise _ ordered otherOrdered
  intro earlier later member otherMember notAfter notBefore
  apply List.inj_on_of_nodup_map different member (same.mem_iff.mpr otherMember)
  exact le_antisymm notAfter notBefore

theorem Pass.ordered_of_conclude
    {pass : Pass α} {findings : List (Finding α)} {diagnostics : List (Diagnostic α)}
    (concluded : pass.conclude findings = .ok diagnostics) :
    diagnostics.Pairwise fun earlier later => earlier.place ≤ later.place := by
  rw [Pass.conclude, bind_eq_ok_iff] at concluded
  rcases concluded with ⟨late, _, ended⟩
  cases ended
  exact (Diagnostic.sort_stablySorted _).ordered

/--
Programs that list the same declarations in another order have the same diagnostics:
if a pass over one of them ends well, so does a pass over the other, whatever
identities they hand out, and it finds the same in another order.  Where no two
diagnostics are about one place, it finds the same in the same order.
-/
theorem declaration_order_does_not_matter
    (pass : Pass α) (first second : Value) (reordered : Reordered first second)
    (supply otherSupply : Nat) (diagnostics : List (Diagnostic α))
    (ran : (analyze pass.arithmetic pass.settings pass.file first supply).1 = .ok diagnostics) :
    ∃ others,
      (analyze pass.arithmetic pass.settings pass.file second otherSupply).1 = .ok others ∧
        diagnostics.Perm others ∧
        ((diagnostics.map fun found => (found.line, found.column)).Nodup →
          diagnostics = others) := by
  rw [analyze_fst, bind_eq_ok_iff] at ran
  rcases ran with ⟨findings, surveyed, concluded⟩
  rcases pass.survey_perm reordered surveyed with ⟨otherFindings, otherSurveyed, sameFindings⟩
  rcases pass.conclude_perm sameFindings concluded with ⟨others, otherConcluded, same⟩
  refine ⟨others, ?_, same, ?_⟩
  · rw [analyze_fst, otherSurveyed]
    exact otherConcluded
  · intro different
    exact Diagnostic.sort_eq_of_perm same (Pass.ordered_of_conclude concluded)
      (Pass.ordered_of_conclude otherConcluded) different

/-- The same declarations with the alias first. -/
def earlyExemption : Value :=
  .object
    [("type", .text "Program"),
      ("body", .list [staticNode "user", validatorNode "order", validatorNode "user"])]

theorem lateExemption_reordered : Reordered lateExemption earlyExemption := by
  refine Reordered.intro (by decide) (.swap _ _ []) (.swap _ _ []) ?_
  exact (List.reverse_perm [staticNode "user", validatorNode "order", validatorNode "user"])

/-- The alias exempts the one validator and not the other, and it may as well come first. -/
theorem earlyExemption_reports_the_same :
    Reordered lateExemption earlyExemption ∧
      ∃ diagnostics : List (Diagnostic Nat),
        diagnostics.length = 1 ∧
          checkProgram wholeNumbers (.standard wholeNumbers) ⟨.relative, []⟩ lateExemption =
            .ok diagnostics ∧
          checkProgram wholeNumbers (.standard wholeNumbers) ⟨.relative, []⟩ earlyExemption =
            .ok diagnostics := by
  refine ⟨lateExemption_reordered, ?_⟩
  have returns : ∃ diagnostics state,
      analyze wholeNumbers (.standard wholeNumbers) ⟨.relative, []⟩ lateExemption 1 =
        (.ok diagnostics, state) := by
    apply exists_answer_of_toBool
    decide +kernel
  rcases returns with ⟨diagnostics, state, ran⟩
  have result : checkProgram wholeNumbers (.standard wholeNumbers) ⟨.relative, []⟩ lateExemption =
      .ok diagnostics := by
    rw [checkProgram, ran]
  have places :
      (checkProgram wholeNumbers (.standard wholeNumbers) ⟨.relative, []⟩
        lateExemption).toOption.map (List.map fun found => (found.line, found.column)) =
          some [(1, 0)] := by
    decide +kernel
  rw [result] at places
  have single : diagnostics.map (fun found => (found.line, found.column)) = [(1, 0)] :=
    Option.some.inj places
  rcases declaration_order_does_not_matter
      ⟨wholeNumbers, .standard wholeNumbers, ⟨.relative, []⟩⟩ lateExemption earlyExemption
      lateExemption_reordered 1 1 diagnostics result with ⟨others, otherRan, _, same⟩
  rw [← same (by rw [single]; decide)] at otherRan
  exact ⟨diagnostics, by simpa using congrArg List.length single, result, otherRan⟩

end TypeGauge.Check
