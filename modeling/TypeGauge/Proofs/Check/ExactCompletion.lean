import TypeGauge.Proofs.Check.Completion
import TypeGauge.Proofs.Number.ExactTenths
import TypeGauge.Proofs.Score.Capping
import Mathlib.Analysis.SpecialFunctions.Log.Base

/-!
# Well-formed programs are analysed to the end

A pass over a well-formed program stops only when the program is nested too deep or
when a score cannot be shown.  In exact arithmetic the second cannot happen in
performance mode unless the weighed ceiling is huge: a type scores at most the ceiling
times the weight of the entry depth, and a validator at most three points for each
property of a list of a sensible length.
-/

namespace TypeGauge.Score

open TypeGauge.Number TypeGauge.Setup

/-- The weight of a depth: the binary logarithm of its successor. -/
noncomputable def logWeight (depth : Nat) : ℝ :=
  Real.logb (2 : ℕ) (depth + 1)

theorem logWeight_eq (depth : Nat) : logWeight depth = Real.logb 2 (depth + 1) := by
  rw [logWeight, Nat.cast_ofNat]

/-- Scores as real numbers, each depth weighed by a logarithm. -/
noncomputable def reals : Arithmetic ℝ :=
  .exact logWeight Tenths.exactText?

/-- Scoring with real numbers under a policy whose penalty and error threshold are not negative. -/
noncomputable def realScoring (policy : Policy ℝ) (penalty : 0 ≤ policy.interfacePenalty)
    (threshold : 0 ≤ policy.errorThreshold) : ExactScoring ℝ where
  weight := logWeight
  show? := Tenths.exactText?
  policy := policy
  weight_zero := by simp [logWeight]
  one_le_weight depth positive := by
    have larger : (1 : ℝ) ≤ depth := by exact_mod_cast positive
    rw [logWeight_eq, Real.le_logb_iff_rpow_le one_lt_two (by positivity), Real.rpow_one]
    linarith
  penalty_nonneg := penalty
  error_nonneg := threshold

end TypeGauge.Score

namespace TypeGauge.Check

open TypeGauge.Data TypeGauge.Files TypeGauge.Number TypeGauge.Setup TypeGauge.Score
open TypeGauge.Syntax TypeGauge.Types

/-- Points of validators are far from the largest score that can be shown. -/
theorem pointLimit_le : (pointLimit : ℝ) ≤ 10 ^ 26 := by
  have exact : pointLimit ≤ 10 ^ 26 := by decide
  exact_mod_cast exact

/-- A score that a part of a well-formed program earns with caps is shown. -/
theorem show?_isSome_of_earns
    {settings : Settings ℝ} {file : Path} {program : Value} (wellFormed : WellFormed program)
    (capped : settings.policy.performanceMode = true)
    (entered : 0 ≤ settings.policy.entryDepth)
    (penalty : 0 ≤ settings.policy.interfacePenalty)
    (threshold : 0 ≤ settings.policy.errorThreshold)
    (bounded : 2 * settings.policy.errorThreshold *
      Real.logb 2 (settings.policy.entryDepth + 1) ≤ 10 ^ 26)
    {score : ℝ} (earned : (⟨reals, settings, file⟩ : Pass ℝ).Earns program score) :
    (reals.show? score).isSome = true := by
  cases earned with
  | @type part _ inside scored =>
      have policy :
          (realScoring settings.policy penalty threshold).mode true = settings.policy := by
        rw [ExactScoring.mode, realScoring, ← capped]
      have scorer : (⟨reals, settings, file⟩ : Pass ℝ).scorer =
          (realScoring settings.policy penalty threshold).scorer true := by
        rw [ExactScoring.scorer, policy]
        rfl
      rw [Pass.scoreOf, scorer] at scored
      rcases ExactScoring.freshScore_bounds _ scored with ⟨nonnegative, below⟩
      have depth : ((settings.policy.entryDepth.toNat : Nat) : ℝ) = settings.policy.entryDepth := by
        exact_mod_cast Int.toNat_of_nonneg entered
      have weighed : score ≤ 2 * settings.policy.errorThreshold *
          Real.logb 2 (settings.policy.entryDepth + 1) := by
        rw [← depth, ← logWeight_eq]
        exact below
      exact Tenths.exactText?_isSome nonnegative (weighed.trans bounded)
  | @validator call _ inside isObject scored =>
      rcases exists_validatorPoints isObject (wellFormed.orderly.inside inside) with
        ⟨points, counted, few⟩
      rw [validatorScore, counted] at scored
      have exact : score = points := by
        rw [← Except.ok.inj scored]
        simp [Arithmetic.ofNat, reals, Arithmetic.exact]
      rw [exact]
      apply Tenths.exactText?_isSome (Nat.cast_nonneg points)
      exact (Nat.cast_le.mpr few).trans pointLimit_le

/--
In exact arithmetic and in performance mode, with an entry depth from nought on, a
penalty and an error threshold that are not negative and a weighed ceiling of at most
`10 ^ 26`, the only fault that a pass over a well-formed program can meet is that the
program is nested too deep.  Where there is room for its nesting, the pass ends well.
-/
theorem well_formed_programs_are_analyzed
    (settings : Settings ℝ) (file : Path) (program : Value) (supply : Nat)
    (wellFormed : WellFormed program)
    (capped : settings.policy.performanceMode = true)
    (entered : 0 ≤ settings.policy.entryDepth)
    (penalty : 0 ≤ settings.policy.interfacePenalty)
    (threshold : 0 ≤ settings.policy.errorThreshold)
    (bounded : 2 * settings.policy.errorThreshold *
      Real.logb 2 (settings.policy.entryDepth + 1) ≤ 10 ^ 26) :
    (∀ fault, (analyze reals settings file program supply).1 = .error fault → fault = .tooDeep) ∧
      (program.nesting ≤ Nesting.typeRoom →
        ∃ diagnostics, (analyze reals settings file program supply).1 = .ok diagnostics) := by
  have stops : FaultsOnly (fun fault => fault = .tooDeep ∧ Nesting.typeRoom < program.nesting)
      (analyze reals settings file program supply).1 := by
    have weighs : reals.Weighs := Arithmetic.exact_weighs _ _
    refine (analyze_faults ⟨reals, settings, file⟩ weighs entered wellFormed supply).imp ?_
    intro fault stopped
    cases stopped with
    | tooDeep deep => exact ⟨rfl, deep⟩
    | unshowable earned unshown =>
        have shown := show?_isSome_of_earns wellFormed capped entered penalty threshold bounded
          earned
        have hidden : reals.show? _ = none := unshown
        rw [hidden] at shown
        cases shown
  constructor
  · intro fault failed
    exact (stops fault failed).1
  · intro shallow
    apply FaultsOnly.exists_answer
    refine stops.imp ?_
    rintro fault ⟨_, deep⟩
    omega

/-- Two validators and an alias are well formed and analysed with the standard settings. -/
theorem lateExemption_is_analyzed :
    WellFormed lateExemption ∧ lateExemption.nesting ≤ Nesting.typeRoom ∧
      ∃ diagnostics,
        (analyze reals (.standard reals) ⟨.relative, []⟩ lateExemption 1).1 = .ok diagnostics := by
  have wellFormed : WellFormed lateExemption := ⟨rfl, by decide⟩
  have shallow : lateExemption.nesting ≤ Nesting.typeRoom := by decide
  refine ⟨wellFormed, shallow, ?_⟩
  have analyzed := well_formed_programs_are_analyzed (.standard reals) ⟨.relative, []⟩
    lateExemption 1 wellFormed rfl (by decide)
  refine (analyzed ?_ ?_ ?_).2 shallow
  · simp [Settings.standard, Policy.standard, reals, Arithmetic.ofNat, Arithmetic.exact]
  · simp [Settings.standard, Policy.standard, reals, Arithmetic.ofNat, Arithmetic.exact]
  · simp [Settings.standard, Policy.standard]

end TypeGauge.Check
