import TypeGauge.Proofs.Score.Renaming

/-!
# What scores depend on

Of a policy, scoring reads the penalty for interfaces and the mode, and in performance
mode the threshold for errors, which sets the ceiling of every sum.  Policies that have
these in common give every node the same score or the same fault; nothing else in them
reaches a score.
-/

namespace TypeGauge.Score

open TypeGauge.Data TypeGauge.Setup TypeGauge.Types

variable {α : Type}

/-- Two policies with everything in common that scoring reads. -/
structure ScoresAlike (policy other : Policy α) : Prop where
  penalty : other.interfacePenalty = policy.interfacePenalty
  mode : other.performanceMode = policy.performanceMode
  error : policy.performanceMode = true → other.errorThreshold = policy.errorThreshold

namespace ScoresAlike

variable {policy other : Policy α}

theorem addScore_eq (alike : ScoresAlike policy other) (arithmetic : Arithmetic α) :
    (⟨arithmetic, other⟩ : Scorer α).addScore = (⟨arithmetic, policy⟩ : Scorer α).addScore := by
  funext current addition
  cases capped : policy.performanceMode with
  | false => simp [Scorer.addScore, alike.mode, capped]
  | true =>
      simp [Scorer.addScore, Scorer.ceiling, Policy.ceiling, alike.mode, capped, alike.error capped]

theorem amount_eq (alike : ScoresAlike policy other) (arithmetic : Arithmetic α) :
    (⟨arithmetic, other⟩ : Scorer α).amount = (⟨arithmetic, policy⟩ : Scorer α).amount := by
  funext addend
  cases addend with
  | penalty => exact alike.penalty
  | halves count => rfl

theorem rawScore_eq (alike : ScoresAlike policy other) (arithmetic : Arithmetic α) :
    (⟨arithmetic, other⟩ : Scorer α).rawScore = (⟨arithmetic, policy⟩ : Scorer α).rawScore := by
  have added : (⟨arithmetic, other⟩ : Scorer α).addAll =
      (⟨arithmetic, policy⟩ : Scorer α).addAll := by
    funext current addends
    rw [Scorer.addAll, Scorer.addAll, alike.addScore_eq, alike.amount_eq]
  have charged : (⟨arithmetic, other⟩ : Scorer α).withSurcharge =
      (⟨arithmetic, policy⟩ : Scorer α).withSurcharge := by
    funext surcharge score
    cases surcharge with
    | none => rfl
    | some addend => rw [Scorer.withSurcharge, Scorer.withSurcharge, alike.amount_eq]
  have children : (⟨arithmetic, other⟩ : Scorer α).addChildren =
      (⟨arithmetic, policy⟩ : Scorer α).addChildren := by
    funext surcharge scoreOne requested total
    induction requested generalizing total with
    | nil => rfl
    | cons child rest hypothesis =>
        simp only [Scorer.addChildren, hypothesis, alike.addScore_eq, charged]
  funext graph scoreOne node
  rw [Scorer.rawScore, Scorer.rawScore, added, children]

theorem scoreWithin_eq (alike : ScoresAlike policy other) (arithmetic : Arithmetic α)
    (graph : TypeGraph) (room identity : Nat) (depth : Int) :
    (⟨arithmetic, other⟩ : Scorer α).scoreWithin graph room identity depth =
      (⟨arithmetic, policy⟩ : Scorer α).scoreWithin graph room identity depth := by
  induction room generalizing identity depth with
  | zero => rfl
  | succ room hypothesis =>
      simp only [Scorer.scoreWithin, hypothesis, alike.rawScore_eq]
      rfl

/-- Policies that score alike give what a node is built to the same score or the same fault. -/
theorem freshScore_eq (alike : ScoresAlike policy other) (arithmetic : Arithmetic α)
    (supply : Nat) (node : Value) (depth : Int) :
    (⟨arithmetic, other⟩ : Scorer α).freshScore supply node depth =
      (⟨arithmetic, policy⟩ : Scorer α).freshScore supply node depth := by
  simp only [Scorer.freshScore, Scorer.score, alike.scoreWithin_eq]

end ScoresAlike

end TypeGauge.Score
